import LiveEditor.Proofs.Editor.Notifications

/-! # What a subscriber has not read

A subscriber divides what was sent into what it has read and what it has not.
What is sent comes behind the unread part, and reading takes from its front.
Only the latest of it is kept, so a subscriber that reads before its unread part
outgrows the bus misses nothing.
-/

namespace LiveEditor

namespace Bus

/-- A subscriber has read the history of a bus up to what it was told since. -/
def Unread (bus : Bus) (subscriber : Nat) (told : List Notification) : Prop :=
  ∃ read, bus.history = read ++ told ∧ bus.passed[subscriber]? = some read.length

variable {bus : Bus} {subscriber : Nat} {told : List Notification}

theorem length_history (bus : Bus) : bus.history.length = bus.count := by
  rw [history, List.length_reverse, bus.count_eq]

theorem Unread.count_eq {read : List Notification} (whole : bus.history = read ++ told) :
    bus.count = read.length + told.length := by
  rw [← length_history, whole, List.length_append]

/-! ## Sending -/

theorem unread_subscribe (bus : Bus) : bus.subscribe.2.Unread bus.subscribe.1 [] := by
  refine ⟨bus.history, (List.append_nil _).symm, ?_⟩
  rw [length_history]
  exact Array.getElem?_push_size

theorem Unread.emit (unread : bus.Unread subscriber told) (notification : Notification) :
    (bus.emit notification).Unread subscriber (told ++ [notification]) := by
  rcases unread with ⟨read, whole, passed⟩
  refine ⟨read, ?_, passed⟩
  rw [history_emit, whole, List.append_assoc]

theorem Unread.emitAll (unread : bus.Unread subscriber told)
    (notifications : List Notification) :
    (notifications.foldl Bus.emit bus).Unread subscriber (told ++ notifications) := by
  induction notifications generalizing bus told with
  | nil => rwa [List.append_nil]
  | cons notification rest induction =>
      rw [List.append_cons]
      exact induction (unread.emit notification)

/-! ## Reading -/

/-- What is left of the unread part are its latest notifications. -/
theorem sentFrom_position {read : List Notification} (whole : bus.history = read ++ told) :
    bus.sentFrom (bus.position read.length) = told.drop (told.length - capacity) := by
  have place : bus.position read.length = read.length + (told.length - capacity) := by
    rw [position, Unread.count_eq whole]
    omega
  rw [sentFrom_eq, whole, place, List.drop_append, Nat.add_sub_cancel_left,
    List.drop_eq_nil_of_le (Nat.le_add_right _ _), List.nil_append]

theorem Unread.pass (unread : bus.Unread subscriber told) (number : Nat)
    (inside : number ≤ told.length) :
    (bus.pass subscriber (bus.count - told.length + number)).Unread subscriber
      (told.drop number) := by
  rcases unread with ⟨read, whole, passed⟩
  refine ⟨read ++ told.take number, ?_, ?_⟩
  · rw [List.append_assoc, List.take_append_drop]
    exact whole
  · have bound := (Array.getElem?_eq_some_iff.1 passed).1
    rw [count_eq whole, Nat.add_sub_cancel, List.length_append, List.length_take,
      Nat.min_eq_left inside]
    exact Array.getElem?_setIfInBounds_self_of_lt bound

/-- A subscriber reads the latest of what it has not read, as much of it as is
kept, and has read everything then. -/
theorem Unread.drain (unread : bus.Unread subscriber told) :
    (bus.drain subscriber).1 = told.drop (told.length - capacity) ∧
      (bus.drain subscriber).2.Unread subscriber [] := by
  have after := unread.pass told.length (Nat.le_refl _)
  rcases unread with ⟨read, whole, passed⟩
  have place : bus.count - told.length + told.length = bus.count := by
    rw [count_eq whole]
    omega
  rw [List.drop_length, place] at after
  rw [Bus.drain, passed]
  exact ⟨sentFrom_position whole, after⟩

theorem Unread.drain_of_le (unread : bus.Unread subscriber told)
    (few : told.length ≤ capacity) : (bus.drain subscriber).1 = told := by
  rw [unread.drain.1, Nat.sub_eq_zero_of_le few, List.drop_zero]

theorem pass_of_passed {place : Nat} (passed : bus.passed[subscriber]? = some place) :
    bus.pass subscriber place = bus := by
  rcases Array.getElem?_eq_some_iff.1 passed with ⟨bound, rfl⟩
  simp [Bus.pass, Array.setIfInBounds, bound]

/-- To read everything is to read the next notification until there is none. -/
theorem Unread.drain_eq_next (unread : bus.Unread subscriber told) :
    bus.drain subscriber =
      match bus.next subscriber with
      | (none, left) => ([], left)
      | (some notification, left) =>
          (notification :: (left.drain subscriber).1, (left.drain subscriber).2) := by
  rcases unread with ⟨read, whole, passed⟩
  have bound := (Array.getElem?_eq_some_iff.1 passed).1
  have count := count_eq whole
  have kept := sentFrom_position whole
  simp only [Bus.drain, Bus.next, passed]
  generalize placed : bus.position read.length = place at kept ⊢
  cases rest : bus.sentFrom place with
  | nil =>
      rw [rest, eq_comm, List.drop_eq_nil_iff, capacity] at kept
      have everything : bus.count = read.length := by omega
      rw [everything, pass_of_passed passed]
  | cons notification more =>
      -- The place of the next reading is not moved by what the bus keeps.
      have next : (bus.pass subscriber (place + 1)).passed[subscriber]? = some (place + 1) :=
        Array.getElem?_setIfInBounds_self_of_lt bound
      have onward : (bus.pass subscriber (place + 1)).position (place + 1) = place + 1 := by
        have behind : bus.count - capacity ≤ place := placed ▸ Nat.le_max_right _ _
        exact Nat.max_eq_left (Nat.le_succ_of_le behind)
      have later : (bus.pass subscriber (place + 1)).sentFrom (place + 1) = more := by
        rw [sentFrom_eq] at rest ⊢
        change bus.history.drop (place + 1) = more
        rw [← List.tail_drop, rest, List.tail_cons]
      have passes : (bus.pass subscriber (place + 1)).pass subscriber bus.count =
          bus.pass subscriber bus.count := by
        simp [Bus.pass, Array.setIfInBounds_setIfInBounds]
      simp only [next, onward, later]
      exact congrArg (notification :: more, ·) passes.symm

end Bus

namespace Editor

variable {σ : Type} [DocumentStore σ]

/-- What an event tells a subscriber comes behind what it has not read. -/
theorem unread_dispatch {editor : Editor σ} {subscriber : Nat} {told : List Notification}
    (unread : editor.bus.Unread subscriber told) (event : SessionEvent) :
    (editor.dispatch event).bus.Unread subscriber
      (told ++ notifications editor.session.monitor event) := by
  rw [dispatch]
  dsimp only
  split <;> exact unread.emitAll _

theorem length_notifications_le (monitor : Monitor) (event : SessionEvent) :
    (notifications monitor event).length ≤ 2 := by
  rw [notifications]
  cases notification? monitor event <;> simp

end Editor

end LiveEditor

/-! # Ascending numbers

A finite set of numbers is kept as the list of its members in ascending order,
without duplicates.  It grows by one number, or comes from any list by sorting
it and dropping repeats.  In an ascending array the place where the numbers reach a
limit is found by halving.
-/

namespace LiveEditor.Ascending

def insert (new : Nat) : List Nat → List Nat
  | [] => [new]
  | first :: rest =>
      if new < first then new :: first :: rest
      else if new = first then first :: rest
      else first :: insert new rest

@[simp] theorem mem_insert (new number : Nat) (numbers : List Nat) :
    number ∈ insert new numbers ↔ number = new ∨ number ∈ numbers := by
  induction numbers with
  | nil => simp [insert]
  | cons first rest hypothesis =>
      simp only [insert]
      split
      · simp
      · split
        · next equal => simp [equal]
        · simp [hypothesis, or_left_comm]

/-- Insertion keeps a list ascending. -/
theorem pairwise_insert (new : Nat) (numbers : List Nat)
    (ascending : numbers.Pairwise (· < ·)) :
    (insert new numbers).Pairwise (· < ·) := by
  induction numbers with
  | nil => simp [insert]
  | cons first rest hypothesis =>
      obtain ⟨firstLeast, restAscending⟩ := List.pairwise_cons.1 ascending
      simp only [insert]
      split
      · next less =>
          refine List.pairwise_cons.2 ⟨?_, ascending⟩
          intro number member
          rcases List.mem_cons.1 member with rfl | member
          · exact less
          · exact Nat.lt_trans less (firstLeast number member)
      · split
        · exact ascending
        · refine List.pairwise_cons.2 ⟨?_, hypothesis restAscending⟩
          intro number member
          rcases (mem_insert _ _ _).1 member with rfl | member
          · omega
          · exact firstLeast number member

/-! ## From any list -/

def ofList (numbers : List Nat) : List Nat :=
  (numbers.mergeSort (· ≤ ·)).eraseReps

example : ofList [3, 1, 3, 2] = [1, 2, 3] := by cbv

theorem eraseReps_loop (last : Nat) (rest before : List Nat) :
    List.eraseRepsBy.loop (· == ·) last rest before =
      before.reverse ++ (last :: rest).eraseReps := by
  simp only [List.eraseReps, List.eraseRepsBy]
  induction rest generalizing last before with
  | nil => simp [List.eraseRepsBy.loop]
  | cons next rest hypothesis =>
      simp only [List.eraseRepsBy.loop]
      split
      · exact hypothesis last before
      · rw [hypothesis next (last :: before), hypothesis next [last]]
        simp

theorem eraseReps_cons_cons (first second : Nat) (rest : List Nat) :
    (first :: second :: rest).eraseReps =
      if first = second then (second :: rest).eraseReps
      else first :: (second :: rest).eraseReps := by
  have unfolded : (first :: second :: rest).eraseReps =
      List.eraseRepsBy.loop (· == ·) first (second :: rest) [] := rfl
  rw [unfolded, List.eraseRepsBy.loop]
  by_cases equal : first = second
  · simp [equal, eraseReps_loop]
  · simp [beq_false_of_ne equal, equal, eraseReps_loop]

theorem mem_eraseReps (number : Nat) (numbers : List Nat) :
    number ∈ numbers.eraseReps ↔ number ∈ numbers := by
  induction numbers with
  | nil => rfl
  | cons first rest hypothesis =>
      cases rest with
      | nil => rfl
      | cons second rest =>
          rw [eraseReps_cons_cons]
          split
          · next equal => simp [hypothesis, equal]
          · rw [List.mem_cons, hypothesis]
            exact List.mem_cons.symm

theorem pairwise_eraseReps {numbers : List Nat} (ordered : numbers.Pairwise (· ≤ ·)) :
    numbers.eraseReps.Pairwise (· < ·) := by
  induction numbers with
  | nil => exact .nil
  | cons first rest hypothesis =>
      cases rest with
      | nil => exact List.pairwise_singleton _ first
      | cons second rest =>
          obtain ⟨firstLeast, restOrdered⟩ := List.pairwise_cons.1 ordered
          rw [eraseReps_cons_cons]
          split
          · exact hypothesis restOrdered
          · next different =>
              refine List.pairwise_cons.2 ⟨?_, hypothesis restOrdered⟩
              intro number member
              rw [mem_eraseReps] at member
              have firstLess : first < second :=
                Nat.lt_of_le_of_ne (firstLeast second (by simp)) different
              rcases List.mem_cons.1 member with rfl | member
              · exact firstLess
              · have secondLeast := (List.pairwise_cons.1 restOrdered).1 number member
                exact Nat.lt_of_lt_of_le firstLess secondLeast

@[simp] theorem mem_ofList (number : Nat) (numbers : List Nat) :
    number ∈ ofList numbers ↔ number ∈ numbers := by
  rw [ofList, mem_eraseReps, List.mem_mergeSort]

theorem pairwise_ofList (numbers : List Nat) :
    (ofList numbers).Pairwise (· < ·) := by
  have sorted : (numbers.mergeSort (· ≤ ·)).Pairwise fun left right =>
      decide (left ≤ right) = true :=
    List.pairwise_mergeSort (by simp; omega) (by simp; omega) numbers
  exact pairwise_eraseReps (sorted.imp of_decide_eq_true)

/-! ## Searching an ascending array -/

def searchBetween (numbers : Array Nat) (limit low high : Nat)
    (within : high ≤ numbers.size) : Nat :=
  if ahead : low < high then
    let middle := low + (high - low) / 2
    if numbers[middle] < limit then
      searchBetween numbers limit (middle + 1) high within
    else
      searchBetween numbers limit low middle (by omega)
  else
    low
termination_by high - low

/-- How many numbers of an ascending array stay below a limit. -/
def partitionPoint (numbers : Array Nat) (limit : Nat) : Nat :=
  searchBetween numbers limit 0 numbers.size (Nat.le_refl _)

example : partitionPoint #[0, 2, 5, 7] 5 = 2 := by cbv

variable {numbers : Array Nat}

theorem getElem_lt_getElem (ascending : numbers.toList.Pairwise (· < ·))
    {left right : Nat} (ordered : left < right) (within : right < numbers.size) :
    numbers[left] < numbers[right] :=
  List.pairwise_iff_getElem.1 ascending left right (by simp; omega) within ordered

theorem getElem_le_getElem (ascending : numbers.toList.Pairwise (· < ·))
    {left right : Nat} (ordered : left ≤ right) (within : right < numbers.size) :
    numbers[left] ≤ numbers[right] := by
  rcases Nat.eq_or_lt_of_le ordered with rfl | less
  · exact Nat.le_refl _
  · exact Nat.le_of_lt (getElem_lt_getElem ascending less within)

/-- No number lies between two neighbours. -/
theorem le_getElem_of_lt (ascending : numbers.toList.Pairwise (· < ·))
    {number index : Nat} (member : number ∈ numbers) (within : index + 1 < numbers.size)
    (less : number < numbers[index + 1]) : number ≤ numbers[index] := by
  obtain ⟨place, inside, rfl⟩ := Array.mem_iff_getElem.1 member
  rcases Nat.lt_or_ge index place with later | earlier
  · exact absurd less (Nat.not_lt.2 (getElem_le_getElem ascending later inside))
  · exact getElem_le_getElem ascending earlier (Nat.lt_of_succ_lt within)

theorem getElem_zero_le (ascending : numbers.toList.Pairwise (· < ·))
    {number : Nat} (member : number ∈ numbers) (nonempty : 0 < numbers.size) :
    numbers[0] ≤ number := by
  obtain ⟨place, inside, rfl⟩ := Array.mem_iff_getElem.1 member
  exact getElem_le_getElem ascending (Nat.zero_le place) inside

theorem le_back (ascending : numbers.toList.Pairwise (· < ·))
    {number : Nat} (member : number ∈ numbers) (nonempty : 0 < numbers.size) :
    number ≤ numbers.back nonempty := by
  obtain ⟨place, inside, rfl⟩ := Array.mem_iff_getElem.1 member
  rw [Array.back]
  exact getElem_le_getElem ascending (by omega) (by omega)

/-- Below `low` the numbers stay below the limit, from `high` on they reach it. -/
structure Encloses (numbers : Array Nat) (limit low high : Nat) : Prop where
  ordered : low ≤ high
  within : high ≤ numbers.size
  below : ∀ index (_ : index < numbers.size), index < low → numbers[index] < limit
  reached : ∀ index (_ : index < numbers.size), high ≤ index → limit ≤ numbers[index]

theorem Encloses.step_above {limit low high middle : Nat}
    (encloses : Encloses numbers limit low high)
    (ascending : numbers.toList.Pairwise (· < ·)) (ahead : middle < high)
    (inside : middle < numbers.size) (less : numbers[middle] < limit) :
    Encloses numbers limit (middle + 1) high where
  ordered := ahead
  within := encloses.within
  below := by
    intro index _ earlier
    exact Nat.lt_of_le_of_lt
      (getElem_le_getElem ascending (Nat.lt_succ_iff.1 earlier) inside) less
  reached := encloses.reached

theorem Encloses.step_below {limit low high middle : Nat}
    (encloses : Encloses numbers limit low high)
    (ascending : numbers.toList.Pairwise (· < ·)) (behind : low ≤ middle)
    (inside : middle < numbers.size) (least : limit ≤ numbers[middle]) :
    Encloses numbers limit low middle where
  ordered := behind
  within := Nat.le_of_lt inside
  below := encloses.below
  reached := by
    intro index within later
    exact Nat.le_trans least (getElem_le_getElem ascending later within)

theorem Encloses.searchBetween {limit low high : Nat} (within : high ≤ numbers.size)
    (encloses : Encloses numbers limit low high)
    (ascending : numbers.toList.Pairwise (· < ·)) :
    Encloses numbers limit (searchBetween numbers limit low high within)
      (searchBetween numbers limit low high within) := by
  fun_induction Ascending.searchBetween numbers limit low high within with
  | case1 low high within ahead middle less hypothesis =>
      exact hypothesis (encloses.step_above ascending (by omega) (by omega) less)
  | case2 low high within ahead middle reached hypothesis =>
      exact hypothesis
        (encloses.step_below ascending (by omega) (by omega) (Nat.not_lt.1 reached))
  | case3 low high within finished =>
      have met : low = high := Nat.le_antisymm encloses.ordered (Nat.not_lt.1 finished)
      exact met ▸ encloses

theorem encloses_partitionPoint (ascending : numbers.toList.Pairwise (· < ·))
    (limit : Nat) :
    Encloses numbers limit (partitionPoint numbers limit)
      (partitionPoint numbers limit) := by
  have whole : Encloses numbers limit 0 numbers.size :=
    ⟨Nat.zero_le _, Nat.le_refl _, by omega, by omega⟩
  exact whole.searchBetween (Nat.le_refl _) ascending

theorem lt_partitionPoint_iff (ascending : numbers.toList.Pairwise (· < ·))
    (limit : Nat) {index : Nat} (within : index < numbers.size) :
    index < partitionPoint numbers limit ↔ numbers[index] < limit := by
  have encloses := encloses_partitionPoint ascending limit
  constructor
  · exact encloses.below index within
  · intro less
    rcases Nat.lt_or_ge index (partitionPoint numbers limit) with earlier | later
    · exact earlier
    · exact absurd less (Nat.not_lt.2 (encloses.reached index within later))

theorem partitionPoint_le_of_le (ascending : numbers.toList.Pairwise (· < ·))
    {limit index : Nat} (within : index < numbers.size) (reached : limit ≤ numbers[index]) :
    partitionPoint numbers limit ≤ index := by
  have stays := lt_partitionPoint_iff ascending limit within
  omega

theorem partitionPoint_le_partitionPoint (ascending : numbers.toList.Pairwise (· < ·))
    {low high : Nat} (ordered : low ≤ high) :
    partitionPoint numbers low ≤ partitionPoint numbers high := by
  have encloses := encloses_partitionPoint ascending high
  rcases Nat.lt_or_ge (partitionPoint numbers high) numbers.size with inside | outside
  · have reached := encloses.reached _ inside (Nat.le_refl _)
    exact partitionPoint_le_of_le ascending inside (Nat.le_trans ordered reached)
  · exact Nat.le_trans (encloses_partitionPoint ascending low).within outside

end LiveEditor.Ascending

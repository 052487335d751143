import LiveEditor.Text.Basic

/-! # Notifications

An editor tells its subscribers what has happened.  The bus keeps the latest
256 notifications for those who have not read them yet; a subscriber that falls
further behind goes on with the oldest one that is kept.
-/

namespace LiveEditor

inductive Notification where
  | stateChanged
  | compileLine (line : Text)
  | compileFinished (ok : Bool)
  | connectionChecked (connected : Bool)
  deriving DecidableEq, Repr

structure Bus where
  sent : List Notification
  count : Nat
  passed : Array Nat
  isOpen : Bool
  count_eq : count = sent.length
  deriving DecidableEq, Repr

namespace Bus

def empty : Bus where
  sent := []
  count := 0
  passed := #[]
  isOpen := true
  count_eq := rfl

instance : Inhabited Bus := ⟨empty⟩

def capacity : Nat := 256

def history (bus : Bus) : List Notification :=
  bus.sent.reverse

def emit (bus : Bus) (notification : Notification) : Bus :=
  { bus with
    sent := notification :: bus.sent
    count := bus.count + 1
    count_eq := by simp [bus.count_eq] }

@[simp] theorem history_emit (bus : Bus) (notification : Notification) :
    (bus.emit notification).history = bus.history ++ [notification] := by
  simp [history, emit]

def close (bus : Bus) : Bus :=
  { bus with isOpen := false }

def subscribe (bus : Bus) : Nat × Bus :=
  (bus.passed.size, { bus with passed := bus.passed.push bus.count })

def hasSubscriber (bus : Bus) (subscriber : Nat) : Bool :=
  subscriber < bus.passed.size

/-- Where a subscriber who has passed `passed` notifications goes on. -/
def position (bus : Bus) (passed : Nat) : Nat :=
  max passed (bus.count - capacity)

def pass (bus : Bus) (subscriber place : Nat) : Bus :=
  { bus with passed := bus.passed.setIfInBounds subscriber place }

def sentFrom (bus : Bus) (place : Nat) : List Notification :=
  (bus.sent.take (bus.count - place)).reverse

theorem sentFrom_eq (bus : Bus) (place : Nat) :
    bus.sentFrom place = bus.history.drop place := by
  simp [sentFrom, history, bus.count_eq, List.drop_reverse]

def next (bus : Bus) (subscriber : Nat) : Option Notification × Bus :=
  match bus.passed[subscriber]? with
  | none => (none, bus)
  | some passed =>
      let place := bus.position passed
      match bus.sentFrom place with
      | [] => (none, bus)
      | notification :: _ => (some notification, bus.pass subscriber (place + 1))

def drain (bus : Bus) (subscriber : Nat) : List Notification × Bus :=
  match bus.passed[subscriber]? with
  | none => ([], bus)
  | some passed =>
      (bus.sentFrom (bus.position passed), bus.pass subscriber bus.count)

end Bus

end LiveEditor

import LiveEditor.Ascending

/-! # Error lines

The lines that a compiler complained about: a set of line numbers, read in
ascending order.
-/

namespace LiveEditor

structure ErrorLines where
  lines : List Nat
  ascending : lines.Pairwise (· < ·)
  deriving DecidableEq

namespace ErrorLines

def empty : ErrorLines := ⟨[], .nil⟩

instance : Inhabited ErrorLines := ⟨empty⟩

def contains (set : ErrorLines) (line : Nat) : Bool :=
  set.lines.contains line

def insert (set : ErrorLines) (line : Nat) : ErrorLines :=
  ⟨Ascending.insert line set.lines,
    Ascending.pairwise_insert line set.lines set.ascending⟩

def insertAll (set : ErrorLines) (lines : List Nat) : ErrorLines :=
  lines.foldl insert set

def ofList (lines : List Nat) : ErrorLines :=
  empty.insertAll lines

def size (set : ErrorLines) : Nat :=
  set.lines.length

def isEmpty (set : ErrorLines) : Bool :=
  set.lines.isEmpty

@[simp] theorem mem_lines_insert (set : ErrorLines) (line other : Nat) :
    other ∈ (set.insert line).lines ↔ other = line ∨ other ∈ set.lines :=
  Ascending.mem_insert line other set.lines

theorem mem_lines_insertAll {set : ErrorLines} {lines : List Nat} {line : Nat} :
    line ∈ (set.insertAll lines).lines ↔ line ∈ set.lines ∨ line ∈ lines := by
  rw [insertAll]
  induction lines generalizing set with
  | nil => simp
  | cons first rest hypothesis =>
      rw [List.foldl_cons, hypothesis, mem_lines_insert, List.mem_cons, or_assoc,
        or_left_comm]

theorem mem_lines_ofList {lines : List Nat} {line : Nat} :
    line ∈ (ofList lines).lines ↔ line ∈ lines := by
  rw [ofList, mem_lines_insertAll]
  simp [empty]

end ErrorLines

end LiveEditor

/-!
# The tape

The tape is a row of 30000 cells, each of which holds a byte. A place beyond its ends reads as
zero and cannot be written, so both operations are total.

Results:
1. `get_blank`, `get_set`, `get_set_other`: what reading finds on the blank tape and after a write.
2. `ext_get`: two tapes with the same cells are equal.
3. `mem_nonzero`: the list of cells that are not zero is complete.
-/

namespace TapeMachine

/-- How many cells the tape has. -/
def tapeSize : Nat := 30000

/-- A row of bytes. -/
structure Tape where
  cells : Vector UInt8 tapeSize
deriving DecidableEq

namespace Tape

/-- The tape of zeros. -/
def blank : Tape := ⟨.replicate tapeSize 0⟩

/-- The cell at a place. -/
def get (t : Tape) (place : Nat) : UInt8 :=
  if inside : place < tapeSize then t.cells[place] else 0

/-- The tape with another byte at a place. -/
def set (t : Tape) (place : Nat) (value : UInt8) : Tape :=
  if inside : place < tapeSize then ⟨t.cells.set place value⟩ else t

/-- The place that a number names: it counts from the end of the tape if it is below zero. -/
def place? (n : Int) : Option Nat :=
  let place := if n < 0 then n + tapeSize else n
  if 0 ≤ place ∧ place < tapeSize then some place.toNat else none

/-- The cells that are not zero, with their places, in order. -/
def nonzero (t : Tape) : List (Nat × UInt8) :=
  (List.range tapeSize).filterMap fun place =>
    if t.get place = 0 then none else some (place, t.get place)

/-! ## Laws -/

@[simp] theorem get_blank (place : Nat) : blank.get place = 0 := by
  simp [get, blank]

theorem get_of_outside (t : Tape) {place : Nat} (outside : tapeSize ≤ place) :
    t.get place = 0 := by
  simp [get, Nat.not_lt.mpr outside]

theorem get_set (t : Tape) {place : Nat} (inside : place < tapeSize) (value : UInt8)
    (other : Nat) :
    (t.set place value).get other = if other = place then value else t.get other := by
  simp only [get, set, inside, dif_pos]
  by_cases reachable : other < tapeSize
  · simp only [reachable, dif_pos, Vector.getElem_set, eq_comm]
  · have differs : other ≠ place := by omega
    simp [reachable, differs]

theorem get_set_other (t : Tape) {place other : Nat} (apart : other ≠ place) (value : UInt8) :
    (t.set place value).get other = t.get other := by
  by_cases inside : place < tapeSize
  · rw [get_set t inside, if_neg apart]
  · rw [set, dif_neg inside]

theorem ext_get {t u : Tape} (same : ∀ place, t.get place = u.get place) : t = u := by
  obtain ⟨cells⟩ := t
  obtain ⟨others⟩ := u
  congr 1
  apply Vector.ext
  intro place inside
  simpa [get, inside] using same place

theorem mem_nonzero {t : Tape} {place : Nat} {value : UInt8} :
    (place, value) ∈ t.nonzero ↔ value ≠ 0 ∧ t.get place = value := by
  simp only [nonzero, List.mem_filterMap, List.mem_range]
  constructor
  · rintro ⟨at', _, found⟩
    split at found
    · cases found
    · next visible => cases found; exact ⟨visible, rfl⟩
  · rintro ⟨visible, rfl⟩
    refine ⟨place, ?_, by simp [visible]⟩
    apply Decidable.byContradiction
    intro outside
    exact visible (get_of_outside t (Nat.not_lt.mp outside))

end Tape

end TapeMachine

import TapeMachine.Instruction

/-!
# Programs

A program is a finite sequence of instructions, kept in an array because running it means looking
instructions up by position. Its text is the sequence of their symbols.

Results:
1. `ofList_toList`, `toList_ofList`: a program is its list of instructions.
2. `at?_ofNat`, `at?_negative`: a position counts from the front if it is not negative and from
   the back if it is.
-/

namespace TapeMachine

/-- A sequence of instructions. -/
structure Program where
  instructions : Array Instruction
deriving DecidableEq, Repr

namespace Program

/-- The program of a list of instructions. -/
def ofList (instructions : List Instruction) : Program :=
  ⟨instructions.toArray⟩

/-- The instructions in order. -/
def toList (p : Program) : List Instruction :=
  p.instructions.toList

/-- How many instructions the program has. -/
def size (p : Program) : Nat :=
  p.instructions.size

/-- The instruction at a position. -/
def fetch? (p : Program) (position : Nat) : Option Instruction :=
  p.instructions[position]?

/-- The instruction at a position that counts from the front, or, if it is negative, from the
back. -/
def at? (p : Program) (position : Int) : Option Instruction :=
  if 0 ≤ position then p.fetch? position.toNat
  else if -position ≤ p.size then p.fetch? (p.size - (-position).toNat)
  else none

/-- The program in its canonical spelling, without commentary. -/
def text (p : Program) : String :=
  String.ofList (p.toList.map Instruction.symbol)

/-- The names of the instructions in order. -/
def names (p : Program) : List String :=
  p.toList.map Instruction.name

@[simp] theorem toList_ofList (instructions : List Instruction) :
    (ofList instructions).toList = instructions := by
  simp [ofList, toList]

@[simp] theorem ofList_toList (p : Program) : ofList p.toList = p := by
  simp [ofList, toList]

@[simp] theorem size_ofList (instructions : List Instruction) :
    (ofList instructions).size = instructions.length := by
  simp [ofList, size]

theorem length_toList (p : Program) : p.toList.length = p.size := by
  simp [toList, size]

theorem fetch?_eq (p : Program) (position : Nat) : p.fetch? position = p.toList[position]? := by
  simp [fetch?, toList]

theorem fetch?_eq_none_iff {p : Program} {position : Nat} :
    p.fetch? position = none ↔ p.size ≤ position := by
  simp [fetch?, size]

theorem at?_ofNat (p : Program) (position : Nat) : p.at? position = p.fetch? position := by
  simp [at?]

theorem at?_negative (p : Program) {back : Nat} (inside : back < p.size) :
    p.at? (-(back + 1 : Nat) : Int) = p.fetch? (p.size - (back + 1)) := by
  have negative : ¬(0 : Int) ≤ -((back + 1 : Nat) : Int) := by omega
  have bound : -(-((back + 1 : Nat) : Int)) ≤ (p.size : Int) := by omega
  rw [at?, if_neg negative, if_pos bound]
  congr 1

end Program

end TapeMachine

/-!
# The eight instructions

An instruction is spelled by one character in program text and by a name in a stored program.
Every character that spells no instruction is commentary, so looking a character up answers with
an option.

Results:
1. The two spellings are read back by `ofSymbol?` and `ofName?`, and nothing else is
   (`ofSymbol?_eq_some_iff`, `ofName?_eq_some_iff`), so both are injective.
2. `all` lists every instruction once (`mem_all`, `nodup_all`).
-/

namespace TapeMachine

/-- What one symbol of a program asks the machine to do. -/
inductive Instruction
  /-- Move the data cursor one cell to the right. -/
  | moveRight
  /-- Move the data cursor one cell to the left. -/
  | moveLeft
  /-- Add one to the cell under the data cursor. -/
  | increment
  /-- Subtract one from the cell under the data cursor. -/
  | decrement
  /-- Write the cell under the data cursor. -/
  | output
  /-- Read a byte into the cell under the data cursor. -/
  | input
  /-- Open a loop: skip it when the cell is zero. -/
  | jumpForward
  /-- Close a loop: repeat it while the cell is not zero. -/
  | jumpBackward
deriving DecidableEq, Repr

namespace Instruction

/-- Every instruction, in the order in which the alphabet lists them. -/
def all : List Instruction :=
  [.moveRight, .moveLeft, .increment, .decrement, .output, .input, .jumpForward, .jumpBackward]

/-! ## Spellings -/

/-- The character that spells the instruction in program text. -/
def symbol : Instruction → Char
  | .moveRight => '>'
  | .moveLeft => '<'
  | .increment => '+'
  | .decrement => '-'
  | .output => '.'
  | .input => ','
  | .jumpForward => '['
  | .jumpBackward => ']'

/-- The name of the instruction in a stored program. -/
def name : Instruction → String
  | .moveRight => "MOVE_RIGHT"
  | .moveLeft => "MOVE_LEFT"
  | .increment => "INCREMENT"
  | .decrement => "DECREMENT"
  | .output => "OUTPUT"
  | .input => "INPUT"
  | .jumpForward => "JUMP_FORWARD"
  | .jumpBackward => "JUMP_BACKWARD"

/-- The instruction spelled by a character; `none` for a character of commentary. -/
def ofSymbol? : Char → Option Instruction
  | '>' => some .moveRight
  | '<' => some .moveLeft
  | '+' => some .increment
  | '-' => some .decrement
  | '.' => some .output
  | ',' => some .input
  | '[' => some .jumpForward
  | ']' => some .jumpBackward
  | _ => none

/-- The instruction with a given name, in exactly its spelling. -/
def ofName? : String → Option Instruction
  | "MOVE_RIGHT" => some .moveRight
  | "MOVE_LEFT" => some .moveLeft
  | "INCREMENT" => some .increment
  | "DECREMENT" => some .decrement
  | "OUTPUT" => some .output
  | "INPUT" => some .input
  | "JUMP_FORWARD" => some .jumpForward
  | "JUMP_BACKWARD" => some .jumpBackward
  | _ => none

/-- The instruction that a text spells when it is that one symbol and nothing more. -/
def ofText? (s : String) : Option Instruction :=
  match s.toList with
  | [c] => ofSymbol? c
  | _ => none

/-- The two loop brackets, whose matching a jump has to count. -/
def isBracket (i : Instruction) : Bool :=
  i == .jumpForward || i == .jumpBackward

/-! ## The spellings are read back -/

@[simp] theorem ofSymbol?_symbol (i : Instruction) : ofSymbol? i.symbol = some i := by
  cases i <;> rfl

theorem ofSymbol?_eq_some_iff {c : Char} {i : Instruction} :
    ofSymbol? c = some i ↔ c = i.symbol := by
  constructor
  · intro found
    unfold ofSymbol? at found
    split at found <;> simp_all [symbol] <;> subst found <;> rfl
  · rintro rfl
    exact ofSymbol?_symbol i

@[simp] theorem ofName?_name (i : Instruction) : ofName? i.name = some i := by
  cases i <;> rfl

theorem ofName?_eq_some_iff {s : String} {i : Instruction} :
    ofName? s = some i ↔ s = i.name := by
  constructor
  · intro found
    unfold ofName? at found
    split at found <;> simp_all [name] <;> subst found <;> rfl
  · rintro rfl
    exact ofName?_name i

theorem symbol_injective {i j : Instruction} (same : i.symbol = j.symbol) : i = j := by
  have := ofSymbol?_symbol i
  simp_all

theorem mem_all (i : Instruction) : i ∈ all := by
  cases i <;> decide

theorem nodup_all : all.Nodup := by
  decide

example : ofText? "+" = some .increment ∧ ofText? "++" = none ∧ ofText? "" = none := by decide

end Instruction

end TapeMachine

import TapeMachine.Instruction
import TapeMachine.SystemError
import TapeMachine.Text.Utf8

/-!
# Faults

A fault ends the execution of a program: a jump from a bracket without a partner, input that
cannot be read, or a move off the tape. Each is reported with a name, a message and the position
of the instruction at which it arose.
-/

namespace TapeMachine

/-- A fault as it is reported. -/
structure FaultReport where
  name : Text
  message : Text
  position? : Option Int
deriving DecidableEq, Repr

namespace FaultReport

/-- The report in one line. -/
def summary (r : FaultReport) : Text :=
  r.name ++ ": " ++ r.message

/-- The report with all its parts. -/
def shown (r : FaultReport) : String :=
  let position := match r.position? with
    | none => "None"
    | some position => toString position
  "Fault(name=" ++ Quoted.quote r.name ++ ", message=" ++ Quoted.quote r.message ++
    ", position=" ++ position ++ ")"

/-- A jump from a bracket that has no partner. -/
def unmatchedBracket (symbol : Text) (position : Int) : FaultReport :=
  ⟨"UnmatchedBracket", "Unmatched `" ++ symbol ++ s!"` instruction at position {position}",
    some position⟩

/-- Input that cannot be read. -/
def unreadableInput (position : Int) (reason : Text) : FaultReport :=
  ⟨"InputDecodeFailure", s!"cannot read input at position {position}: " ++ reason, some position⟩

/-- A move of the data cursor off the tape. -/
def offTape (position cursor : Int) : FaultReport :=
  ⟨"TapeBounds", s!"data cursor moved off the tape to {cursor} at position {position}",
    some position⟩

end FaultReport

/-- Why the execution of a program ended early. -/
inductive Fault
  /-- No partner was found for the instruction at a position. -/
  | unmatchedBracket (opener : Instruction) (position : Nat)
  /-- The input could not be read. -/
  | unreadableInput (position : Nat) (cause : SystemError)
  /-- The data cursor was to move to a place off the tape. -/
  | offTape (position : Nat) (cursor : Int)
deriving DecidableEq, Repr

namespace Fault

/-- The position of the instruction at which the fault arose. -/
def position : Fault → Nat
  | .unmatchedBracket _ position => position
  | .unreadableInput position _ => position
  | .offTape position _ => position

/-- The system error behind the fault. -/
def cause? : Fault → Option SystemError
  | .unreadableInput _ cause => some cause
  | _ => none

/-- The fault as it is reported. -/
def report : Fault → FaultReport
  | .unmatchedBracket opener position => .unmatchedBracket (toString opener.symbol) position
  | .unreadableInput position cause => .unreadableInput position cause.message
  | .offTape position cursor => .offTape position cursor

theorem position?_report (f : Fault) : f.report.position? = some (f.position : Int) := by
  cases f <;> rfl

end Fault

/-- Why an operation of the machine did not succeed. -/
inductive Failure
  /-- The program is at fault, or its input. -/
  | fault (fault : Fault)
  /-- The system could not write or open something. -/
  | system (error : SystemError)
  /-- A stream refused to be used, or a value is out of range, or a file name is impossible. -/
  | refused (message : Text)
  /-- Text with surrogates was to be written, or used as a file name. -/
  | unencodable (refusal : Utf8.EncodeRefusal)
  /-- A position outside the program, or a place outside the tape, was asked for. -/
  | outOfRange
deriving DecidableEq, Repr

/-- The failure in one line. -/
def Failure.message : Failure → Text
  | .fault f => f.report.summary
  | .system error => error.message
  | .refused reason => reason
  | .unencodable refusal => refusal.message
  | .outOfRange => "index out of range"

end TapeMachine

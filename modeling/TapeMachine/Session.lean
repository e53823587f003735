import TapeMachine.Files.Tree
import TapeMachine.Machine.Trace

/-!
# Sessions

A session is a machine with its program and with what is needed to log a run: a level of detail
and the name of the file that the log is written to. It is driven by single operations, in any
order and also after failures.

A log is closed when its run ends. If its very first line cannot be written, however, the run does
not start and the log stays open, stuck: whatever is to be logged from then on fails.

Results:
1. `files_perform`: only a run at a level of detail above zero writes a file.
-/

namespace TapeMachine

/-- A machine at work on a program, among files. -/
structure Session where
  program : Program
  machine : Machine
  logLevel : Int
  logFile : Text
  files : FileTree
  /-- The error with which an open log is stuck, if one is. -/
  stuck? : Option SystemError
deriving DecidableEq

/-- What a session can be asked to do. -/
inductive Operation
  /-- Take so many steps. -/
  | step (count : Nat)
  /-- Step until the machine halts or fails. -/
  | run
  /-- Move the data cursor. -/
  | moveDataCursor (offset : Int)
  /-- Read a byte into the cell. -/
  | readCell
  /-- Jump behind the partner of the instruction under the cursor. -/
  | jump (stride : Int)
  /-- Search for the partner of the instruction at a position. -/
  | findMatch (origin : Nat) (stride : Int)
  /-- Put a byte into any cell. A place below zero counts from the end of the tape. -/
  | setCell (place value : Int)
  /-- Put the data cursor somewhere. -/
  | setDataCursor (place : Nat)
  /-- Put the instruction cursor somewhere. -/
  | setInstCursor (position : Nat)
  /-- Change the level of detail of logs. -/
  | setLogLevel (level : Int)
deriving DecidableEq, Repr

/-- What an operation answers. -/
inductive Answer
  | done
  /-- The position of a partner. -/
  | found (position : Nat)
  | failed (failure : Failure)
deriving DecidableEq, Repr

/-- The failure of an operation because a file cannot be opened. -/
def Failure.ofOpenError : OpenError → Failure
  | .system error => .system error
  | .nullByte => .refused OpenError.nullByte.message
  | .unencodable refusal => .unencodable refusal

/-- What an operation of the machine answers. -/
def Outcome.answer (o : Outcome) : Answer :=
  match o.failure? with
  | none => .done
  | some failure => .failed failure

namespace Session

/-- A session on a program with a machine before its first step. -/
def start (program : Program) (input : Input) (output : Output) (logLevel : Int)
    (logFile : Text) (files : FileTree) : Session where
  program := program
  machine := .fresh input output
  logLevel := logLevel
  logFile := logFile
  files := files
  stuck? := none

/-- The session after its machine did something. -/
def after (s : Session) (o : Outcome) : Session × Answer :=
  ({ s with machine := o.machine }, o.answer)

/-- Takes a step of the machine. -/
def step (s : Session) (m : Machine) : Outcome :=
  match s.stuck? with
  | none => m.step s.program
  | some error => m.stepStuck s.program s.logLevel error

/-- Makes a jump with the machine. -/
def jump (s : Session) (stride : Int) : Outcome :=
  let o := s.machine.jump s.program stride
  match s.stuck?, s.program.fetch? s.machine.instCursor with
  | some error, some i => Machine.noteJump o i s.machine.instCursor s.logLevel error
  | _, _ => o

/-- Runs the machine without a log of its own; a log that is stuck does not let it start. -/
def runUnlogged (s : Session) (fuel : Nat) : Option (Session × Answer) :=
  match s.stuck? with
  | none => (s.machine.run s.program fuel).map s.after
  | some error => some (s, .failed (.system error))

/-- Runs the machine with a log that is opened at a place and then holds the log of this run and
nothing else. -/
def runLogged (s : Session) (place : FilePlace) (fuel : Nat) : Option (Session × Answer) :=
  match s.files.writeError? place with
  | some error => some ({ s with stuck? := some error }, .failed (.system error))
  | none =>
    (s.machine.runLogged s.program s.logLevel fuel).map fun (o, log) =>
      { s with files := s.files.put place log.content, stuck? := none }.after o

/-- Runs the machine. At a level of detail above zero the file of the log is opened first, and if
that fails nothing is run. There is no answer if the fuel runs out before the run ends. -/
def run (s : Session) (fuel : Nat) : Option (Session × Answer) :=
  if s.logLevel ≤ 0 then s.runUnlogged fuel
  else
    match s.files.locateForWriting s.logFile with
    | .error error => some (s, .failed (.ofOpenError error))
    | .ok place => s.runLogged place fuel

/-- Performs an operation. Only a run can fail to answer. -/
def perform (s : Session) (fuel : Nat) : Operation → Option (Session × Answer)
  | .step count => some (s.after (s.machine.iterate s.step count))
  | .run => s.run fuel
  | .moveDataCursor offset => some (s.after (s.machine.moveDataCursor offset))
  | .readCell => some (s.after s.machine.readCell)
  | .jump stride => some (s.after (s.jump stride))
  | .findMatch origin stride =>
    match Machine.findMatch s.program origin stride with
    | .ok position => some (s, .found position)
    | .error failure => some (s, .failed failure)
  | .setCell place value =>
    if 0 ≤ value ∧ value < 256 then
      match Tape.place? place with
      | some place =>
        some ({ s with
          machine.tape := s.machine.tape.set place (UInt8.ofNat value.toNat) }, .done)
      | none => some (s, .failed .outOfRange)
    else some (s, .failed (.refused "byte must be in range(0, 256)"))
  | .setDataCursor place => some ({ s with machine.dataCursor := place }, .done)
  | .setInstCursor position => some ({ s with machine.instCursor := position }, .done)
  | .setLogLevel level => some ({ s with logLevel := level }, .done)

/-! ## Only logged runs write -/

@[simp] theorem files_after (s : Session) (o : Outcome) : (s.after o).1.files = s.files := rfl

theorem files_run_of_unlogged {s t : Session} {fuel : Nat} {answer : Answer}
    (unlogged : s.logLevel ≤ 0) (ran : s.run fuel = some (t, answer)) : t.files = s.files := by
  rw [run, if_pos unlogged, runUnlogged] at ran
  split at ran
  · obtain ⟨o, _, same⟩ := Option.map_eq_some_iff.mp ran
    have := congrArg (fun result => result.1.files) same
    simpa using this.symm
  · cases ran
    rfl

theorem files_perform {s t : Session} {fuel : Nat} {operation : Operation} {answer : Answer}
    (quiet : operation = .run → s.logLevel ≤ 0)
    (performed : s.perform fuel operation = some (t, answer)) : t.files = s.files := by
  cases operation with
  | run => exact files_run_of_unlogged (quiet rfl) performed
  | findMatch origin stride =>
    simp only [perform] at performed
    split at performed <;> cases performed <;> rfl
  | setCell place value =>
    simp only [perform] at performed
    split at performed
    · split at performed <;> cases performed <;> rfl
    · cases performed
      rfl
  | _ =>
    simp only [perform, Option.some.injEq] at performed
    have := congrArg (fun result => result.1.files) performed
    simpa using this.symm

end Session

end TapeMachine

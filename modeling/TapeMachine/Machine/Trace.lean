import TapeMachine.Machine
import TapeMachine.Text.Utf8

/-!
# Traces

A run can be logged. The log opens with the size of the program and closes with the place where
the run ended; in between stand, by level of detail, the instructions attempted, the jumps taken
and the fault that ended the run. A log never has a part in what the machine does; it can only
turn a fault whose message cannot be written to it into a failure of its own.

Results:
1. `note_entries`: an entry is kept exactly if the level asks for it.
2. `outcome_stepOnto`, `outcome_runOnto`: the steps of a logged run are those of the run without a
   log, and `machine_runLogged`: both leave the machine in the same state.
-/

namespace TapeMachine

/-- One line of a log. -/
inductive LogEntry
  /-- The run starts on a program of so many instructions. -/
  | started (size : Nat)
  /-- An instruction is attempted: the number of the step, the cursors and the cell before it. -/
  | attempted (step : Nat) (i : Instruction) (instCursor dataCursor : Nat) (cell : UInt8)
  /-- A jump was taken from one position to another. -/
  | jumped (i : Instruction) (origin landing : Nat)
  /-- The run ends in a fault. -/
  | faulted (fault : Fault)
  /-- The run is over. -/
  | ended (steps instCursor dataCursor : Nat)
deriving DecidableEq, Repr

namespace LogEntry

/-- The level of detail from which on the entry is kept. -/
def level : LogEntry → Int
  | .attempted .. => 3
  | .jumped .. => 2
  | _ => 1

/-- The entry as a line, without its end. -/
def line : LogEntry → Text
  | .started size => s!"run: {size} instructions"
  | .attempted step i instCursor dataCursor cell =>
    s!"{step}: {i.symbol} @{instCursor} tape[{dataCursor}]={cell.toNat}"
  | .jumped i origin landing => s!"jump {i.symbol} @{origin} -> {landing}"
  | .faulted fault => "fault: " ++ fault.report.summary
  | .ended steps instCursor dataCursor =>
    s!"halt: steps={steps} inst_cursor={instCursor} data_cursor={dataCursor}"

/-- The bytes of the entry in the file of a log. Only a fault that passes on a system message can
have text that cannot be encoded. -/
def bytes (entry : LogEntry) : Except Utf8.EncodeRefusal (List UInt8) :=
  Utf8.encodeText (entry.line ++ "\n")

end LogEntry

/-- A log under way: its level of detail and the entries so far. -/
structure Log where
  level : Int
  entries : Array LogEntry
deriving DecidableEq, Repr

namespace Log

/-- A log without entries. -/
def empty (level : Int) : Log := ⟨level, #[]⟩

/-- Takes an entry, if the level of detail asks for it. -/
def note (log : Log) (entry : LogEntry) : Log :=
  if entry.level ≤ log.level then { log with entries := log.entries.push entry } else log

/-- The content of the file in which a log is kept, one entry a line. What cannot be encoded is
never noted. -/
def content (log : Log) : List UInt8 :=
  log.entries.toList.flatMap fun entry => (entry.bytes).toOption.getD []

@[simp] theorem level_note (log : Log) (entry : LogEntry) : (log.note entry).level = log.level := by
  unfold note
  split <;> rfl

theorem note_entries (log : Log) (entry : LogEntry) :
    (log.note entry).entries.toList =
      log.entries.toList ++ if entry.level ≤ log.level then [entry] else [] := by
  unfold note
  split <;> simp

end Log

namespace Machine

/-- The attempt of an instruction in a state, as it is logged: counted, and otherwise as the state
stands before it. -/
def attempt (m : Machine) (i : Instruction) : LogEntry :=
  .attempted (m.steps + 1) i m.instCursor m.dataCursor m.cell

/-- The end of a run in a state, as it is logged. -/
def ending (m : Machine) : LogEntry :=
  .ended m.steps m.instCursor m.dataCursor

/-- A step that is logged: first the attempt, then the jump if the instruction took one. -/
def stepOnto (p : Program) (log : Log) (m : Machine) : Outcome × Log :=
  match p.fetch? m.instCursor with
  | none => (⟨m, none⟩, log)
  | some i =>
    let log := log.note (m.attempt i)
    let jumping := (m.jumpStride? i).isSome
    let origin := m.instCursor
    match m.step p with
    | ⟨m, none⟩ => (⟨m, none⟩, if jumping then log.note (.jumped i origin m.instCursor) else log)
    | failed => (failed, log)

/-- The steps of a logged run, up to the halt or the first failure. -/
def runOnto (p : Program) : Nat → Log → Machine → Option (Outcome × Log)
  | 0, _, _ => none
  | fuel + 1, log, m =>
    if m.halted p then some (⟨m, none⟩, log)
    else
      match m.stepOnto p log with
      | (⟨m, none⟩, log) => runOnto p fuel log m
      | failed => some failed

/-- Notes how a run ended. A fault that cannot be written to the log is not noted, and the run then
fails for that reason instead. -/
def close (o : Outcome) (log : Log) : Outcome × Log :=
  match o.failure? with
  | some (.fault fault) =>
    match (LogEntry.faulted fault).bytes with
    | .ok _ => (o, (log.note (.faulted fault)).note o.machine.ending)
    | .error refusal =>
      (⟨o.machine, some (.unencodable refusal)⟩, log.note o.machine.ending)
  | _ => (o, log.note o.machine.ending)

/-- A run that is logged with a level of detail. -/
def runLogged (p : Program) (level : Int) (fuel : Nat) (m : Machine) : Option (Outcome × Log) :=
  (runOnto p fuel ((Log.empty level).note (.started p.size)) m).map
    fun (o, log) => close o log

/-! ## Logs that are stuck -/

/-- What becomes of a jump, from one position, that is noted in a log at a level of detail, if each
note fails with an error. The jump itself was made before. -/
def noteJump (o : Outcome) (i : Instruction) (origin : Nat) (level : Int)
    (error : SystemError) : Outcome :=
  match o with
  | ⟨m, none⟩ =>
    if (LogEntry.jumped i origin m.instCursor).level ≤ level then ⟨m, some (.system error)⟩
    else ⟨m, none⟩
  | failed => failed

/-- A step that is noted in a log at a level of detail, if each note fails with an error. The
attempt is counted and noted before the instruction is carried out, a jump after it. -/
def stepStuck (p : Program) (level : Int) (error : SystemError) (m : Machine) : Outcome :=
  match p.fetch? m.instCursor with
  | none => ⟨m, none⟩
  | some i =>
    if (m.attempt i).level ≤ level then ⟨m.tick, some (.system error)⟩
    else if (m.jumpStride? i).isSome then
      noteJump (m.step p) i m.instCursor level error
    else m.step p

/-! ## A log has no part in the run -/

theorem outcome_stepOnto (p : Program) (log : Log) (m : Machine) :
    (m.stepOnto p log).1 = m.step p := by
  unfold stepOnto
  split
  · next halted => simp [step, halted]
  · split
    · next after stepped => simp [stepped]
    · rfl

theorem outcome_runOnto (p : Program) (fuel : Nat) (log : Log) (m : Machine) :
    (m.runOnto p fuel log).map Prod.fst = m.run p fuel := by
  induction fuel generalizing log m with
  | zero => rfl
  | succ fuel ih =>
    rw [runOnto, run, ← outcome_stepOnto p log m]
    split
    · rfl
    · obtain ⟨⟨after, failure?⟩, log⟩ := m.stepOnto p log
      cases failure? with
      | none => exact ih log after
      | some failure => rfl

theorem machine_close (o : Outcome) (log : Log) : (close o log).1.machine = o.machine := by
  unfold close
  split
  · split <;> rfl
  · rfl

theorem machine_runLogged (p : Program) (level : Int) (fuel : Nat) (m : Machine) :
    (m.runLogged p level fuel).map (·.1.machine) = (m.run p fuel).map Outcome.machine := by
  rw [← outcome_runOnto p fuel ((Log.empty level).note (.started p.size)) m, runLogged,
    Option.map_map, Option.map_map]
  congr 1
  funext result
  exact machine_close result.1 result.2

end Machine

end TapeMachine

import TapeMachine.Machine.Trace

/-!
# The record of a run

What there is to note of a run can be told from the states of the machine alone: the states before
each attempt, in order, then how the run ended. The log of a run at a level of detail is this record
with the entries left out that the level does not ask for. So the log at a lower level is the log at
a higher one with some entries left out, and a log shows the run as it is without one.

Results:
1. `entries_stepOnto`: what one step notes.
2. `entries_runOnto`: what all steps of a run note.
3. `entries_close`: the log of a run that is over.
-/

namespace TapeMachine

open Machine

/-- The entries that are kept at a level of detail. -/
def LogEntry.kept (level : Int) (entries : List LogEntry) : List LogEntry :=
  entries.filter fun entry => entry.level ≤ level

/-- The entry of a run that ended in a fault. Any other end has none of its own. -/
def Outcome.faults (o : Outcome) : List LogEntry :=
  match o.failure? with
  | some (.fault fault) => [.faulted fault]
  | _ => []

namespace LogEntry

theorem kept_append (level : Int) (entries more : List LogEntry) :
    kept level (entries ++ more) = kept level entries ++ kept level more :=
  List.filter_append ..

/-- Of what is kept at a level, a lower level keeps what it keeps of all. -/
theorem kept_kept {lower level : Int} (below : lower ≤ level) (entries : List LogEntry) :
    kept lower (kept level entries) = kept lower entries := by
  rw [kept, kept, List.filter_filter]
  apply List.filter_congr
  intro entry _
  simp only [← Bool.decide_and, decide_eq_decide]
  exact ⟨And.left, fun low => ⟨low, Int.le_trans low below⟩⟩

end LogEntry

namespace Log

theorem entries_note (log : Log) (entry : LogEntry) :
    (log.note entry).entries.toList = log.entries.toList ++ LogEntry.kept log.level [entry] := by
  rw [note_entries, LogEntry.kept]
  by_cases asked : entry.level ≤ log.level <;> simp [asked]

end Log

namespace Machine

/-! ## Records -/

/-- What there is to note of the attempt that is made in a state: the attempt itself, as the state
stands before it, and the jump if one is taken, with the place where it lands. -/
def noted (p : Program) (m : Machine) : List LogEntry :=
  match p.fetch? m.instCursor with
  | none => []
  | some i =>
    m.attempt i ::
      match m.jumpStride? i, m.step p with
      | some _, ⟨after, none⟩ => [.jumped i m.instCursor after.instCursor]
      | _, _ => []

/-- The states before each of so many attempts. -/
def course (p : Program) : Nat → Machine → List Machine
  | 0, _ => []
  | attempts + 1, m => m :: course p attempts (m.step p).machine

/-- All there is to note of a run with so many attempts that ended in an outcome. -/
def record (p : Program) (attempts : Nat) (m : Machine) (o : Outcome) : List LogEntry :=
  .started p.size :: (course p attempts m).flatMap (noted p) ++ o.faults ++ [o.machine.ending]

/-! ## What is noted -/

theorem entries_stepOnto (p : Program) (log : Log) (m : Machine) :
    (m.stepOnto p log).2.level = log.level ∧
    (m.stepOnto p log).2.entries.toList =
      log.entries.toList ++ LogEntry.kept log.level (m.noted p) := by
  unfold stepOnto noted
  cases p.fetch? m.instCursor with
  | none => exact ⟨rfl, (List.append_nil _).symm⟩
  | some i =>
    simp only
    rcases m.step p with ⟨after, _ | failure⟩
    · cases m.jumpStride? i with
      | none => exact ⟨Log.level_note .., Log.entries_note ..⟩
      | some stride =>
        refine ⟨by simp, ?_⟩
        simp only [Option.isSome_some, if_true]
        rw [Log.entries_note, Log.entries_note, Log.level_note, List.append_assoc,
          ← LogEntry.kept_append]
        rfl
    · cases m.jumpStride? i <;> exact ⟨Log.level_note .., Log.entries_note ..⟩

/-- The induction is on the fuel: a run notes its first step and then what is left of it. -/
theorem entries_runOnto {p : Program} {fuel : Nat} {log last : Log} {m : Machine} {o : Outcome}
    (ran : m.runOnto p fuel log = some (o, last)) :
    ∃ attempts, o.machine.steps = m.steps + attempts ∧
      o = iterate (step p) attempts m ∧ last.level = log.level ∧
      last.entries.toList = log.entries.toList ++
        LogEntry.kept log.level ((course p attempts m).flatMap (noted p)) := by
  induction fuel generalizing log m with
  | zero => cases ran
  | succ fuel ih =>
    unfold runOnto at ran
    cases halted : m.halted p with
    | true =>
      rw [halted, if_pos rfl] at ran
      cases ran
      exact ⟨0, rfl, rfl, rfl, (List.append_nil _).symm⟩
    | false =>
      rw [halted] at ran
      have counted := steps_step halted
      obtain ⟨level, entries⟩ := entries_stepOnto p log m
      have stepped := outcome_stepOnto p log m
      generalize result : m.stepOnto p log = r at ran level entries stepped
      obtain ⟨⟨next, failure?⟩, noted⟩ := r
      simp only at stepped level entries
      cases failure? with
      | none =>
        obtain ⟨attempts, steps, called, sameLevel, later⟩ := ih ran
        rw [← stepped] at counted
        refine ⟨attempts + 1, ?_, ?_, sameLevel.trans level, ?_⟩
        · rw [steps, counted, Nat.add_assoc, Nat.add_comm 1]
        · rw [called, iterate, ← stepped]
        · rw [later, entries, level, List.append_assoc, ← LogEntry.kept_append, course,
            List.flatMap_cons, ← stepped]
      | some failure =>
        cases ran
        rw [← stepped] at counted
        refine ⟨1, counted, ?_, level, ?_⟩
        · rw [iterate, ← stepped]
        · rw [entries, course, course, List.flatMap_cons, List.flatMap_nil, List.append_nil]

theorem entries_close (o : Outcome) (log : Log) :
    (close o log).2.entries.toList = log.entries.toList ++
      LogEntry.kept log.level ((close o log).1.faults ++ [(close o log).1.machine.ending]) := by
  unfold close
  split
  · next fault failed =>
    split
    · simp only [Outcome.faults, failed]
      rw [Log.entries_note, Log.entries_note, Log.level_note, List.append_assoc,
        ← LogEntry.kept_append]
    · exact Log.entries_note ..
  · next other =>
    have none : o.faults = [] := by
      unfold Outcome.faults
      split
      · next fault failed => exact absurd failed (other fault)
      · rfl
    rw [none]
    exact Log.entries_note ..

end Machine

end TapeMachine

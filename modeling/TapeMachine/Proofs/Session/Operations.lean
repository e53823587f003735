import TapeMachine.Proofs.Files.Opening
import TapeMachine.Proofs.Machine.Runs
import TapeMachine.Session

/-!
# Operations of a session

A session goes on after an operation that failed, so what it answers to a list of operations is a
list of answers. A run is the one operation with several ways to begin: it may find its log stuck,
or fail to open the file of the log or to write to it, and only then it is a run of the machine.
These ways are listed once, as the cases of a relation between a session and what its run leaves.

Results:
1. `run_cases`: what a run of a session can do.
2. `run_of_unlogged`, `run_of_logged`: a run that gets to its first step is a run of the machine, and
   `iterate_of_run`: as many calls of a step as it has fuel.
3. `step_keeps`, `run_keeps`, `performAll_keeps`: what each step of the machine keeps, and what each
   operation keeps.
4. `step_failed`, `jump_failed`, `run_failed`: a failure comes from the machine, or from the log.
-/

namespace TapeMachine

namespace Machine

/-! ## Operations of the machine -/

theorem iterate_one (operate : Machine → Outcome) (m : Machine) :
    iterate operate 1 m = operate m := by
  unfold iterate
  split
  · next stepped =>
    rw [stepped]
    rfl
  · rfl

/-- What each repetition keeps, the repeated operation keeps. -/
theorem iterate_keeps {operate : Machine → Outcome} {Holds : Machine → Prop}
    (keeps : ∀ m, Holds m → Holds (operate m).machine) (count : Nat) {m : Machine}
    (holds : Holds m) : Holds (iterate operate count m).machine := by
  induction count generalizing m with
  | zero => exact holds
  | succ count ih =>
    have kept := keeps m holds
    unfold iterate
    split
    · next after operated =>
      rw [operated] at kept
      exact ih kept
    · exact kept

/-- The repetition that fails begins with what the ones before it keep. -/
theorem iterate_failed {operate : Machine → Outcome} {Holds : Machine → Prop}
    (keeps : ∀ m, Holds m → Holds (operate m).machine) {count : Nat} {m after : Machine}
    {failure : Failure} (holds : Holds m)
    (failed : iterate operate count m = ⟨after, some failure⟩) :
    ∃ last, Holds last ∧ operate last = ⟨after, some failure⟩ := by
  induction count generalizing m with
  | zero => cases failed
  | succ count ih =>
    have kept := keeps m holds
    unfold iterate at failed
    split at failed
    · next next operated =>
      rw [operated] at kept
      exact ih kept failed
    · exact ⟨m, holds, failed⟩

theorem iterate_of_halted {p : Program} {m : Machine} (halted : m.halted p = true) (count : Nat) :
    iterate (step p) count m = ⟨m, none⟩ := by
  induction count with
  | zero => rfl
  | succ count ih =>
    rw [iterate, step_of_halted halted]
    exact ih

/-- A run is as many calls of a step as it has fuel, if that is enough. -/
theorem iterate_of_run {p : Program} {fuel : Nat} {m : Machine} {o : Outcome}
    (ran : m.run p fuel = some o) : iterate (step p) fuel m = o := by
  induction fuel generalizing m with
  | zero => cases ran
  | succ fuel ih =>
    unfold run at ran
    split at ran
    · next halted =>
      cases ran
      exact iterate_of_halted halted (fuel + 1)
    · rw [iterate]
      split at ran
      · exact ih ran
      · cases ran
        rfl

theorem machine_noteJump (o : Outcome) (i : Instruction) (origin : Nat) (level : Int)
    (error : SystemError) : (noteJump o i origin level error).machine = o.machine := by
  unfold noteJump
  split
  · split <;> rfl
  · rfl

theorem noteJump_failed {o : Outcome} {i : Instruction} {origin : Nat} {level : Int}
    {error : SystemError} {after : Machine} {failure : Failure}
    (failed : noteJump o i origin level error = ⟨after, some failure⟩) :
    o = ⟨after, some failure⟩ ∨ failure = .system error := by
  unfold noteJump at failed
  split at failed
  · split at failed
    · cases failed
      exact .inr rfl
    · cases failed
  · exact .inl failed

theorem failure?_close_eq_none_iff {o : Outcome} (log : Log) :
    (close o log).1.failure? = none ↔ o.failure? = none := by
  unfold close
  split
  · next fault failed => split <;> simp [failed]
  · rfl

/-- A log can hide the fault that ended a run, but it never makes one up. -/
theorem fault_of_close {o : Outcome} {log : Log} {fault : Fault}
    (failed : (close o log).1.failure? = some (.fault fault)) :
    o.failure? = some (.fault fault) := by
  unfold close at failed
  split at failed
  · split at failed
    · exact failed
    · cases failed
  · exact failed

end Machine

open Machine

namespace Session

/-- Performs operations one after the other, each on what the one before it left, whether that one
failed or not. There is no answer if a run among them does not end. -/
def performAll (s : Session) (fuel : Nat) : List Operation → Option (Session × List Answer)
  | [] => some (s, [])
  | operation :: operations =>
    match s.perform fuel operation with
    | none => none
    | some (next, answer) =>
      (next.performAll fuel operations).map fun (t, answers) => (t, answer :: answers)

/-- The steps of a run with a log, and the log before it is closed. -/
def logging (s : Session) (fuel : Nat) : Option (Outcome × Log) :=
  s.machine.runOnto s.program fuel ((Log.empty s.logLevel).note (.started s.program.size))

/-- The session after a run that was logged at a place. -/
def logged (s : Session) (place : FilePlace) (o : Outcome) (log : Log) : Session × Answer :=
  { s with files := s.files.put place (Machine.close o log).2.content, stuck? := none }.after
    (Machine.close o log).1

/-- What a run of a session can do. -/
inductive RunCase (s : Session) (fuel : Nat) : Session × Answer → Prop
  | stuck {error : SystemError} : s.logLevel ≤ 0 → s.stuck? = some error →
      RunCase s fuel (s, .failed (.system error))
  | unlogged {o : Outcome} : s.logLevel ≤ 0 → s.stuck? = none →
      s.machine.run s.program fuel = some o → RunCase s fuel (s.after o)
  | unopened {error : OpenError} : 0 < s.logLevel →
      s.files.locateForWriting s.logFile = .error error →
      RunCase s fuel (s, .failed (.ofOpenError error))
  | unwritten {place : FilePlace} {error : SystemError} : 0 < s.logLevel →
      s.files.locateForWriting s.logFile = .ok place → s.files.writeError? place = some error →
      RunCase s fuel ({ s with stuck? := some error }, .failed (.system error))
  | logged {place : FilePlace} {o : Outcome} {log : Log} : 0 < s.logLevel →
      s.files.locateForWriting s.logFile = .ok place → s.files.writeError? place = none →
      s.logging fuel = some (o, log) → RunCase s fuel (s.logged place o log)

theorem run_cases {s : Session} {fuel : Nat} {result : Session × Answer}
    (ran : s.run fuel = some result) : RunCase s fuel result := by
  unfold run at ran
  split at ran
  · next quiet =>
    unfold runUnlogged at ran
    split at ran
    · next closed =>
      obtain ⟨o, outcome, rfl⟩ := Option.map_eq_some_iff.mp ran
      exact .unlogged quiet closed outcome
    · next error stuck =>
      cases ran
      exact .stuck quiet stuck
  · next loud =>
    have loud : 0 < s.logLevel := Int.not_le.mp loud
    split at ran
    · next error refused =>
      cases ran
      exact .unopened loud refused
    · next place located =>
      unfold runLogged at ran
      split at ran
      · next error refused =>
        cases ran
        exact .unwritten loud located refused
      · next writable =>
        rw [Machine.runLogged, Option.map_map] at ran
        obtain ⟨⟨o, log⟩, steps, rfl⟩ := Option.map_eq_some_iff.mp ran
        exact .logged loud located writable steps

theorem run_of_logging {s : Session} {fuel : Nat} {o : Outcome} {log : Log}
    (steps : s.logging fuel = some (o, log)) : s.machine.run s.program fuel = some o := by
  rw [← Machine.outcome_runOnto, ← logging, steps]
  rfl

theorem logging_of_run {s : Session} {fuel : Nat} {o : Outcome}
    (ran : s.machine.run s.program fuel = some o) : ∃ log, s.logging fuel = some (o, log) := by
  rw [← Machine.outcome_runOnto s.program fuel _ s.machine, Option.map_eq_some_iff] at ran
  obtain ⟨⟨_, log⟩, steps, rfl⟩ := ran
  exact ⟨log, steps⟩

theorem run_of_unlogged {s : Session} {fuel : Nat} {o : Outcome} (quiet : s.logLevel ≤ 0)
    (closed : s.stuck? = none) (outcome : s.machine.run s.program fuel = some o) :
    s.run fuel = some (s.after o) := by
  rw [run, if_pos quiet, runUnlogged, closed, outcome]
  rfl

theorem run_of_logged {s : Session} {fuel : Nat} {place : FilePlace} {o : Outcome} {log : Log}
    (loud : 0 < s.logLevel) (located : s.files.locateForWriting s.logFile = .ok place)
    (writable : s.files.writeError? place = none) (steps : s.logging fuel = some (o, log)) :
    s.run fuel = some (s.logged place o log) := by
  rw [run, if_neg (Int.not_le.mpr loud), located]
  simp only [runLogged]
  rw [writable, Machine.runLogged, ← logging, steps]
  rfl

theorem answer_eq_done_iff {o : Outcome} : o.answer = .done ↔ o.failure? = none := by
  obtain ⟨m, failure?⟩ := o
  cases failure? <;> simp [Outcome.answer]

theorem answer_eq_failed_iff {o : Outcome} {failure : Failure} :
    o.answer = .failed failure ↔ o.failure? = some failure := by
  obtain ⟨m, failure?⟩ := o
  cases failure? <;> simp [Outcome.answer]

/-- A run finds nothing: it is done, or it fails. -/
theorem answer_of_run {s t : Session} {fuel : Nat} {answer : Answer}
    (ran : s.run fuel = some (t, answer)) : answer = .done ∨ ∃ failure, answer = .failed failure := by
  have ends : ∀ o : Outcome, o.answer = .done ∨ ∃ failure, o.answer = .failed failure := by
    rintro ⟨m, _ | failure⟩
    · exact .inl rfl
    · exact .inr ⟨failure, rfl⟩
  cases run_cases ran with
  | stuck _ _ => exact .inr ⟨_, rfl⟩
  | unlogged _ _ _ => exact ends _
  | unopened _ _ => exact .inr ⟨_, rfl⟩
  | unwritten _ _ _ => exact .inr ⟨_, rfl⟩
  | logged _ _ _ _ => exact ends _

theorem exists_of_answer {result : Option (Session × Answer)} {answer : Answer}
    (answered : result.map Prod.snd = some answer) : ∃ t, result = some (t, answer) := by
  obtain ⟨⟨t, _⟩, ran, rfl⟩ := Option.map_eq_some_iff.mp answered
  exact ⟨t, ran⟩

theorem machine_logged (s : Session) (place : FilePlace) (o : Outcome) (log : Log) :
    (s.logged place o log).1.machine = o.machine :=
  Machine.machine_close o log

/-! ## What operations keep -/

/-- A log that is stuck can keep a step from being carried out, but not from being counted. -/
theorem stepStuck_keeps {p : Program} {Holds : Machine → Prop}
    (step : ∀ m, Holds m → Holds (m.step p).machine) (tick : ∀ m, Holds m → Holds m.tick)
    (level : Int) (error : SystemError) {m : Machine} (holds : Holds m) :
    Holds (m.stepStuck p level error).machine := by
  unfold stepStuck
  split
  · exact holds
  · split
    · exact tick m holds
    · split
      · rw [machine_noteJump]
        exact step m holds
      · exact step m holds

/-- What the steps of the machine keep, the steps of the session keep. -/
theorem step_keeps {s : Session} {Holds : Machine → Prop}
    (step : ∀ m, Holds m → Holds (m.step s.program).machine) (tick : ∀ m, Holds m → Holds m.tick)
    (m : Machine) (holds : Holds m) : Holds (s.step m).machine := by
  unfold Session.step
  split
  · exact step m holds
  · exact stepStuck_keeps step tick _ _ holds

/-- What the steps of the machine keep, a run of the session keeps. -/
theorem run_keeps {s t : Session} {fuel : Nat} {answer : Answer} {Holds : Machine → Prop}
    (step : ∀ m, Holds m → Holds (m.step s.program).machine)
    (ran : s.run fuel = some (t, answer)) (holds : Holds s.machine) :
    Holds t.machine ∧ t.program = s.program := by
  have kept : ∀ {o : Outcome}, s.machine.run s.program fuel = some o → Holds o.machine := by
    intro o outcome
    obtain ⟨n, _, ends⟩ := run_eq_some_iff.mp outcome
    exact ends.keeps step holds
  cases run_cases ran with
  | stuck _ _ => exact ⟨holds, rfl⟩
  | unlogged _ _ outcome => exact ⟨kept outcome, rfl⟩
  | unopened _ _ => exact ⟨holds, rfl⟩
  | unwritten _ _ _ => exact ⟨holds, rfl⟩
  | @logged place o log _ _ _ steps =>
    have still := kept (run_of_logging steps)
    rw [← machine_logged s place o log] at still
    exact ⟨still, rfl⟩

theorem performAll_cons {s t : Session} {fuel : Nat} {operation : Operation}
    {operations : List Operation} {answers : List Answer}
    (performed : s.performAll fuel (operation :: operations) = some (t, answers)) :
    ∃ next answer later, s.perform fuel operation = some (next, answer) ∧
      next.performAll fuel operations = some (t, later) := by
  unfold performAll at performed
  split at performed
  · cases performed
  · next next answer first =>
    obtain ⟨⟨_, later⟩, rest, same⟩ := Option.map_eq_some_iff.mp performed
    cases same
    exact ⟨next, answer, later, first, rest⟩

/-- The induction is on the operations: each one begins where the one before it ended. -/
theorem performAll_keeps (Holds : Session → Prop) {s t : Session} {fuel : Nat}
    {operations : List Operation} {answers : List Answer}
    (each : ∀ operation ∈ operations, ∀ {s t answer}, s.perform fuel operation = some (t, answer) →
      Holds s → Holds t)
    (performed : s.performAll fuel operations = some (t, answers)) (holds : Holds s) : Holds t := by
  induction operations generalizing s answers with
  | nil =>
    cases performed
    exact holds
  | cons operation operations ih =>
    obtain ⟨next, answer, later, first, rest⟩ := performAll_cons performed
    exact ih (fun other member => each other (List.mem_cons_of_mem _ member)) rest
      (each operation List.mem_cons_self first holds)

/-! ## Operations that fail -/

/-- The failure is the error with which the log of the session is stuck. -/
def LogFails (s : Session) (failure : Failure) : Prop :=
  ∃ error, s.stuck? = some error ∧ failure = .system error

/-- A run gets to its first step: it needs no log and none is stuck, or the file of its log can be
opened and written. -/
structure CanLog (s : Session) : Prop where
  closed : s.logLevel ≤ 0 → s.stuck? = none
  writable : 0 < s.logLevel → ∃ place, s.files.locateForWriting s.logFile = .ok place ∧
    s.files.writeError? place = none

theorem step_failed {s : Session} {m after : Machine} {failure : Failure}
    (failed : s.step m = ⟨after, some failure⟩) :
    m.step s.program = ⟨after, some failure⟩ ∨ s.LogFails failure := by
  unfold step at failed
  split at failed
  · exact .inl failed
  · next error stuck =>
    unfold stepStuck at failed
    split at failed
    · cases failed
    · split at failed
      · cases failed
        exact .inr ⟨error, stuck, rfl⟩
      · split at failed
        · exact (noteJump_failed failed).imp id fun same => ⟨error, stuck, same⟩
        · exact .inl failed

theorem jump_failed {s : Session} {stride : Int} {after : Machine} {failure : Failure}
    (failed : s.jump stride = ⟨after, some failure⟩) :
    s.machine.jump s.program stride = ⟨after, some failure⟩ ∨ s.LogFails failure := by
  unfold jump at failed
  split at failed
  · next error i stuck _ =>
    exact (noteJump_failed failed).imp id fun same => ⟨error, stuck, same⟩
  · exact .inl failed

theorem after_failed {s t : Session} {o : Outcome} {failure : Failure}
    (failed : s.after o = (t, .failed failure)) :
    o = ⟨t.machine, some failure⟩ ∧ t = { s with machine := t.machine } := by
  obtain ⟨rfl, answered⟩ := Prod.mk.inj failed
  obtain ⟨m, failure?⟩ := o
  cases answer_eq_failed_iff.mp answered
  exact ⟨rfl, rfl⟩

theorem perform_step_failed {s t : Session} {fuel : Nat} {failure : Failure}
    (failed : s.perform fuel (.step 1) = some (t, .failed failure)) :
    s.step s.machine = ⟨t.machine, some failure⟩ ∧ t = { s with machine := t.machine } := by
  have stepped := after_failed (Option.some.inj failed)
  rwa [iterate_one] at stepped

/-- A run that fails has not begun, or it is a run of the machine that fails. -/
theorem run_failed {s t : Session} {fuel : Nat} {failure : Failure}
    (failed : s.run fuel = some (t, .failed failure)) :
    (¬s.CanLog ∧ ∀ fault, failure ≠ .fault fault) ∨
    (t.stuck? = none ∧ t.program = s.program) ∧
      ∃ cause, s.machine.run s.program fuel = some ⟨t.machine, some cause⟩ ∧
        ∀ fault, failure = .fault fault → cause = .fault fault := by
  generalize result : (t, Answer.failed failure) = r at failed
  cases run_cases failed with
  | @stuck error quiet stuck =>
    cases result
    refine .inl ⟨fun canLog => ?_, fun fault same => by cases same⟩
    rw [canLog.closed quiet] at stuck
    cases stuck
  | @unlogged o quiet closed outcome =>
    obtain ⟨rfl, same⟩ := after_failed result.symm
    refine .inr ⟨?_, failure, outcome, fun fault same => same⟩
    rw [same]
    exact ⟨closed, rfl⟩
  | @unopened error loud refused =>
    cases result
    refine .inl ⟨fun canLog => ?_, fun fault same => by cases error <;> cases same⟩
    obtain ⟨place, located, _⟩ := canLog.writable loud
    rw [refused] at located
    cases located
  | @unwritten place error loud located refused =>
    cases result
    refine .inl ⟨fun canLog => ?_, fun fault same => by cases same⟩
    obtain ⟨other, again, writable⟩ := canLog.writable loud
    rw [located] at again
    cases again
    rw [refused] at writable
    cases writable
  | @logged place o log _ _ _ steps =>
    obtain ⟨closed, same⟩ := after_failed result.symm
    have machine : o.machine = t.machine := by rw [← machine_close o log, closed]
    have answered : (close o log).1.failure? = some failure := by rw [closed]
    obtain ⟨cause, ended⟩ : ∃ cause, o.failure? = some cause := by
      rw [← Option.ne_none_iff_exists', ne_eq, ← failure?_close_eq_none_iff log, answered]
      exact Option.some_ne_none failure
    refine .inr ⟨by rw [same]; exact ⟨rfl, rfl⟩, cause, ?_, ?_⟩
    · rw [run_of_logging steps, ← machine, ← ended]
    · rintro fault rfl
      rw [fault_of_close answered] at ended
      exact (Option.some.inj ended).symm

end Session

end TapeMachine

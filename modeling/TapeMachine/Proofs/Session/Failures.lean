import TapeMachine.Proofs.Machine.Faults
import TapeMachine.Proofs.Machine.Runs
import TapeMachine.Proofs.Session.Operations

/-!
# Sessions after failures

A failed operation leaves the machine as it found it, but for the step that was counted and for the
event of the input that failed. So a fault that used up no input arises again at every attempt: the
session is stopped, and from then on its steps and runs do nothing but count.

Results:
1. `perform_failed_apart`: what an operation leaves that neither steps nor runs.
2. `stopped_of_step`, `stopped_of_run`: which faults stop a session.
3. `Stopped.performAll`: what steps and runs do to a session that is stopped.
4. `perform_failed`: all that a failed operation leaves, and what comes after it.
-/

namespace TapeMachine

open Machine

namespace Session

/-- An operation that neither steps nor runs does not even count when it fails. -/
theorem perform_failed_apart {s t : Session} {fuel : Nat} {operation : Operation}
    {failure : Failure} (noSteps : ∀ count, operation ≠ .step count) (noRun : operation ≠ .run)
    (failed : s.perform fuel operation = some (t, .failed failure)) :
    s.machine.Intact 0 t.machine ∨ s.LogFails failure := by
  cases operation with
  | step count => exact absurd rfl (noSteps count)
  | run => exact absurd rfl noRun
  | moveDataCursor offset =>
    rw [moveDataCursor_failed (after_failed (Option.some.inj failed)).1]
    exact .inl (.refl _)
  | readCell => exact .inl (intact_readCell (after_failed (Option.some.inj failed)).1)
  | jump stride =>
    refine (jump_failed (after_failed (Option.some.inj failed)).1).imp (fun failed => ?_) id
    rw [Machine.jump_failed failed]
    exact .refl _
  | findMatch origin stride =>
    simp only [perform] at failed
    split at failed
    · cases failed
    · cases failed
      exact .inl (.refl _)
  | setCell place value =>
    simp only [perform] at failed
    split at failed
    · split at failed
      · cases failed
      · cases failed
        exact .inl (.refl _)
    · cases failed
      exact .inl (.refl _)
  | setDataCursor place => cases failed
  | setInstCursor position => cases failed
  | setLogLevel level => cases failed

/-! ## Faults that stop a session -/

/-- Attempts are not noted in a log that is stuck, so it only gets in the way of jumps. -/
def Quiet (s : Session) : Prop :=
  s.stuck? = none ∨ s.logLevel < 3

/-- Every step of the session fails with a fault, and does nothing but count. -/
structure Stopped (s : Session) (fault : Fault) : Prop where
  onTape : s.machine.dataCursor < tapeSize
  fails : s.machine.step s.program = ⟨s.machine.tick, some (.fault fault)⟩
  quiet : s.Quiet

theorem step_of_failed {s : Session} {m after : Machine} {failure : Failure} (quiet : s.Quiet)
    (failed : m.step s.program = ⟨after, some failure⟩) : s.step m = ⟨after, some failure⟩ := by
  unfold step
  split
  · exact failed
  · next error stuck =>
    have low : s.logLevel < 3 := by
      rcases quiet with closed | low
      · rw [stuck] at closed
        cases closed
      · exact low
    unfold stepStuck
    rw [failed]
    split
    · next halted =>
      rw [Machine.step, halted] at failed
      exact failed
    · next i fetched =>
      have silent : ¬(m.attempt i).level ≤ s.logLevel := Int.not_le.mpr low
      rw [if_neg silent]
      split <;> rfl

theorem quiet_of_step {s : Session} {m after : Machine} {fault : Fault}
    (failed : s.step m = ⟨after, some (.fault fault)⟩) : s.Quiet := by
  unfold step at failed
  split at failed
  · next closed => exact .inl closed
  · next error stuck =>
    unfold stepStuck at failed
    split at failed
    · cases failed
    · next i fetched =>
      split at failed
      · cases failed
      · next silent => exact .inr (Int.not_le.mp silent)

/-- A fault that uses nothing up stops the session in which it arose. -/
theorem stopped_of_failed {t : Session} {last : Machine} {fault : Fault}
    (onTape : last.dataCursor < tapeSize) (lasts : fault.Lasts)
    (failed : last.step t.program = ⟨t.machine, some (.fault fault)⟩) (quiet : t.Quiet) :
    t.Stopped fault := by
  have ticked := step_of_lasts lasts failed
  rw [ticked] at failed
  refine ⟨?_, ?_, quiet⟩
  · rw [ticked]
    exact onTape
  · rw [ticked]
    exact step_tick_of_lasts onTape lasts failed

theorem stopped_of_step {s t : Session} {fuel : Nat} {fault : Fault}
    (onTape : s.machine.dataCursor < tapeSize) (lasts : fault.Lasts)
    (failed : s.perform fuel (.step 1) = some (t, .failed (.fault fault))) : t.Stopped fault := by
  obtain ⟨stepped, same⟩ := perform_step_failed failed
  have program : t.program = s.program := by rw [same]
  have quiet : t.Quiet := by
    rw [same]
    exact quiet_of_step stepped
  rcases step_failed stepped with failing | ⟨error, _, other⟩
  · rw [← program] at failing
    exact stopped_of_failed onTape lasts failing quiet
  · cases other

theorem stopped_of_run {s t : Session} {fuel : Nat} {fault : Fault}
    (onTape : s.machine.dataCursor < tapeSize) (lasts : fault.Lasts)
    (failed : s.run fuel = some (t, .failed (.fault fault))) : t.Stopped fault := by
  rcases run_failed failed with ⟨_, other⟩ | ⟨⟨closed, program⟩, cause, outcome, same⟩
  · exact absurd rfl (other fault)
  · cases same fault rfl
    obtain ⟨n, _, ends⟩ := run_eq_some_iff.mp outcome
    obtain ⟨last, steps, failing⟩ := ends_failed_iff.mp ends
    have still : last.dataCursor < tapeSize :=
      steps.keeps (fun m => (step_cases s.program m).onTape) onTape
    rw [← program] at failing
    exact stopped_of_failed still lasts failing (.inl closed)

/-! ## Stopped sessions -/

/-- The report of a fault that passes on no system message is ordinary text. -/
theorem summary_of_lasts {fault : Fault} (lasts : fault.Lasts) :
    ∃ text : String, fault.report.summary = Text.ofString text := by
  cases fault with
  | unmatchedBracket opener position =>
    simp only [FaultReport.summary, Fault.report, FaultReport.unmatchedBracket,
      ← Text.ofString_append]
    exact ⟨_, rfl⟩
  | unreadableInput _ _ => exact lasts.elim
  | offTape position cursor =>
    simp only [FaultReport.summary, Fault.report, FaultReport.offTape, ← Text.ofString_append]
    exact ⟨_, rfl⟩

theorem close_of_lasts {o : Outcome} {fault : Fault} (lasts : fault.Lasts)
    (failed : o.failure? = some (.fault fault)) (log : Log) : (close o log).1 = o := by
  obtain ⟨text, summary⟩ := summary_of_lasts lasts
  have encoded : ∃ bytes, (LogEntry.faulted fault).bytes = .ok bytes := by
    rw [LogEntry.bytes, LogEntry.line, summary, ← Text.ofString_append, ← Text.ofString_append]
    exact ⟨_, Utf8.encodeText_ofString _⟩
  obtain ⟨bytes, encoded⟩ := encoded
  unfold close
  rw [failed]
  simp only
  rw [encoded]

theorem canLog_logged {s : Session} {place : FilePlace}
    (located : s.files.locateForWriting s.logFile = .ok place)
    (writable : s.files.writeError? place = none) (o : Outcome) (log : Log) :
    (s.logged place o log).1.CanLog where
  closed _ := rfl
  writable _ := by
    obtain ⟨_, free⟩ := FileTree.opens_of_locateForWriting located
    exact ⟨place, FileTree.locateForWriting_put located _, FileTree.writeError?_put free writable _⟩

/-- What a step or a run does to a session that is stopped. -/
structure Counts (s : Session) (fault : Fault) (t : Session) : Prop where
  machine : t.machine = s.machine.tick
  stopped : t.Stopped fault
  canLog : s.CanLog → t.CanLog

namespace Stopped

variable {s : Session} {fault : Fault}

theorem counts (stopped : s.Stopped fault) (lasts : fault.Lasts) {t : Session}
    (machine : t.machine = s.machine.tick) (program : t.program = s.program) (quiet : t.Quiet)
    (canLog : s.CanLog → t.CanLog) : s.Counts fault t := by
  refine ⟨machine, stopped_of_failed stopped.onTape lasts ?_ quiet, canLog⟩
  rw [program, machine]
  exact stopped.fails

theorem step (stopped : s.Stopped fault) (lasts : fault.Lasts) (fuel : Nat) :
    ∃ t, s.perform fuel (.step 1) = some (t, .failed (.fault fault)) ∧ s.Counts fault t := by
  have failed := step_of_failed stopped.quiet stopped.fails
  refine ⟨{ s with machine := s.machine.tick }, ?_, ?_⟩
  · rw [perform, iterate_one, failed]
    rfl
  · exact stopped.counts lasts rfl rfl stopped.quiet fun canLog => ⟨canLog.closed, canLog.writable⟩

theorem run (stopped : s.Stopped fault) (lasts : fault.Lasts) (canLog : s.CanLog) (fuel : Nat) :
    ∃ t, s.run (fuel + 1) = some (t, .failed (.fault fault)) ∧ s.Counts fault t := by
  have outcome : s.machine.run s.program (fuel + 1) =
      some ⟨s.machine.tick, some (.fault fault)⟩ :=
    run_eq_some_iff.mpr ⟨0, Nat.succ_pos fuel, .failed stopped.fails⟩
  by_cases loud : 0 < s.logLevel
  · obtain ⟨place, located, writable⟩ := canLog.writable loud
    obtain ⟨log, steps⟩ := logging_of_run outcome
    let o : Outcome := ⟨s.machine.tick, some (.fault fault)⟩
    have answered : (s.logged place o log).2 = .failed (.fault fault) :=
      congrArg Outcome.answer (close_of_lasts (o := o) lasts rfl log)
    refine ⟨(s.logged place o log).1, ?_, ?_⟩
    · rw [run_of_logged loud located writable steps, ← answered]
    · exact stopped.counts lasts (machine_logged s place o log) rfl (.inl rfl) fun _ =>
        canLog_logged located writable o log
  · have quiet : s.logLevel ≤ 0 := Int.not_lt.mp loud
    have closed := canLog.closed quiet
    refine ⟨_, run_of_unlogged quiet closed outcome, stopped.counts lasts rfl rfl (.inl closed) ?_⟩
    exact fun canLog => ⟨canLog.closed, canLog.writable⟩

/-- The induction is on the operations: each one leaves a stopped session to the next. -/
theorem performAll (stopped : s.Stopped fault) (lasts : fault.Lasts) (fuel : Nat)
    {operations : List Operation}
    (asked : ∀ operation ∈ operations, operation = .step 1 ∨ operation = .run ∧ s.CanLog) :
    ∃ t, s.performAll (fuel + 1) operations =
        some (t, List.replicate operations.length (.failed (.fault fault))) ∧
      t.machine = { s.machine with steps := s.machine.steps + operations.length } := by
  induction operations generalizing s with
  | nil => exact ⟨s, rfl, rfl⟩
  | cons operation operations ih =>
    have first : ∃ t, s.perform (fuel + 1) operation = some (t, .failed (.fault fault)) ∧
        s.Counts fault t := by
      rcases asked operation List.mem_cons_self with rfl | ⟨rfl, canLog⟩
      · exact stopped.step lasts (fuel + 1)
      · exact stopped.run lasts canLog fuel
    obtain ⟨t, performed, counts⟩ := first
    have later : ∀ other ∈ operations, other = .step 1 ∨ other = .run ∧ t.CanLog := by
      intro other member
      exact (asked other (List.mem_cons_of_mem _ member)).imp id (.imp id counts.canLog)
    obtain ⟨u, rest, machine⟩ := ih counts.stopped later
    refine ⟨u, ?_, ?_⟩
    · rw [Session.performAll, performed]
      simp only
      rw [rest]
      rfl
    · rw [machine, counts.machine, List.length_cons, Nat.add_comm operations.length 1,
        ← Nat.add_assoc]
      rfl

end Stopped

/-- A failed step leaves the machine as it was but for the count and a failed event of the input. A
failed run leaves what its last, failing step left, and its log is closed. Any other operation that
fails does not count. Once a step or a run has met a fault that uses up no input, each further one
meets the same fault, and does nothing but count. -/
theorem perform_failed {s t : Session} {fuel : Nat} {operation : Operation} {failure : Failure}
    (onTape : s.machine.dataCursor < tapeSize)
    (failed : s.perform fuel operation = some (t, .failed failure)) :
    (operation = .step 1 → s.machine.Intact 1 t.machine ∨ s.LogFails failure) ∧
    (operation = .run → s.CanLog → t.stuck? = none ∧ ∃ n last cause,
      Steps s.program n s.machine last ∧ last.step s.program = ⟨t.machine, some cause⟩ ∧
      last.Intact 1 t.machine) ∧
    ((∀ count, operation ≠ .step count) → operation ≠ .run →
      s.machine.Intact 0 t.machine ∨ s.LogFails failure) ∧
    (operation = .step 1 ∨ operation = .run → ∀ fault, fault.Lasts → failure = .fault fault →
      ∀ fuel operations,
        (∀ other ∈ operations, other = .step 1 ∨ other = .run ∧ t.CanLog) →
        ∃ u, t.performAll (fuel + 1) operations =
            some (u, List.replicate operations.length (.failed failure)) ∧
          u.machine = { t.machine with steps := t.machine.steps + operations.length }) := by
  refine ⟨?_, ?_, fun noSteps noRun => perform_failed_apart noSteps noRun failed, ?_⟩
  · rintro rfl
    exact (step_failed (perform_step_failed failed).1).imp intact_step id
  · rintro rfl canLog
    rcases run_failed failed with ⟨cannot, _⟩ | ⟨⟨closed, _⟩, cause, outcome, _⟩
    · exact absurd canLog cannot
    · obtain ⟨n, _, ends⟩ := run_eq_some_iff.mp outcome
      obtain ⟨last, steps, failing⟩ := ends_failed_iff.mp ends
      exact ⟨closed, n, last, cause, steps, failing, intact_step failing⟩
  · rintro attempted fault lasts rfl fuel operations asked
    have stopped : t.Stopped fault := by
      rcases attempted with rfl | rfl
      · exact stopped_of_step onTape lasts failed
      · exact stopped_of_run onTape lasts failed
    exact stopped.performAll lasts fuel asked

/-- A bracket that opens no loop is attempted by a step, then by a run with a log, then by a step. -/
theorem perform_failed_unclosed :
    let s := start (.ofList [.jumpForward]) (.ofEvents []) (.empty none) 1 "debug.txt" .empty
    let failure := Failure.fault (.unmatchedBracket .jumpForward 0)
    s.machine.dataCursor < tapeSize ∧ ∃ t u, s.perform 0 (.step 1) = some (t, .failed failure) ∧
      t.performAll 1 [.run, .step 1] = some (u, [.failed failure, .failed failure]) ∧
      u.machine.steps = 3 := by
  intro s failure
  have onTape : s.machine.dataCursor < tapeSize := show 0 < tapeSize by decide
  let t : Session := { s with machine := s.machine.tick }
  have failed : s.perform 0 (.step 1) = some (t, .failed failure) := rfl
  have canLog : t.CanLog :=
    ⟨fun quiet => absurd quiet (by decide), fun _ => ⟨.inside (FileName.ofPath "debug.txt"),
      by decide +kernel, by decide +kernel⟩⟩
  obtain ⟨_, _, _, again⟩ := perform_failed onTape failed
  obtain ⟨u, performed, machine⟩ :=
    again (.inl rfl) (.unmatchedBracket .jumpForward 0) trivial rfl 0 [.run, .step 1]
      (by simp [canLog])
  exact ⟨onTape, t, u, failed, performed, by rw [machine]; rfl⟩

/-- A log on a full device can be opened, but not written: a run then fails for that reason, and not
with the fault that the step before it met. -/
theorem run_fails_full :
    let s := start (.ofList [.jumpForward]) (.ofEvents []) (.empty none) 1 "/dev/full" .empty
    ∃ t u, s.perform 0 (.step 1) =
        some (t, .failed (.fault (.unmatchedBracket .jumpForward 0))) ∧
      (∃ place, t.files.locateForWriting t.logFile = .ok place) ∧
      t.perform 1 .run = some (u, .failed (.system .noSpace)) ∧
      u.machine.steps = t.machine.steps := by
  intro s
  let t : Session := { s with machine := s.machine.tick }
  let place : FilePlace := .fromRoot (FileName.ofPath "dev/full")
  have located : t.files.locateForWriting t.logFile = .ok place := by decide +kernel
  have refused : t.files.writeError? place = some .noSpace := by decide +kernel
  refine ⟨t, { t with stuck? := some .noSpace }, rfl, ⟨place, located⟩, ?_, rfl⟩
  rw [perform, run, if_neg (by decide), located]
  simp only [runLogged]
  rw [refused]

end Session

end TapeMachine

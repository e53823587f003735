import TapeMachine.Proofs.Session.Failures

/-!
# Ways of driving a session

A machine is driven to its end, or to its first failure, by a run. Before the run some steps can be
taken one by one or several at a time, and the level of detail of the log can be changed at any
time. None of this makes a difference to the machine: whatever the way, its steps are those of the
one run that its state determines.

A log makes a difference to the answer in two places. If the file of the log can be opened but not
written, the run does not start. And a fault that passes on a system message with surrogates cannot
be written to a log, so a run that is logged answers with the failure to write instead.

Results:
1. `iterate_step`: a number of calls is a part of a run, or a whole run that fails.
2. `performAll_keeps_machine`, `exists_step_of_fault`: what driving a session keeps, and the step
   behind a fault that it comes to.
3. `ends_of_drive`, `drive_of_ends`: a way of driving a session is a run of its machine.
4. `drive_agrees`: so any two ways agree.
5. `drive_differs`: the two places where they do not.
-/

namespace TapeMachine

open Machine

/-- What a run can answer that ends in an outcome: the failure of the outcome, or, where that is a
fault that cannot be written to the log, the refusal to write it. -/
inductive Outcome.Answers (o : Outcome) : Answer → Prop
  | plain : Answers o o.answer
  | masked {fault : Fault} {refusal : Utf8.EncodeRefusal} : o.failure? = some (.fault fault) →
      (LogEntry.faulted fault).bytes = .error refusal → Answers o (.failed (.unencodable refusal))

/-- A fault that passes on a system message with surrogates. -/
def Fault.HasSurrogates (fault : Fault) : Prop :=
  ∃ cause, fault.cause? = some cause ∧ ∀ text : String, cause.message ≠ .ofString text

/-- Two answers are the same, or both are failures and one of them is a fault that passes on a system
message with surrogates. -/
def Answer.Agrees (answer other : Answer) : Prop :=
  answer = other ∨
    ((∃ failure, answer = .failed failure) ∧ ∃ failure, other = .failed failure) ∧
      ∃ fault, fault.HasSurrogates ∧
        (answer = .failed (.fault fault) ∨ other = .failed (.fault fault))

/-! ## Faults that cannot be logged -/

/-- A fault is ordinary text if the system message is that it passes on. -/
theorem Fault.bytes_of_plain {fault : Fault}
    (plain : ∀ cause, fault.cause? = some cause → ∃ text : String, cause.message = .ofString text) :
    ∃ bytes, (LogEntry.faulted fault).bytes = .ok bytes := by
  have summary : ∃ text : String, fault.report.summary = Text.ofString text := by
    cases fault with
    | unreadableInput position cause =>
      obtain ⟨text, message⟩ := plain cause rfl
      simp only [FaultReport.summary, Fault.report, FaultReport.unreadableInput, message,
        ← Text.ofString_append]
      exact ⟨_, rfl⟩
    | unmatchedBracket _ _ => exact Session.summary_of_lasts trivial
    | offTape _ _ => exact Session.summary_of_lasts trivial
  obtain ⟨text, summary⟩ := summary
  rw [LogEntry.bytes, LogEntry.line, summary, ← Text.ofString_append, ← Text.ofString_append]
  exact ⟨_, Utf8.encodeText_ofString _⟩

theorem Fault.hasSurrogates_of_refused {fault : Fault} {refusal : Utf8.EncodeRefusal}
    (refused : (LogEntry.faulted fault).bytes = .error refusal) : fault.HasSurrogates := by
  have clash : ¬∀ cause, fault.cause? = some cause →
      ∃ text : String, cause.message = .ofString text := by
    intro plain
    obtain ⟨bytes, written⟩ := bytes_of_plain plain
    rw [refused] at written
    cases written
  cases fault with
  | unreadableInput position cause =>
    refine ⟨cause, rfl, fun text message => clash ?_⟩
    rintro _ ⟨⟩
    exact ⟨text, message⟩
  | unmatchedBracket _ _ => exact absurd (fun _ none => by cases none) clash
  | offTape _ _ => exact absurd (fun _ none => by cases none) clash

theorem Outcome.Answers.agrees {o : Outcome} {answer other : Answer} (first : o.Answers answer)
    (second : o.Answers other) : answer.Agrees other := by
  have failed : ∀ {fault : Fault}, o.failure? = some (.fault fault) →
      o.answer = .failed (.fault fault) := Session.answer_eq_failed_iff.mpr
  cases first with
  | plain =>
    cases second with
    | plain => exact .inl rfl
    | masked ended refused =>
      exact .inr ⟨⟨⟨_, failed ended⟩, _, rfl⟩, _, Fault.hasSurrogates_of_refused refused,
        .inl (failed ended)⟩
  | masked ended refused =>
    cases second with
    | plain =>
      exact .inr ⟨⟨⟨_, rfl⟩, _, failed ended⟩, _, Fault.hasSurrogates_of_refused refused,
        .inr (failed ended)⟩
    | masked again refusedAgain =>
      rw [ended] at again
      cases again
      rw [refused] at refusedAgain
      cases refusedAgain
      exact .inl rfl

namespace Machine

theorem answers_close (o : Outcome) (log : Log) : o.Answers (close o log).1.answer := by
  unfold close
  split
  · next fault failed =>
    split
    · exact .plain
    · next refusal refused => exact .masked failed refused
  · exact .plain

/-! ## Calls of a step -/

/-- A number of calls makes steps that succeed, or ends a run with a failure. -/
theorem iterate_step (p : Program) (count : Nat) (m : Machine) :
    (∃ n after, iterate (step p) count m = ⟨after, none⟩ ∧ Steps p n m after) ∨
    ∃ n after failure, iterate (step p) count m = ⟨after, some failure⟩ ∧
      Ends p n m ⟨after, some failure⟩ := by
  induction count generalizing m with
  | zero => exact .inl ⟨0, m, rfl, .refl m⟩
  | succ count ih =>
    unfold iterate
    rcases stepped : m.step p with ⟨next, _ | failure⟩
    · simp only
      cases halted : m.halted p with
      | true =>
        -- A machine that has halted stays as it is, so this call is not part of the run.
        rw [step_of_halted halted] at stepped
        cases stepped
        exact ih m
      | false =>
        rcases ih next with ⟨n, after, called, steps⟩ | ⟨n, after, failure, called, ends⟩
        · exact .inl ⟨n + 1, after, called, .more halted stepped steps⟩
        · exact .inr ⟨n + 1, after, failure, called, .more halted stepped ends⟩
    · exact .inr ⟨0, next, failure, rfl, .failed stepped⟩

end Machine

/-- An operation that drives a session on, or changes how its run is logged. -/
def Operation.Drives : Operation → Prop
  | .step _ => True
  | .setLogLevel _ => True
  | _ => False

instance : DecidablePred Operation.Drives
  | .step _ => .isTrue trivial
  | .setLogLevel _ => .isTrue trivial
  | .run => .isFalse id
  | .moveDataCursor _ => .isFalse id
  | .readCell => .isFalse id
  | .jump _ => .isFalse id
  | .findMatch _ _ => .isFalse id
  | .setCell _ _ => .isFalse id
  | .setDataCursor _ => .isFalse id
  | .setInstCursor _ => .isFalse id

namespace Session

/-! ## What driving a session keeps -/

section Keeping

variable {program : Program} {Holds : Machine → Prop}
  (step : ∀ m, Holds m → Holds (m.step program).machine) (tick : ∀ m, Holds m → Holds m.tick)
  {s t : Session} {fuel : Nat}
include step tick

/-- What the steps of the machine keep, each operation keeps that drives a session. -/
theorem perform_keeps {operation : Operation} {answer : Answer}
    (drives : operation = .run ∨ operation.Drives)
    (performed : s.perform fuel operation = some (t, answer))
    (holds : Holds s.machine ∧ s.program = program) : Holds t.machine ∧ t.program = program := by
  obtain ⟨holds, rfl⟩ := holds
  cases operation with
  | run => exact run_keeps step performed holds
  | step count =>
    cases performed
    exact ⟨iterate_keeps (step_keeps step tick) count holds, rfl⟩
  | setLogLevel level =>
    cases performed
    exact ⟨holds, rfl⟩
  | _ => exact drives.elim (fun same => by cases same) False.elim

/-- What the steps of the machine keep, any number of such operations keep. -/
theorem performAll_keeps_machine {operations : List Operation} {answers : List Answer}
    (drives : ∀ operation ∈ operations, operation = .run ∨ operation.Drives)
    (performed : s.performAll fuel operations = some (t, answers))
    (holds : Holds s.machine ∧ s.program = program) : Holds t.machine ∧ t.program = program :=
  performAll_keeps (fun u => Holds u.machine ∧ u.program = program)
    (fun operation member _ _ _ first => perform_keeps step tick (drives operation member) first)
    performed holds

/-- A fault with which such an operation fails is that of a step of the machine, and this step begins
with what the ones before it keep. -/
theorem exists_step_of_fault {operation : Operation} {fault : Fault}
    (drives : operation = .run ∨ operation.Drives)
    (failed : s.perform fuel operation = some (t, .failed (.fault fault)))
    (holds : Holds s.machine ∧ s.program = program) :
    ∃ last, Holds last ∧ last.step program = ⟨t.machine, some (.fault fault)⟩ := by
  obtain ⟨holds, rfl⟩ := holds
  cases operation with
  | run =>
    rcases run_failed failed with ⟨_, other⟩ | ⟨_, cause, ran, same⟩
    · exact absurd rfl (other fault)
    · cases same fault rfl
      obtain ⟨n, _, ends⟩ := run_eq_some_iff.mp ran
      obtain ⟨last, steps, failing⟩ := ends_failed_iff.mp ends
      exact ⟨last, steps.keeps step holds, failing⟩
  | step count =>
    obtain ⟨called, _⟩ := after_failed (Option.some.inj failed)
    obtain ⟨last, kept, failing⟩ := iterate_failed (step_keeps step tick) holds called
    rcases step_failed failing with stepped | ⟨_, _, other⟩
    · exact ⟨last, kept, stepped⟩
    · cases other
  | setLogLevel level => cases failed
  | _ => exact drives.elim (fun same => by cases same) False.elim

end Keeping

/-! ## Ways of driving -/

/-- Performs operations one after the other and then runs, up to the first failure. -/
def drive (s : Session) (fuel : Nat) : List Operation → Option (Session × Answer)
  | [] => s.run fuel
  | operation :: operations =>
    match s.perform fuel operation with
    | none => none
    | some (t, .failed failure) => some (t, .failed failure)
    | some (t, _) => t.drive fuel operations

/-- The level of detail after some operations. -/
def lastLevel (level : Int) : List Operation → Int
  | [] => level
  | .setLogLevel level :: operations => lastLevel level operations
  | _ :: operations => lastLevel level operations

/-- A way of driving a session: steps and changes of the level of detail. No log is stuck, and if
the run at the end is logged, the file of the log can be opened and written. -/
structure Way (s : Session) (operations : List Operation) : Prop where
  drives : ∀ operation ∈ operations, operation.Drives
  closed : s.stuck? = none
  writable : 0 < lastLevel s.logLevel operations →
    ∃ place, s.files.locateForWriting s.logFile = .ok place ∧ s.files.writeError? place = none

variable {s t u : Session} {operations : List Operation}

theorem Way.step {count : Nat} (way : s.Way (.step count :: operations)) (m : Machine) :
    ({ s with machine := m } : Session).Way operations :=
  ⟨fun other member => way.drives other (List.mem_cons_of_mem _ member), way.closed, way.writable⟩

theorem Way.setLogLevel {level : Int} (way : s.Way (.setLogLevel level :: operations)) :
    ({ s with logLevel := level } : Session).Way operations :=
  ⟨fun other member => way.drives other (List.mem_cons_of_mem _ member), way.closed, way.writable⟩

theorem step_of_closed (closed : s.stuck? = none) : s.step = Machine.step s.program := by
  funext m
  rw [step, closed]

theorem perform_step (closed : s.stuck? = none) (fuel count : Nat) :
    s.perform fuel (.step count) =
      some (s.after (s.machine.iterate (Machine.step s.program) count)) := by
  rw [perform, step_of_closed closed]

/-! ## Ways as runs -/

theorem ends_of_run {fuel : Nat} {answer : Answer} (way : s.Way [])
    (ran : s.run fuel = some (t, answer)) :
    ∃ n o, Ends s.program n s.machine o ∧ t.machine = o.machine ∧ o.Answers answer := by
  have ends : ∀ {o : Outcome}, s.machine.run s.program fuel = some o →
      ∃ n, Ends s.program n s.machine o := fun outcome => exists_run_iff.mp ⟨fuel, outcome⟩
  generalize result : (t, answer) = r at ran
  cases run_cases ran with
  | stuck _ stuck =>
    rw [way.closed] at stuck
    cases stuck
  | @unlogged o _ _ outcome =>
    cases result
    obtain ⟨n, ends⟩ := ends outcome
    exact ⟨n, o, ends, rfl, .plain⟩
  | unopened loud refused =>
    obtain ⟨place, located, _⟩ := way.writable loud
    rw [refused] at located
    cases located
  | unwritten loud located refused =>
    obtain ⟨place, again, writable⟩ := way.writable loud
    rw [located] at again
    cases again
    rw [refused] at writable
    cases writable
  | @logged place o log _ _ _ steps =>
    cases result
    obtain ⟨n, ends⟩ := ends (run_of_logging steps)
    exact ⟨n, o, ends, machine_close o log, answers_close o log⟩

theorem run_of_ends {n : Nat} {o : Outcome} (way : s.Way []) (ends : Ends s.program n s.machine o) :
    ∃ fuel t answer, s.run fuel = some (t, answer) ∧ t.machine = o.machine ∧ o.Answers answer := by
  obtain ⟨fuel, outcome⟩ := exists_run_iff.mpr ⟨n, ends⟩
  by_cases loud : 0 < s.logLevel
  · obtain ⟨place, located, writable⟩ := way.writable loud
    obtain ⟨log, steps⟩ := logging_of_run outcome
    exact ⟨fuel, _, _, run_of_logged loud located writable steps, machine_close o log,
      answers_close o log⟩
  · exact ⟨fuel, _, _, run_of_unlogged (Int.not_lt.mp loud) way.closed outcome, rfl, .plain⟩

/-- The induction is on the operations: what each of them does is a part of the run. -/
theorem ends_of_drive {fuel : Nat} {answer : Answer} (way : s.Way operations)
    (driven : s.drive fuel operations = some (t, answer)) :
    ∃ n o, Ends s.program n s.machine o ∧ t.machine = o.machine ∧ o.Answers answer := by
  induction operations generalizing s with
  | nil => exact ends_of_run way driven
  | cons operation operations ih =>
    have drives := way.drives operation List.mem_cons_self
    cases operation with
    | step count =>
      rw [drive, perform_step way.closed] at driven
      rcases iterate_step s.program count s.machine with
        ⟨n, after, called, steps⟩ | ⟨n, after, failure, called, ends⟩
      · rw [called] at driven
        obtain ⟨k, o, ends, same⟩ := ih (way.step after) driven
        exact ⟨n + k, o, Ends.of_steps steps ends, same⟩
      · rw [called] at driven
        cases driven
        exact ⟨n, _, ends, rfl, .plain⟩
    | setLogLevel level => exact ih (s := { s with logLevel := level }) way.setLogLevel driven
    | _ => exact drives.elim

theorem drive_of_ends {n : Nat} {o : Outcome} (way : s.Way operations)
    (ends : Ends s.program n s.machine o) :
    ∃ fuel t answer, s.drive fuel operations = some (t, answer) ∧ t.machine = o.machine ∧
      o.Answers answer := by
  induction operations generalizing s n with
  | nil => exact run_of_ends way ends
  | cons operation operations ih =>
    have drives := way.drives operation List.mem_cons_self
    cases operation with
    | step count =>
      rcases iterate_step s.program count s.machine with
        ⟨k, after, called, steps⟩ | ⟨k, after, failure, called, failed⟩
      · obtain ⟨rest, _, remaining⟩ := ends.after_steps steps
        obtain ⟨fuel, t, answer, driven, same⟩ := ih (way.step after) remaining
        refine ⟨fuel, t, answer, ?_, same⟩
        rw [drive, perform_step way.closed, called]
        exact driven
      · -- The calls came to the failure with which the run ends.
        obtain ⟨_, rfl⟩ := ends.unique failed
        refine ⟨0, (s.after ⟨after, some failure⟩).1, .failed failure, ?_, rfl, .plain⟩
        rw [drive, perform_step way.closed, called]
        rfl
    | setLogLevel level => exact ih (s := { s with logLevel := level }) way.setLogLevel ends
    | _ => exact drives.elim

/-- Two sessions with the same program and the same machine can be driven to the end in any two
ways, with any levels of detail, and files for their logs that can be written. If one way comes to an
end, so does the other one, with the same machine: the same tape, cursors and steps, the same bytes
written, flushes and reads. The answers are the same as well, unless the machine fails with a fault
that passes on a system message with surrogates.

If a run is to be logged and the file of the log cannot be opened, the run answers with the reason,
and nothing in the session has changed. -/
theorem drive_agrees :
    (∀ {s u : Session} {first second : List Operation}, s.program = u.program →
      s.machine = u.machine → s.Way first → u.Way second →
      ∀ {fuel t answer}, s.drive fuel first = some (t, answer) →
        ∃ enough v other, u.drive enough second = some (v, other) ∧ v.machine = t.machine ∧
          answer.Agrees other) ∧
    ∀ {s : Session} {error : OpenError}, 0 < s.logLevel →
      s.files.locateForWriting s.logFile = .error error →
      ∀ fuel, s.run fuel = some (s, .failed (.ofOpenError error)) := by
  constructor
  · intro s u first second program machine way other fuel t answer driven
    obtain ⟨n, o, ends, here, answers⟩ := ends_of_drive way driven
    rw [program, machine] at ends
    obtain ⟨enough, v, again, drivenAgain, there, answersAgain⟩ := drive_of_ends other ends
    exact ⟨enough, v, again, drivenAgain, there.trans here.symm, answers.agrees answersAgain⟩
  · intro s error loud refused fuel
    rw [run, if_neg (Int.not_le.mpr loud), refused]

/-- A program that hands on a byte is run at once with every detail logged, and step by step. Where
the file of the log would stand in a directory that is not there, it is not run at all. -/
theorem drive_agrees_stepwise :
    let s := start (.ofList [.input, .output]) (.ofBytes [7]) (.empty none) 3 "debug.txt" .empty
    let u := { s with logLevel := 0, logFile := "logs/debug.txt" }
    let stepwise := [.step 1, .setLogLevel 2, .step 0, .setLogLevel (-1), .step 1]
    (s.Way [] ∧ u.Way stepwise ∧ ∃ t fuel v, s.drive 3 [] = some (t, .done) ∧
      u.drive fuel stepwise = some (v, .done) ∧ v.machine = t.machine) ∧
    ∃ error, ({ u with logLevel := 1 } : Session).run 0 =
      some ({ u with logLevel := 1 }, .failed (.system error)) := by
  intro s u stepwise
  have way : s.Way [] :=
    ⟨fun _ member => absurd member List.not_mem_nil, rfl, fun _ =>
      ⟨.inside (FileName.ofPath "debug.txt"), by decide +kernel, by decide +kernel⟩⟩
  have other : u.Way stepwise := ⟨by decide, rfl, fun loud => absurd loud (by decide)⟩
  obtain ⟨t, driven⟩ : ∃ t, s.drive 3 [] = some (t, .done) := exists_of_answer (by decide +kernel)
  obtain ⟨fuel, v, again, drivenAgain, machine, agrees⟩ :=
    drive_agrees.1 (s := s) (u := u) rfl rfl way other driven
  have done : again = .done := by
    rcases agrees with same | ⟨⟨⟨_, failed⟩, _⟩, _⟩
    · exact same.symm
    · cases failed
  subst done
  have refused : ({ u with logLevel := 1 } : Session).files.locateForWriting u.logFile =
      .error (.system (.noSuchFile "logs/debug.txt")) := by decide +kernel
  exact ⟨⟨way, other, t, fuel, v, driven, drivenAgain, machine⟩, _,
    drive_agrees.2 (by decide) refused 0⟩

/-- On a full device the file of a log can be opened but not written, so the empty program does not
run with a log, but it runs without one. A message with a surrogate that comes with an input fault
cannot be written to any log, so with a log the run fails in another way than the step does. -/
theorem drive_differs :
    (let s := start (.ofList []) (.ofEvents []) (.empty none) 1 "/dev/full" .empty
     (∃ place, s.files.locateForWriting s.logFile = .ok place) ∧
      (∃ t, s.drive 1 [] = some (t, .failed (.system .noSpace))) ∧
      ∃ t, s.drive 1 [.setLogLevel 0] = some (t, .done)) ∧
    let error := SystemError.plain [.surrogate 0]
    let s := start (.ofList [.input]) (.ofEvents [.systemError error]) (.empty none) 1 "debug.txt"
      .empty
    (∃ place, s.files.locateForWriting s.logFile = .ok place ∧ s.files.writeError? place = none) ∧
      (∃ t refusal, s.drive 1 [] = some (t, .failed (.unencodable refusal))) ∧
      ∃ t, s.drive 1 [.step 1] = some (t, .failed (.fault (.unreadableInput 0 error))) := by
  constructor
  · intro s
    exact ⟨⟨.fromRoot (FileName.ofPath "dev/full"), by decide +kernel⟩,
      exists_of_answer (by decide +kernel), exists_of_answer (by decide +kernel)⟩
  · intro error s
    have masked : ∃ t, s.drive 1 [] = some (t, .failed (.unencodable ⟨60, 0, 1⟩)) :=
      exists_of_answer (by decide +kernel)
    obtain ⟨t, driven⟩ := masked
    exact ⟨⟨.inside (FileName.ofPath "debug.txt"), by decide +kernel, by decide +kernel⟩,
      ⟨t, _, driven⟩, exists_of_answer (by decide +kernel)⟩

end Session

end TapeMachine

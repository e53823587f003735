import TapeMachine.Proofs.CommandLine.Loading
import TapeMachine.Proofs.CommandLine.Words
import TapeMachine.Proofs.Machine.Reading
import TapeMachine.Proofs.Session.Driving

/-!
# How executing a program ends

An invocation that executes a program and ends has come to one of four verdicts: there was no program
in the file, the program ran to its end, it ended in a fault, or something could not be written. Each
has its exit status and its report. There are three ways to miss a verdict: the source file has a
name that no file can have, the input refuses to be read, or a log is to take a fault that passes on
a system message with surrogates.

Results:
1. `sessionFails_of_run`: why the session of an invocation fails.
2. `Concludes.unique`: an invocation comes to one verdict at most.
3. `run_concludes`: it comes to one, or it misses it in one of the three ways.
4. `run_misses_verdict`: that it misses it does happen.
-/

namespace TapeMachine.CommandLine

open Machine

/-- How an invocation that executes a program has ended. -/
inductive Verdict
  /-- For some reason there is no program in the file at a path. -/
  | unloaded (path : Path) (reason : Text)
  | completed
  | faulted (fault : Fault)
  /-- The log or the output could not be written. -/
  | unwritten (error : SystemError)

/-- Something cannot be written: the file of the log cannot be opened, it cannot be written, or the
output refuses the byte that the program is about to write. -/
inductive Unwritten (w : Surroundings) (p : Program) (verbosity : Nat) (t : Session) :
    SystemError → Prop
  | unopened {error : SystemError} : 0 < verbosity →
      w.files.locateForWriting logFile = .error (.system error) → Unwritten w p verbosity t error
  | unlogged {place : FilePlace} {error : SystemError} : 0 < verbosity →
      w.files.locateForWriting logFile = .ok place → w.files.writeError? place = some error →
      Unwritten w p verbosity t error
  | refused {error : SystemError} : p.fetch? t.machine.instCursor = some .output →
      t.machine.output.refusal? 1 = some error → Unwritten w p verbosity t error

/-- A system message that is no ordinary text is among the events of the input. -/
def HasSurrogates (input : Input) : Prop :=
  ∃ cause, .systemError cause ∈ input.pending ∧ ∀ text : String, cause.message ≠ .ofString text

/-- A verdict on an invocation, and what the invocation has left and done when it came to it. Up to
its report, it has left what the session has left, or nothing has changed. -/
inductive Concludes (words : List Text) (w : Surroundings) (fuel : Nat) : Verdict → Result → Prop
  | unloaded {path : Path} {reason : Text} : Unloadable words w path reason →
      Concludes words w fuel (.unloaded path reason)
        ({ w with errors := w.errors ++ Text.spelled (errorReport reason path.text) }, .exit 1)
  | completed {verbosity : Nat} {p : Program} {t : Session} : LoadsAt words w verbosity p →
      (w.session p verbosity).run fuel = some (t, .done) →
      Concludes words w fuel .completed (w.afterSession t, .exit 0)
  | faulted {verbosity : Nat} {p : Program} {t : Session} {fault : Fault} :
      LoadsAt words w verbosity p →
      (w.session p verbosity).run fuel = some (t, .failed (.fault fault)) →
      Concludes words w fuel (.faulted fault)
        ({ w.afterSession t with errors := w.errors ++ Text.spelled (faultReport fault) }, .exit 1)
  | unwritten {verbosity : Nat} {p : Program} {t : Session} {error : SystemError} :
      LoadsAt words w verbosity p →
      (w.session p verbosity).run fuel = some (t, .failed (.system error)) →
      Unwritten w p verbosity t error →
      Concludes words w fuel (.unwritten error)
        ({ w.afterSession t with
          errors := w.errors ++
            Text.spelled (errorReport error.reason (error.file?.getD "output")) }, .exit 1)

/-- How an invocation misses a verdict, with what it has left then. -/
inductive Misses (words : List Text) (w : Surroundings) (fuel : Nat) : Surroundings → Failure → Prop
  | misnamed {failure : Failure} : Misnamed words w failure → Misses words w fuel w failure
  | refused {verbosity : Nat} {p : Program} {t : Session} {message : Text} :
      LoadsAt words w verbosity p →
      (w.session p verbosity).run fuel = some (t, .failed (.refused message)) →
      .refusal message ∈ w.input.pending →
      Misses words w fuel (w.afterSession t) (.refused message)
  | unencodable {verbosity : Nat} {p : Program} {t : Session} {refusal : Utf8.EncodeRefusal} :
      LoadsAt words w verbosity p →
      (w.session p verbosity).run fuel = some (t, .failed (.unencodable refusal)) →
      0 < verbosity → HasSurrogates w.input →
      Misses words w fuel (w.afterSession t) (.unencodable refusal)

variable {words : List Text} {w : Surroundings} {p : Program} {verbosity fuel : Nat} {t : Session}

/-! ## Failures of the session -/

/-- Why the session of an invocation fails. -/
inductive SessionFails (w : Surroundings) (p : Program) (verbosity : Nat) (t : Session) :
    Failure → Prop
  | faulted (fault : Fault) : SessionFails w p verbosity t (.fault fault)
  | unwritten {error : SystemError} : Unwritten w p verbosity t error →
      SessionFails w p verbosity t (.system error)
  | refused {message : Text} : .refusal message ∈ w.input.pending →
      SessionFails w p verbosity t (.refused message)
  | unencodable {refusal : Utf8.EncodeRefusal} : 0 < verbosity → HasSurrogates w.input →
      SessionFails w p verbosity t (.unencodable refusal)

theorem runFails_of_run {o : Outcome} {failure : Failure}
    (ran : (fresh w.input w.output).run p fuel = some o) (failed : o.failure? = some failure) :
    RunFails p (fresh w.input w.output) o.machine failure := by
  obtain ⟨after, failure?⟩ := o
  cases failed
  obtain ⟨n, _, ends⟩ := run_eq_some_iff.mp ran
  exact runFails_of_ends (show 0 < tapeSize by decide) ends

theorem SessionFails.of_runFails {failure : Failure}
    (fails : RunFails p (fresh w.input w.output) t.machine failure) :
    SessionFails w p verbosity t failure := by
  cases fails with
  | fault _ => exact .faulted _
  | full fetched refused => exact .unwritten (.refused fetched refused)
  | refused pending => exact .refused pending

theorem sessionFails_of_run {failure : Failure}
    (ran : (w.session p verbosity).run fuel = some (t, .failed failure)) :
    SessionFails w p verbosity t failure := by
  have level : ∀ {verbosity : Nat}, 0 < (w.session p verbosity).logLevel → 0 < verbosity :=
    Int.natCast_pos.mp
  generalize result : (t, Answer.failed failure) = r at ran
  cases Session.run_cases ran with
  | stuck _ stuck => cases stuck
  | @unlogged o _ _ outcome =>
    obtain ⟨rfl, _⟩ := Session.after_failed result.symm
    exact .of_runFails (runFails_of_run outcome rfl)
  | unopened loud refused =>
    cases result
    obtain ⟨cause, rfl⟩ := FileTree.system_of_locateForWriting bytesOf_logFile refused
    exact .unwritten (.unopened (level loud) refused)
  | unwritten loud located refused =>
    cases result
    exact .unwritten (.unlogged (level loud) located refused)
  | @logged place o log loud _ _ steps =>
    have outcome := Session.run_of_logging steps
    obtain ⟨closed, _⟩ := Session.after_failed result.symm
    have machine : o.machine = t.machine := by rw [← machine_close o log, closed]
    have answered : (close o log).1.answer = .failed failure := by rw [closed]; rfl
    have answers := answers_close o log
    rw [answered] at answers
    generalize same : Answer.failed failure = answer at answers
    cases answers with
    | plain =>
      have fails := runFails_of_run outcome (Session.answer_eq_failed_iff.mp same.symm)
      rw [machine] at fails
      exact .of_runFails fails
    | @masked fault refusal failed refused =>
      cases same
      obtain ⟨cause, caused, strange⟩ := Fault.hasSurrogates_of_refused refused
      cases runFails_of_run outcome failed with
      | fault pending => exact .unencodable (level loud) ⟨cause, pending cause caused, strange⟩

/-! ## One verdict -/

/-- What the session of an invocation answered. -/
def Verdict.answer? : Verdict → Option Answer
  | .unloaded _ _ => none
  | .completed => some .done
  | .faulted fault => some (.failed (.fault fault))
  | .unwritten error => some (.failed (.system error))

theorem Verdict.eq_of_answer? {verdict other : Verdict} {answer : Answer}
    (first : verdict.answer? = some answer) (second : other.answer? = some answer) :
    verdict = other := by
  cases verdict <;> cases first <;> cases other <;> cases second <;> rfl

theorem Concludes.loading {verdict : Verdict} {result : Result}
    (concludes : Concludes words w fuel verdict result) :
    (∃ path reason, verdict = .unloaded path reason ∧ Unloadable words w path reason) ∨
      ∃ verbosity p t answer, LoadsAt words w verbosity p ∧
        (w.session p verbosity).run fuel = some (t, answer) ∧ verdict.answer? = some answer := by
  cases concludes with
  | unloaded unloadable => exact .inl ⟨_, _, rfl, unloadable⟩
  | completed loads ran => exact .inr ⟨_, _, _, _, loads, ran, rfl⟩
  | faulted loads ran => exact .inr ⟨_, _, _, _, loads, ran, rfl⟩
  | unwritten loads ran _ => exact .inr ⟨_, _, _, _, loads, ran, rfl⟩

theorem Concludes.unique {verdict other : Verdict} {result otherResult : Result}
    (first : Concludes words w fuel verdict result)
    (second : Concludes words w fuel other otherResult) : verdict = other := by
  rcases first.loading with ⟨_, _, rfl, unloadable⟩ | ⟨_, _, _, _, loads, ran, answered⟩
  · rcases second.loading with ⟨_, _, rfl, again⟩ | ⟨_, _, _, _, loads, _, _⟩
    · obtain ⟨rfl, rfl⟩ := unloadable.unique again
      rfl
    · exact absurd loads (not_loadsAt_of_unloadable unloadable)
  · rcases second.loading with ⟨_, _, _, unloadable⟩ | ⟨_, _, _, _, loadsAgain, ranAgain, again⟩
    · exact absurd loads (not_loadsAt_of_unloadable unloadable)
    · obtain ⟨rfl, rfl⟩ := loads.unique loadsAgain
      rw [ran] at ranAgain
      cases ranAgain
      exact Verdict.eq_of_answer? answered again

/-! ## Invocations -/

/-- An invocation that is to execute a program, and that ends, has come to exactly one verdict, and
it has left and done what goes with it; or it has missed a verdict, and the failure of the run
escapes from it. -/
theorem run_concludes (executes : Executes words verbosity) {result : Result}
    (ended : run words w fuel = some result) :
    (∃! verdict, Concludes words w fuel verdict result) ∨
      ∃ left failure, result = (left, .escaped failure) ∧ Misses words w fuel left failure := by
  have one : ∀ {verdict}, Concludes words w fuel verdict result →
      ∃! verdict, Concludes words w fuel verdict result :=
    fun concludes => ⟨_, concludes, fun _ other => other.unique concludes⟩
  rcases loading_cases executes with ⟨p, loads⟩ | ⟨path, reason, unloadable⟩ | ⟨failure, misnamed⟩
  · rw [run_of_loadsAt loads, Surroundings.execute_eq_some_iff] at ended
    obtain ⟨t, answer, ran, rfl⟩ := ended
    rcases Session.answer_of_run ran with rfl | ⟨failure, rfl⟩
    · exact .inl (one (.completed loads ran))
    · cases sessionFails_of_run ran with
      | faulted fault => exact .inl (one (.faulted loads ran))
      | unwritten unwritten => exact .inl (one (.unwritten loads ran unwritten))
      | refused pending => exact .inr ⟨_, _, rfl, .refused loads ran pending⟩
      | unencodable loud strange => exact .inr ⟨_, _, rfl, .unencodable loads ran loud strange⟩
  · rw [run_of_unloadable unloadable] at ended
    cases ended
    exact .inl (one (.unloaded unloadable))
  · rw [run_of_misnamed misnamed] at ended
    cases ended
    exact .inr ⟨w, failure, rfl, .misnamed misnamed⟩

/-- The program `[` is executed, and the verdict is that it ended in a fault. -/
theorem run_concludes_faulted :
    let words := [Text.ofString "--", Text.ofString "p"]
    let w : Surroundings := ⟨⟨[([[0x70]], .file [0x5B])], []⟩, .ofEvents [], .empty none, ""⟩
    Executes words 0 ∧ ∃ result, run words w 1 = some result ∧
      (∃! verdict, Concludes words w 1 verdict result) ∧ result.2 = .exit 1 ∧
      result.1.errors =
        "Runtime error: UnmatchedBracket: Unmatched `[` instruction at position 0\n" := by
  intro words w
  have asked : request words = .executeSource (Text.ofString "p") 0 := request_source 0 (by decide)
  have ended : (run words w 1).map (fun result => (result.2, result.1.errors)) = some (.exit 1,
      "Runtime error: UnmatchedBracket: Unmatched `[` instruction at position 0\n") := by
    decide +kernel
  obtain ⟨result, ran, same⟩ := Option.map_eq_some_iff.mp ended
  obtain ⟨exits, errors⟩ := Prod.mk.inj same
  refine ⟨.source asked, result, ran, ?_, exits, errors⟩
  rcases run_concludes (.source asked) ran with one | ⟨left, failure, rfl, _⟩
  · exact one
  · cases exits

/-- A verdict is missed if a log is to take a message with a surrogate, and if a source file is named
by a surrogate that stands for no byte. -/
theorem run_misses_verdict :
    let words := [Text.ofString "-v", Text.ofString "p"]
    let w : Surroundings :=
      ⟨⟨[([[0x70]], .file [0x2C])], []⟩, .ofEvents [.systemError (.plain [.surrogate 0])],
        .empty none, ""⟩
    let nameless := [[CodePoint.surrogate 0x500]]
    (∃ left failure, run words w 1 = some (left, .escaped failure) ∧
      ∀ verdict, ¬Concludes words w 1 verdict (left, .escaped failure)) ∧
    ∃ left failure, run nameless w 0 = some (left, .escaped failure) ∧
      ∀ verdict, ¬Concludes nameless w 0 verdict (left, .escaped failure) := by
  have none : ∀ {words w fuel left failure verdict},
      ¬Concludes words w fuel verdict (left, .escaped failure) := by
    intro words w fuel left failure verdict concludes
    cases concludes
  have misses : ∀ {words w fuel failure},
      (run words w fuel).map Prod.snd = some (.escaped failure) →
      ∃ left failure, run words w fuel = some (left, .escaped failure) ∧
        ∀ verdict, ¬Concludes words w fuel verdict (left, .escaped failure) := by
    intro words w fuel failure ended
    obtain ⟨⟨left, _⟩, ran, rfl⟩ := Option.map_eq_some_iff.mp ended
    exact ⟨left, failure, ran, fun _ => none⟩
  intro words w nameless
  constructor
  · have ended : (run words w 1).map Prod.snd = some (.escaped (.unencodable ⟨60, 0, 1⟩)) := by
      decide +kernel
    exact misses ended
  · have ended : (run nameless w 0).map Prod.snd =
        some (.escaped (.unencodable ⟨0, 0x500, 1⟩)) := by decide +kernel
    exact misses ended

end TapeMachine.CommandLine

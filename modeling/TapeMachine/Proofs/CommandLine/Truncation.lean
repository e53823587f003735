import TapeMachine.Proofs.CommandLine.Loading
import TapeMachine.Proofs.CommandLine.Words
import TapeMachine.Proofs.Machine.Truncation

/-!
# Executing a program on a limited output

An invocation that executes a program without a log runs the machine from its first state on the
input and the output that it finds. If the output takes only so many bytes and the program writes
more, the invocation has handed on as many of them as the output takes, and reports the error.

Results:
1. `run_of_loads`: an invocation that executes a program without a log.
2. `run_truncated`: the machine and the invocation on a limited output.
-/

namespace TapeMachine.CommandLine

open Machine

/-- The command line asks, without any `-v`, to execute a source file or a stored program, and there
is a program in the file. -/
inductive Loads (words : List Text) (w : Surroundings) (p : Program) : Prop
  | source {path : Text} : request words = .executeSource path 0 →
      Program.ofFile w.files (Path.ofText path).text = .ok p → Loads words w p
  | stored {path : Text} : request words = .executeStored path 0 →
      storedProgram (w.files.read (Path.ofText path).text) = .ok p → Loads words w p

theorem Loads.loadsAt {words : List Text} {w : Surroundings} {p : Program}
    (loads : Loads words w p) : LoadsAt words w 0 p := by
  cases loads with
  | source asked loaded => exact .source asked loaded
  | stored asked loaded => exact .stored asked loaded

/-- Without a log an invocation leaves what the run of the machine leaves. -/
theorem run_of_loads {words : List Text} {w : Surroundings} {p : Program} {fuel : Nat} {o : Outcome}
    (loads : Loads words w p) (ran : (fresh w.input w.output).run p fuel = some o) :
    run words w fuel =
      some ({ w with input := o.machine.input, output := o.machine.output }.conclude o.answer) := by
  have quiet := Session.run_of_unlogged
    (s := Session.start p w.input w.output 0 logFile w.files) (Int.le_refl 0) rfl ran
  rw [run_of_loadsAt loads.loadsAt, Surroundings.execute]
  simp only [Int.natCast_zero, quiet]
  rfl

/-- A program on an input writes to an output that takes only so many bytes. If it never writes more,
its run is the one on an unlimited output. If at some time it would have written more, whatever it
then comes to, the run fails with the error of the output. It has written and flushed as many bytes
as the output takes, which are the first ones of those it would have written, and for the rest it is
in the state before the step that would write the next byte, with one step more on its count. An
invocation that executes the program without a log then leaves these bytes, reports the error and
ends with the status 1. -/
theorem run_truncated (p : Program) (input : Input) (limit : OutputLimit) :
    let m := fresh input (.empty none)
    let narrow := fresh input (.empty (some limit))
    ((∀ {n later}, Steps p n m later → later.output.written.size ≤ limit.capacity) →
      ∀ fuel, narrow.run p fuel = (m.run p fuel).map (Outcome.limited limit)) ∧
    ∀ {n later}, Steps p n m later → limit.capacity < later.output.written.size →
      ∃ last fuel, Truncated p limit m later last ∧
        narrow.run p fuel = some ⟨(last.limited limit).tick, some (.system limit.error)⟩ ∧
        ∀ {words w}, Loads words w p → w.input = input → w.output = .empty (some limit) →
          ∃ after, run words w fuel = some (after, .exit 1) ∧
            after.output.written = last.output.written ∧
            after.errors = w.errors ++ Text.spelled
              (errorReport limit.error.reason (limit.error.file?.getD "output")) := by
  intro m narrow
  refine ⟨fun below => run_limited rfl below, ?_⟩
  intro n later steps beyond
  have wrote : Wrote [] m := ⟨rfl, rfl, List.nil_prefix⟩
  obtain ⟨k, last, truncated, ends⟩ := steps.truncated wrote (Nat.zero_le _) beyond
  obtain ⟨fuel, ran⟩ := exists_run_iff.mpr ⟨k, ends⟩
  refine ⟨last, fuel, truncated, ran, ?_⟩
  rintro words w loads rfl output
  have same : (fresh w.input w.output).run p fuel =
      some ⟨(last.limited limit).tick, some (.system limit.error)⟩ := output ▸ ran
  exact ⟨_, run_of_loads loads same, rfl, rfl⟩

/-- A program that hands on one zero, and one that hands on two, on an output with room for one. -/
theorem run_truncated_echo :
    let limit : OutputLimit := ⟨1, .noSpace⟩
    let w : Surroundings :=
      ⟨⟨[([[0x70]], .file [0x2E, 0x2E])], []⟩, .ofEvents [], .empty (some limit), ""⟩
    (∃ o, (fresh w.input w.output).run (.ofList [.output]) 2 = some o ∧ o.failure? = none) ∧
    ∃ fuel after, run [Text.ofString "--", Text.ofString "p"] w fuel = some (after, .exit 1) ∧
      after.output.written.toList = [0] ∧
      after.errors = "Error: No space left on device: output\n" := by
  intro limit w
  constructor
  · have below : ∀ {n later}, Steps (.ofList [.output]) n (fresh w.input (.empty none)) later →
        later.output.written.size ≤ limit.capacity := by
      intro n later steps
      cases steps with
      | refl => decide
      | more _ stepped rest =>
        cases stepped
        cases rest with
        | refl => decide
        | more running _ _ => cases running
    have same := (run_truncated (.ofList [.output]) w.input limit).1 below 2
    exact ⟨_, same, rfl⟩
  · let p := Program.ofList [.output, .output]
    have loads : Loads [Text.ofString "--", Text.ofString "p"] w p :=
      .source (request_source 0 (by decide)) (by decide +kernel)
    have steps : Steps p 2 (fresh w.input (.empty none)) _ := .more rfl rfl (.more rfl rfl (.refl _))
    obtain ⟨last, fuel, truncated, _, reports⟩ :=
      (run_truncated p w.input limit).2 steps (by decide +kernel)
    obtain ⟨after, ran, written, errors⟩ := reports loads rfl rfl
    refine ⟨fuel, after, ran, ?_, errors.trans (by decide +kernel)⟩
    rw [written, truncated.written]
    rfl

end TapeMachine.CommandLine

import TapeMachine.Proofs.CommandLine.Emit
import TapeMachine.Proofs.CommandLine.Given
import TapeMachine.Proofs.CommandLine.Loading
import TapeMachine.Proofs.Machine.Reading

/-!
# What an invocation touches

An invocation either stores a program, which writes one file, beside the source, or executes one,
which writes at most the file of the log and reads as often as the program asks for a byte. All
others touch nothing.

Results:
1. `input_of_run`, `files_of_run`: what a run of a session touches.
2. `stores_emit`, `touches_execute`: what storing and executing touch.
3. `run_touches`: what an invocation touches, whatever its words are.
-/

namespace TapeMachine

open Machine

/-- Two states of the files differ at one place at most. -/
def FileTree.SameBut (before after : FileTree) (place : FilePlace) : Prop :=
  ∀ other, other ≠ place → after.find? other = before.find? other

namespace Session

variable {s t : Session} {fuel : Nat} {answer : Answer}

theorem input_of_run (ran : s.run fuel = some (t, answer)) :
    ∃ attempts, t.machine.steps = s.machine.steps + attempts ∧
      t.machine.input = s.machine.input.skip (attempted s.program .input attempts s.machine) := by
  have reads : ∀ {o : Outcome}, s.machine.run s.program fuel = some o →
      ∃ attempts, o.machine.steps = s.machine.steps + attempts ∧ o.machine.input =
        s.machine.input.skip (attempted s.program .input attempts s.machine) := by
    intro o outcome
    obtain ⟨n, _, ends⟩ := run_eq_some_iff.mp outcome
    exact input_of_ends ends
  cases run_cases ran with
  | stuck _ _ => exact ⟨0, rfl, rfl⟩
  | unlogged _ _ outcome => exact reads outcome
  | unopened _ _ => exact ⟨0, rfl, rfl⟩
  | unwritten _ _ _ => exact ⟨0, rfl, rfl⟩
  | @logged place o log _ _ _ steps =>
    have same := machine_logged s place o log
    obtain ⟨attempts, read⟩ := reads (run_of_logging steps)
    rw [← same] at read
    exact ⟨attempts, read⟩

/-- Only a run that is logged writes, and only the file of its log. -/
theorem files_of_run (ran : s.run fuel = some (t, answer)) :
    t.files = s.files ∨ 0 < s.logLevel ∧ ∃ place content,
      s.files.locateForWriting s.logFile = .ok place ∧ t.files = s.files.put place content := by
  cases run_cases ran with
  | stuck _ _ => exact .inl rfl
  | unlogged _ _ _ => exact .inl rfl
  | unopened _ _ => exact .inl rfl
  | unwritten _ _ _ => exact .inl rfl
  | logged loud located _ _ => exact .inr ⟨loud, _, _, located, rfl⟩

end Session

namespace CommandLine

/-! ## Parts of an invocation -/

/-- The file of a log has another name than any that a program is stored under. -/
theorem logPlace_ne_beside {t : FileTree} {file : Text} {place : FilePlace}
    (beside : t.Beside file place) : logPlace ≠ place := by
  cases beside with
  | @suffixed _ _ last directory _ _ _ =>
    rw [FileTree.child_suffixed]
    cases directory with
    | inside names =>
      intro same
      have suffixed := suffixed_append names last
      rw [← FilePlace.inside.inj same] at suffixed
      exact absurd suffixed (by decide +kernel)
    | fromRoot names => nofun

/-- The files and the input are what they were. -/
structure Untouched (w after : Surroundings) : Prop where
  files : after.files = w.files
  input : after.input = w.input

/-- What storing the program of a source file may touch: nothing, if there is no program, and else
one file at most, which is beside the source. Neither the source nor the file of the log changes. -/
structure Stores (w : Surroundings) (source : Text) (after : Surroundings) : Prop where
  input : after.input = w.input
  files : after.files = w.files ∨ (∃ p, Program.ofFile w.files source = .ok p) ∧
    ∃ place, w.files.Beside source place ∧ w.files.SameBut after.files place
  source : ∀ {path place}, w.files.Opens source path place →
    after.files.find? place = w.files.find? place
  log : after.files.find? logPlace = w.files.find? logPlace

/-- What executing a program may touch: nothing, if none is loaded, and else the file of the log, if
there is a verbosity, and so many events of the input as the program has asked for a byte. -/
inductive Touches (words : List Text) (w : Surroundings) (verbosity fuel : Nat)
    (after : Surroundings) : Prop
  | unloaded : (∀ p, ¬LoadsAt words w verbosity p) → Untouched w after →
      Touches words w verbosity fuel after
  | loaded {p : Program} {t : Session} {answer : Answer} : LoadsAt words w verbosity p →
      (w.session p verbosity).run fuel = some (t, answer) →
      after.input = w.input.skip (attempted p .input t.machine.steps (fresh w.input w.output)) →
      (after.files = w.files ∨
        (0 < verbosity ∧ Gives words .verbose) ∧ w.files.SameBut after.files logPlace) →
      Touches words w verbosity fuel after

theorem Untouched.stores {w after : Surroundings} (untouched : Untouched w after) (source : Text) :
    Stores w source after :=
  ⟨untouched.input, .inl untouched.files, fun _ => by rw [untouched.files], by rw [untouched.files]⟩

variable {words : List Text} {w after : Surroundings} {verbosity fuel : Nat} {ending : Ending}

/-- Printing a line asks for nothing but the output, and changes nothing else. -/
theorem Surroundings.printLine_of_output {w other : Surroundings} (same : w.output = other.output)
    (line : Text) : w.printLine line =
      ({ w with output := (other.printLine line).1.output }, (other.printLine line).2) := by
  unfold printLine
  rw [same]
  cases Utf8.encodeText line with
  | error refusal => rw [← same]
  | ok bytes =>
    simp only
    cases other.output.write bytes with
    | error error => rw [← same]
    | ok output =>
      simp only
      cases output.write (Utf8.encodeString "\n") <;> rfl

theorem Surroundings.untouched_failToOpen (w : Surroundings) (path : Path) (error : OpenError) :
    Untouched w (w.failToOpen path error).1 := by
  cases error <;> exact ⟨rfl, rfl⟩

theorem stores_emit (w : Surroundings) (name : Text) :
    Stores w (Path.ofText name).text (w.emit (.ofText name)).1 := by
  unfold Surroundings.emit
  split
  · next error _ => exact (w.untouched_failToOpen _ error).stores _
  · next p compiled =>
    simp only
    split
    · exact Untouched.stores ⟨rfl, rfl⟩ _
    · next place located =>
      obtain ⟨content, read, _⟩ := Program.ofFile_eq_ok_iff.mp compiled
      have extended := Path.text_extend (FileTree.names_ne_nil_of_read read) storedSuffix
      obtain ⟨⟨longer, opensTarget⟩, _⟩ := FileTree.opens_of_locateForWriting located
      obtain ⟨path, here, opens, _⟩ := FileTree.read_eq_ok_iff.mp read
      have beside := (FileTree.beside_of_opens extended opens opensTarget).1
      have same : ∀ other, other ≠ place →
          (w.files.put place p.toJsonBytes).find? other = w.files.find? other :=
        fun other differs => FileTree.find?_put_other w.files differs _
      rw [Surroundings.printLine_of_output rfl]
      exact ⟨rfl, .inr ⟨⟨p, compiled⟩, place, beside, same⟩,
        fun opens => same _ (FileTree.beside_of_opens extended opens opensTarget).2,
        same _ (logPlace_ne_beside beside)⟩

/-- Storing a program does not ask what the input is. -/
theorem Surroundings.emit_withInput (w : Surroundings) (path : Path) (input : Input) :
    ({ w with input := input } : Surroundings).emit path =
      ({ (w.emit path).1 with input := input }, (w.emit path).2) := by
  simp only [emit]
  cases Program.ofFile w.files path.text with
  | error error => cases error <;> rfl
  | ok p =>
    simp only
    cases w.files.locateForWriting (path.extend storedSuffix).text with
    | error error => rfl
    | ok place =>
      let written := { w with files := w.files.put place p.toJsonBytes }
      let line := (path.extend storedSuffix).text
      have kept : (written.printLine line).1 =
          { written with output := (written.printLine line).1.output } :=
        congrArg Prod.fst (printLine_of_output rfl line)
      calc ({ written with input := input } : Surroundings).printLine line
          = ({ written with input := input, output := (written.printLine line).1.output },
              (written.printLine line).2) := printLine_of_output (by rfl) line
        _ = ({ (written.printLine line).1 with input := input }, (written.printLine line).2) := by
            rw [kept]

theorem touches_execute (executes : Executes words verbosity)
    (ended : run words w fuel = some (after, ending)) : Touches words w verbosity fuel after := by
  rcases loading_cases executes with ⟨p, loads⟩ | ⟨path, reason, unloadable⟩ | ⟨failure, misnamed⟩
  · rw [run_of_loadsAt loads, Surroundings.execute_eq_some_iff] at ended
    obtain ⟨t, answer, ran, concluded⟩ := ended
    have kept := Surroundings.conclude_keeps (w.afterSession t) answer
    rw [← concluded] at kept
    have files : after.files = t.files := congrArg Surroundings.files kept
    have input : after.input = t.machine.input := congrArg Surroundings.input kept
    obtain ⟨attempts, steps, read⟩ := Session.input_of_run ran
    obtain rfl : t.machine.steps = attempts := steps.trans (Nat.zero_add attempts)
    refine .loaded loads ran (input.trans read) ?_
    rw [files]
    refine (Session.files_of_run ran).imp id ?_
    rintro ⟨loud, place, content, located, written⟩
    obtain rfl := place_of_logFile located
    have loud : 0 < verbosity := Int.natCast_pos.mp loud
    refine ⟨⟨loud, executes.gives_verbose loud⟩, fun other differs => ?_⟩
    rw [written]
    exact FileTree.find?_put_other w.files differs content
  · rw [run_of_unloadable unloadable] at ended
    cases ended
    exact .unloaded (fun _ => not_loadsAt_of_unloadable unloadable) ⟨rfl, rfl⟩
  · rw [run_of_misnamed misnamed] at ended
    cases ended
    exact .unloaded (fun _ => not_loadsAt_of_misnamed misnamed) ⟨rfl, rfl⟩

/-! ## Invocations -/

/-- What an invocation touches is told by what its words ask for. If they ask for help or are wrong,
which they are whenever both options that name a file are given, it touches nothing. If they ask to
store a program it writes one file at most, which is beside the source; whatever the input is, and
whatever fuel there is, it does the same, so it executes nothing. If they ask to execute a program it
touches nothing unless there is one; then it uses up one event of the input for each attempt of the
program to read, and it writes at most the file of the log, and that only if `-v` was given. -/
theorem run_touches (ended : run words w fuel = some (after, ending)) :
    (request words = .help ∨ (∃ error, request words = .usage error) → Untouched w after) ∧
    (∀ name, request words = .emit name → Stores w (Path.ofText name).text after ∧
      ∀ input enough, run words { w with input := input } enough =
        some ({ after with input := input }, ending)) ∧
    (∀ verbosity, Executes words verbosity → Touches words w verbosity fuel after) ∧
    (Gives words .emit → Gives words .stored →
      request words = .help ∨ ∃ error, request words = .usage error) := by
  have idle : request words = .help ∨ (∃ error, request words = .usage error) →
      Untouched w after := by
    rintro (asked | ⟨error, wrong⟩)
    · obtain ⟨other, helped, files, input, _⟩ := run_help asked w fuel
      rw [ended] at helped
      cases helped
      exact ⟨files, input⟩
    · rw [run_usage wrong] at ended
      cases ended
      exact ⟨rfl, rfl⟩
  refine ⟨idle, ?_, fun _ executes => touches_execute executes ended, request_of_both⟩
  intro name asked
  simp only [run, perform, asked, Option.some.injEq] at ended ⊢
  have stores := stores_emit w name
  rw [ended] at stores
  refine ⟨stores, fun input _ => ?_⟩
  rw [Surroundings.emit_withInput, ended]

/-- The program `,.` is executed with `-v` before its words. It is among the files that stay what
they were, since only the file of the log is written. -/
theorem run_touches_logged :
    let words := [Text.ofString "-v", Text.ofString "--", Text.ofString "p"]
    let w : Surroundings :=
      ⟨⟨[([[0x70]], .file [0x2C, 0x2E])], []⟩, .ofBytes [7, 8], .empty none, ""⟩
    ∃ after, run words w 3 = some (after, .exit 0) ∧ w.files.SameBut after.files logPlace ∧
      after.files.find? (.inside [[0x70]]) = w.files.find? (.inside [[0x70]]) := by
  intro words w
  have ended : (run words w 3).map Prod.snd = some (.exit 0) := by decide +kernel
  obtain ⟨⟨after, _⟩, ran, rfl⟩ := Option.map_eq_some_iff.mp ended
  have asked : request words = .executeSource (Text.ofString "p") 1 := request_source 1 (by decide)
  have loads : LoadsAt words w 1 (.ofList [.input, .output]) := .source asked rfl
  have only : w.files.SameBut after.files logPlace := by
    cases (run_touches ran).2.2.1 1 loads.executes with
    | unloaded none _ => exact absurd loads (none _)
    | loaded _ _ _ files =>
      rcases files with same | ⟨_, only⟩
      · exact fun other _ => by rw [same]
      · exact only
  exact ⟨after, ran, only, only _ (by decide +kernel)⟩

end CommandLine

end TapeMachine

import TapeMachine.CommandLine
import TapeMachine.Proofs.CommandLine.Given
import TapeMachine.Proofs.Session.Operations

/-!
# Loading a program and executing it

An invocation that executes a program loads it first, from a source file or from a file in which it
is stored. If there is none it says why and has touched nothing. If there is one it runs a session
on it, and what it leaves of the files, the input and the output is what the session leaves.

Results:
1. `storedProgram_eq_error_iff`: the reasons why a file holds no stored program.
2. `run_of_loadsAt`, `run_of_unloadable`, `run_of_misnamed`: the three ways to begin.
3. `loading_cases`: there are no others.
4. `place_of_logFile`: where the file of the log is.
5. `execute_eq_some_iff`: executing a program is a run of a session.
-/

namespace TapeMachine.CommandLine

/-! ## Loading -/

/-- Why a file holds no stored program: it cannot be opened, its name is none that a file can have,
its bytes are not well formed, the text in it is no JSON, or the JSON is no stored program. -/
inductive Unstored (files : FileTree) (file : Text) : Text → Prop
  | unopened {error : SystemError} : files.read file = .error (.system error) →
      Unstored files file error.reason
  | misnamed {error : OpenError} : files.read file = .error error →
      (∀ cause, error ≠ .system cause) → Unstored files file error.message
  | undecodable {content : List UInt8} {refusal : Utf8.Refusal} : files.read file = .ok content →
      Utf8.decode content = .error refusal → Unstored files file refusal.message
  | unreadable {content : List UInt8} {text : List Char} {error : Json.ReadError} :
      files.read file = .ok content → Utf8.decode content = .ok text →
      Json.read (.ofChars (Newline.unify text)) = .error error →
      Unstored files file error.message
  | rejected {content : List UInt8} {text : List Char} {value : Json}
      {rejection : Program.Rejection} :
      files.read file = .ok content → Utf8.decode content = .ok text →
      Json.read (.ofChars (Newline.unify text)) = .ok value →
      Program.ofJson value = .error rejection → Unstored files file rejection.message

theorem storedProgram_eq_error_iff {files : FileTree} {file reason : Text} :
    storedProgram (files.read file) = .error reason ↔ Unstored files file reason := by
  constructor
  · intro failed
    cases read : files.read file with
    | error error =>
      rw [read] at failed
      cases error with
      | system error =>
        cases failed
        exact .unopened read
      | nullByte =>
        cases failed
        exact .misnamed read nofun
      | unencodable refusal =>
        cases failed
        exact .misnamed read nofun
    | ok content =>
      rw [read, storedProgram, Program.ofJsonBytes] at failed
      cases decoded : Utf8.decode content with
      | error refusal =>
        rw [decoded] at failed
        cases failed
        exact .undecodable read decoded
      | ok text =>
        rw [decoded] at failed
        simp only [Program.ofJsonText] at failed
        cases parsed : Json.read (.ofChars (Newline.unify text)) with
        | error error =>
          rw [parsed] at failed
          cases failed
          exact .unreadable read decoded parsed
        | ok value =>
          simp only [parsed] at failed
          cases stored : Program.ofJson value with
          | error rejection =>
            rw [stored] at failed
            cases failed
            exact .rejected read decoded parsed stored
          | ok p =>
            rw [stored] at failed
            cases failed
  · intro unstored
    cases unstored with
    | unopened read => rw [read, storedProgram]
    | @misnamed error read other =>
      rw [read]
      cases error with
      | system cause => exact absurd rfl (other cause)
      | nullByte => rfl
      | unencodable refusal => rfl
    | undecodable read decoded =>
      rw [read, storedProgram, Program.ofJsonBytes, decoded]
      rfl
    | unreadable read decoded parsed =>
      rw [read, storedProgram, Program.ofJsonBytes, decoded]
      simp only [Program.ofJsonText, parsed]
      rfl
    | rejected read decoded parsed stored =>
      rw [read, storedProgram, Program.ofJsonBytes, decoded]
      simp only [Program.ofJsonText, parsed, stored]
      rfl

/-- The command line asks to execute a program with a verbosity, and the program is in the file. -/
inductive LoadsAt (words : List Text) (w : Surroundings) (verbosity : Nat) : Program → Prop
  | source {name : Text} {p : Program} : request words = .executeSource name verbosity →
      Program.ofFile w.files (Path.ofText name).text = .ok p → LoadsAt words w verbosity p
  | stored {name : Text} {p : Program} : request words = .executeStored name verbosity →
      storedProgram (w.files.read (Path.ofText name).text) = .ok p → LoadsAt words w verbosity p

/-- The command line asks to execute a program, and for some reason the file at a path holds none. -/
inductive Unloadable (words : List Text) (w : Surroundings) : Path → Text → Prop
  | source {name : Text} {verbosity : Nat} {error : SystemError} :
      request words = .executeSource name verbosity →
      w.files.read (Path.ofText name).text = .error (.system error) →
      Unloadable words w (.ofText name) error.reason
  | stored {name : Text} {verbosity : Nat} {reason : Text} :
      request words = .executeStored name verbosity →
      Unstored w.files (Path.ofText name).text reason → Unloadable words w (.ofText name) reason

/-- The command line asks to execute a source file, by a name that no file can have. -/
inductive Misnamed (words : List Text) (w : Surroundings) : Failure → Prop
  | source {name : Text} {verbosity : Nat} {error : OpenError} :
      request words = .executeSource name verbosity →
      w.files.read (Path.ofText name).text = .error error → (∀ cause, error ≠ .system cause) →
      Misnamed words w (.ofOpenError error)

variable {words : List Text} {w : Surroundings} {verbosity fuel : Nat} {p : Program}

theorem LoadsAt.executes (loads : LoadsAt words w verbosity p) : Executes words verbosity := by
  cases loads with
  | source asked _ => exact .source asked
  | stored asked _ => exact .stored asked

theorem run_of_loadsAt (loads : LoadsAt words w verbosity p) (fuel : Nat) :
    run words w fuel = w.execute p verbosity fuel := by
  cases loads with
  | source asked loaded => simp only [run, perform, asked, Surroundings.executeSource, loaded]
  | stored asked loaded => simp only [run, perform, asked, Surroundings.executeStored, loaded]

theorem run_of_unloadable {path : Path} {reason : Text} (unloadable : Unloadable words w path reason)
    (fuel : Nat) : run words w fuel = some (w.fail (errorReport reason path.text) 1) := by
  cases unloadable with
  | source asked unopened =>
    simp only [run, perform, asked, Surroundings.executeSource, Program.ofFile, unopened]
    rfl
  | stored asked unstored =>
    simp only [run, perform, asked, Surroundings.executeStored,
      storedProgram_eq_error_iff.mpr unstored]

theorem run_of_misnamed {failure : Failure} (misnamed : Misnamed words w failure) (fuel : Nat) :
    run words w fuel = some (w, .escaped failure) := by
  cases misnamed with
  | @source name verbosity error asked unopened other =>
    simp only [run, perform, asked, Surroundings.executeSource, Program.ofFile, unopened]
    cases error with
    | system cause => exact absurd rfl (other cause)
    | nullByte => rfl
    | unencodable refusal => rfl

/-- An invocation that is to execute a program begins in one of three ways. -/
theorem loading_cases (executes : Executes words verbosity) :
    (∃ p, LoadsAt words w verbosity p) ∨ (∃ path reason, Unloadable words w path reason) ∨
      ∃ failure, Misnamed words w failure := by
  cases executes with
  | @source name asked =>
    cases read : w.files.read (Path.ofText name).text with
    | ok content => exact .inl ⟨_, .source asked (Program.ofFile_eq_ok_iff.mpr ⟨content, read, rfl⟩)⟩
    | error error =>
      cases error with
      | system cause => exact .inr (.inl ⟨_, _, .source asked read⟩)
      | nullByte => exact .inr (.inr ⟨_, .source asked read nofun⟩)
      | unencodable refusal => exact .inr (.inr ⟨_, .source asked read nofun⟩)
  | @stored name asked =>
    cases loaded : storedProgram (w.files.read (Path.ofText name).text) with
    | ok p => exact .inl ⟨p, .stored asked loaded⟩
    | error reason =>
      exact .inr (.inl ⟨_, reason, .stored asked (storedProgram_eq_error_iff.mp loaded)⟩)

theorem not_loadsAt_of_unloadable {path : Path} {reason : Text}
    (unloadable : Unloadable words w path reason) : ¬LoadsAt words w verbosity p := by
  intro loads
  -- Only where both read the same kind of file there is something left to be shown.
  rcases loads with ⟨asked, loaded⟩ | ⟨asked, loaded⟩
  all_goals
    rcases unloadable with ⟨again, failed⟩ | ⟨again, failed⟩
    all_goals
      rw [asked] at again
      cases again
  · rw [Program.ofFile, failed] at loaded
    cases loaded
  · rw [storedProgram_eq_error_iff.mpr failed] at loaded
    cases loaded

theorem not_loadsAt_of_misnamed {failure : Failure} (misnamed : Misnamed words w failure) :
    ¬LoadsAt words w verbosity p := by
  rintro (⟨asked, loaded⟩ | ⟨asked, _⟩)
  all_goals
    obtain ⟨again, unopened, _⟩ := misnamed
    rw [asked] at again
    cases again
  rw [Program.ofFile, unopened] at loaded
  cases loaded

theorem LoadsAt.unique {other : Nat} {q : Program} (first : LoadsAt words w verbosity p)
    (second : LoadsAt words w other q) : verbosity = other ∧ p = q := by
  rcases first with ⟨asked, loaded⟩ | ⟨asked, loaded⟩
  all_goals
    rcases second with ⟨again, loadedAgain⟩ | ⟨again, loadedAgain⟩
    all_goals
      rw [asked] at again
      cases again
  all_goals exact ⟨rfl, Except.ok.inj (loaded.symm.trans loadedAgain)⟩

theorem Unloadable.unique {path other : Path} {reason otherReason : Text}
    (first : Unloadable words w path reason) (second : Unloadable words w other otherReason) :
    path = other ∧ reason = otherReason := by
  rcases first with ⟨asked, failed⟩ | ⟨asked, failed⟩
  all_goals
    rcases second with ⟨again, failedAgain⟩ | ⟨again, failedAgain⟩
    all_goals
      rw [asked] at again
      cases again
  · rw [failed] at failedAgain
    cases failedAgain
    exact ⟨rfl, rfl⟩
  · rw [← storedProgram_eq_error_iff] at failed failedAgain
    exact ⟨rfl, Except.error.inj (failed.symm.trans failedAgain)⟩

/-! ## The file of the log -/

/-- The place of the file that logs are written to. -/
def logPlace : FilePlace :=
  .inside (FileName.ofPath "debug.txt")

theorem bytesOf_logFile : FileTree.bytesOf logFile = .ok (Utf8.encodeString "debug.txt") := rfl

theorem place_of_logFile {t : FileTree} {place : FilePlace}
    (located : t.locateForWriting logFile = .ok place) : place = logPlace := by
  obtain ⟨⟨path, opens⟩, _⟩ := FileTree.opens_of_locateForWriting located
  obtain rfl : path = Utf8.encodeString "debug.txt" :=
    Except.ok.inj (opens.named.symm.trans bytesOf_logFile)
  have single : namesBetween FileName.slash (Utf8.encodeString "debug.txt") =
      [Utf8.encodeString "debug.txt"] := by decide +kernel
  rw [opens.inside single (by decide +kernel) (by decide +kernel) (by decide +kernel)]
  show FilePlace.inside [Utf8.encodeString "debug.txt"] =
    .inside (namesBetween FileName.slash (Utf8.encodeString "debug.txt"))
  rw [single]

/-! ## Executing -/

namespace Surroundings

/-- The session of an invocation, before its run. -/
def session (w : Surroundings) (p : Program) (verbosity : Nat) : Session :=
  .start p w.input w.output verbosity logFile w.files

/-- What a session leaves to the invocation. -/
def afterSession (w : Surroundings) (t : Session) : Surroundings :=
  { w with files := t.files, input := t.machine.input, output := t.machine.output }

theorem execute_eq_some_iff {result : Result} : w.execute p verbosity fuel = some result ↔
    ∃ t answer, (w.session p verbosity).run fuel = some (t, answer) ∧
      result = (w.afterSession t).conclude answer := by
  rw [execute, Option.map_eq_some_iff]
  constructor
  · rintro ⟨⟨t, answer⟩, ran, rfl⟩
    exact ⟨t, answer, ran, rfl⟩
  · rintro ⟨t, answer, ran, rfl⟩
    exact ⟨(t, answer), ran, rfl⟩

/-- How an execution ends is said on the error stream, and nothing else is changed by that. -/
theorem conclude_keeps (w : Surroundings) (answer : Answer) :
    (w.conclude answer).1 = { w with errors := (w.conclude answer).1.errors } := by
  unfold conclude
  split <;> rfl

end Surroundings

end TapeMachine.CommandLine

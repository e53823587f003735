import TapeMachine.Proofs.Machine.Record
import TapeMachine.Proofs.Session.Operations
import TapeMachine.Proofs.Text.Encoding

/-!
# The file of a log

After a run that is logged, the file of the log holds the record of this run at the level of detail,
one entry a line, and nothing else. What is noted can always be written: only the fault that ends a
run can have text that cannot, and such a fault is not noted.

Results:
1. `bytes_of_mem_record`: every entry of the record of a run can be written.
2. `holds_logged`: what the file of a log holds when the log is closed.
3. `run_at_lower`: the same run, logged at a lower level of detail.
4. `logFile_of_run`: what the file holds after a run, at this level and at any lower one.
-/

namespace TapeMachine

open Machine

namespace LogEntry

/-- Some entries as text, one a line. -/
def lines (entries : List LogEntry) : Text :=
  entries.flatMap fun entry => entry.line ++ "\n"

/-- Only a fault can have text that cannot be written. -/
theorem bytes_eq_ok {entry : LogEntry}
    (faults : ∀ fault, entry = .faulted fault → ∃ bytes, entry.bytes = .ok bytes) :
    ∃ bytes, entry.bytes = .ok bytes := by
  cases entry with
  | faulted fault => exact faults fault rfl
  | _ =>
    rw [bytes, line, ← Text.ofString_append]
    exact ⟨_, Utf8.encodeText_ofString _⟩

/-- The file of a log holds its entries line by line. -/
theorem encodeText_lines {entries : List LogEntry}
    (written : ∀ entry ∈ entries, ∃ bytes, entry.bytes = .ok bytes) :
    Utf8.encodeText (lines entries) =
      .ok (entries.flatMap fun entry => entry.bytes.toOption.getD []) := by
  induction entries with
  | nil => rfl
  | cons entry entries ih =>
    obtain ⟨bytes, encoded⟩ := written entry List.mem_cons_self
    have rest := ih fun other member => written other (List.mem_cons_of_mem _ member)
    rw [lines, List.flatMap_cons, List.flatMap_cons, encoded]
    exact Utf8.encodeText_append encoded rest

end LogEntry

/-- A file, opened at a place, was written anew with some entries. A device takes what is written but
need not keep it; anything else then holds these entries and nothing more. -/
def FileTree.Logged (t : FileTree) (place : FilePlace) (file : Text) (entries : List LogEntry)
    (after : FileTree) : Prop :=
  ∃ content, Utf8.encodeText (LogEntry.lines entries) = .ok content ∧
    after = t.put place content ∧ (t.IsOrdinary place → after.read file = .ok content)

namespace Machine

theorem not_fault_of_mem_noted {p : Program} {m : Machine} {fault : Fault} :
    LogEntry.faulted fault ∉ m.noted p := by
  unfold noted
  split
  · exact List.not_mem_nil
  · split <;> simp [attempt]

/-- How a run is closed does not depend on what has been logged of it. -/
theorem close_outcome (o : Outcome) (log other : Log) : (close o log).1 = (close o other).1 := by
  unfold close
  split
  · split <;> rfl
  · rfl

/-- A fault with which a run that was logged ends can be written to the log. -/
theorem bytes_of_close {o : Outcome} {log : Log} {fault : Fault}
    (failed : (close o log).1.failure? = some (.fault fault)) :
    ∃ bytes, (LogEntry.faulted fault).bytes = .ok bytes := by
  unfold close at failed
  split at failed
  · next other ended =>
    split at failed
    · next bytes written =>
      rw [ended] at failed
      cases failed
      exact ⟨bytes, written⟩
    · cases failed
  · next notFault => exact absurd failed (notFault fault)

theorem bytes_of_mem_record {p : Program} {attempts : Nat} {m : Machine} {o : Outcome} {log : Log}
    {entry : LogEntry} (member : entry ∈ m.record p attempts (close o log).1) :
    ∃ bytes, entry.bytes = .ok bytes := by
  refine LogEntry.bytes_eq_ok ?_
  rintro fault rfl
  simp only [record, List.cons_append, List.mem_cons, List.mem_append, List.mem_flatMap,
    reduceCtorEq, false_or, ending, List.not_mem_nil, or_false] at member
  rcases member with ⟨before, _, noted⟩ | ended
  · exact absurd noted not_fault_of_mem_noted
  · unfold Outcome.faults at ended
    split at ended
    · next other failed =>
      obtain rfl : fault = other := by simpa using ended
      exact bytes_of_close failed
    · exact absurd ended List.not_mem_nil

end Machine

namespace Session

variable {s t : Session} {place : FilePlace} {fuel : Nat}

/-- What a log holds when it is closed: the record of the run, as far as its level asks for it. -/
theorem entries_logging {o : Outcome} {log : Log} (steps : s.logging fuel = some (o, log)) :
    ∃ attempts, o.machine.steps = s.machine.steps + attempts ∧
      o = iterate (Machine.step s.program) attempts s.machine ∧
      (close o log).2.entries.toList =
        LogEntry.kept s.logLevel (s.machine.record s.program attempts (close o log).1) := by
  obtain ⟨attempts, counted, called, level, entries⟩ := entries_runOnto steps
  refine ⟨attempts, counted, called, ?_⟩
  rw [Log.level_note] at level entries
  rw [entries_close, entries, level, Log.entries_note, record, List.append_assoc,
    List.append_assoc, List.append_assoc, ← LogEntry.kept_append, ← LogEntry.kept_append]
  rfl

/-- A log that is closed has written its file anew with the record of the run. -/
theorem holds_logged {o : Outcome} {log : Log}
    (located : s.files.locateForWriting s.logFile = .ok place)
    (steps : s.logging fuel = some (o, log)) :
    ∃ attempts, o.machine.steps = s.machine.steps + attempts ∧
      o = iterate (Machine.step s.program) attempts s.machine ∧
      s.files.Logged place s.logFile (LogEntry.kept s.logLevel
        (s.machine.record s.program attempts (close o log).1)) (s.logged place o log).1.files := by
  obtain ⟨attempts, counted, called, entries⟩ := entries_logging steps
  refine ⟨attempts, counted, called, (close o log).2.content, ?_, rfl,
    fun ordinary => FileTree.read_put located ordinary _⟩
  rw [Log.content, entries]
  refine LogEntry.encodeText_lines fun entry member => ?_
  exact bytes_of_mem_record (List.mem_filter.mp member).1

/-- A run whose log can be written is one that is logged. -/
theorem logging_of_writable {answer : Answer} (loud : 0 < s.logLevel)
    (located : s.files.locateForWriting s.logFile = .ok place)
    (writable : s.files.writeError? place = none) (ran : s.run fuel = some (t, answer)) :
    ∃ o log, s.logging fuel = some (o, log) ∧ t = (s.logged place o log).1 ∧
      answer = (close o log).1.answer := by
  generalize result : (t, answer) = r at ran
  cases run_cases ran with
  | stuck quiet => exact absurd loud (Int.not_lt.mpr quiet)
  | unlogged quiet => exact absurd loud (Int.not_lt.mpr quiet)
  | unopened _ refused =>
    rw [located] at refused
    cases refused
  | unwritten _ again refused =>
    rw [located] at again
    cases again
    rw [writable] at refused
    cases refused
  | @logged _ o log _ again _ steps =>
    rw [located] at again
    cases again
    exact ⟨o, log, steps, congrArg Prod.fst result, congrArg Prod.snd result⟩

/-- At a lower level the same steps are logged, with those of the entries that the level asks for. -/
theorem run_at_lower {o : Outcome} {log : Log} {attempts : Nat} {lower : Int}
    (located : s.files.locateForWriting s.logFile = .ok place)
    (writable : s.files.writeError? place = none) (steps : s.logging fuel = some (o, log))
    (counted : o.machine.steps = s.machine.steps + attempts) (positive : 0 < lower)
    (below : lower ≤ s.logLevel) :
    ∃ u, { s with logLevel := lower }.run fuel = some (u, (close o log).1.answer) ∧
      u.machine = o.machine ∧
      s.files.Logged place s.logFile (LogEntry.kept lower (LogEntry.kept s.logLevel
        (s.machine.record s.program attempts (close o log).1))) u.files := by
  let brief := { s with logLevel := lower }
  obtain ⟨short, stepsAgain⟩ := logging_of_run (s := brief) (run_of_logging (s := s) steps)
  obtain ⟨same, countedAgain, _, held⟩ := holds_logged (s := brief) located stepsAgain
  obtain rfl : attempts = same := Nat.add_left_cancel (counted.symm.trans countedAgain)
  have closed := close_outcome o short log
  rw [closed] at held
  refine ⟨(brief.logged place o short).1, ?_, machine_logged brief place o short, ?_⟩
  · rw [run_of_logged (s := brief) positive located writable stepsAgain, ← closed]
    rfl
  · rw [LogEntry.kept_kept below]
    exact held

/-- After a run that is logged, the file of the log holds the record of this run, as far as the level
of detail asks for it, and nothing else. The record is that of all attempts from the start of the run
to its end. At a lower level the run is the same, and of what the file held it now holds what that
level asks for.

A device that cannot be written lets no run start that is to be logged to it. -/
theorem logFile_of_run {answer : Answer} (loud : 0 < s.logLevel)
    (located : s.files.locateForWriting s.logFile = .ok place)
    (ran : s.run fuel = some (t, answer)) :
    (s.files.writeError? place = none →
      ∃ attempts o, o.machine = t.machine ∧ o.answer = answer ∧
        t.machine.steps = s.machine.steps + attempts ∧
        t.machine = (iterate (Machine.step s.program) attempts s.machine).machine ∧
        let entries := LogEntry.kept s.logLevel (s.machine.record s.program attempts o)
        s.files.Logged place s.logFile entries t.files ∧
        ∀ lower, 0 < lower → lower ≤ s.logLevel →
          ∃ u, { s with logLevel := lower }.run fuel = some (u, answer) ∧ u.machine = t.machine ∧
            s.files.Logged place s.logFile (LogEntry.kept lower entries) u.files) ∧
    ∀ error, s.files.writeError? place = some error →
      answer = .failed (.system error) ∧ t.machine = s.machine ∧ t.files = s.files := by
  constructor
  · intro writable
    obtain ⟨o, log, steps, rfl, rfl⟩ := logging_of_writable loud located writable ran
    obtain ⟨attempts, counted, called, held⟩ := holds_logged located steps
    have machine := machine_logged s place o log
    refine ⟨attempts, (close o log).1, rfl, rfl, ?_, ?_, held, fun lower positive below => ?_⟩
    · rw [machine, counted]
    · rw [machine, ← called]
    · rw [machine]
      exact run_at_lower located writable steps counted positive below
  · intro error refused
    rw [run, if_neg (Int.not_le.mpr loud), located] at ran
    simp only [runLogged, refused] at ran
    cases ran
    exact ⟨rfl, rfl, rfl⟩

/-- A run that jumps from the first bracket behind the second one, and there meets a bracket without
a partner. Where an older file stood, the log holds all of this, and nothing else. With its log on a
full device the same program is not run. -/
theorem logFile_of_run_faulty :
    let p : Program := .ofList [.jumpForward, .jumpBackward, .jumpForward]
    let s := start p (.ofBytes []) (.empty none) 3 "debug.txt"
      (.put .empty (.inside (FileName.ofPath "debug.txt")) [7, 10])
    let fault := Fault.unmatchedBracket .jumpForward 2
    let full := { s with logFile := "/dev/full" }
    (∃ t content, s.run 3 = some (t, .failed (.fault fault)) ∧
      Utf8.encodeText (LogEntry.lines [.started 3, .attempted 1 .jumpForward 0 0 0,
        .jumped .jumpForward 0 2, .attempted 2 .jumpForward 2 0 0, .faulted fault, .ended 2 2 0]) =
          .ok content ∧
      t.files.read "debug.txt" = .ok content) ∧
    ∃ t answer, full.run 3 = some (t, answer) ∧ answer = .failed (.system .noSpace) ∧
      t.machine = full.machine := by
  intro p s fault full
  constructor
  · have ended : (s.run 3).map (fun result => (result.1.machine.ending, result.2)) =
        some (.ended 2 2 0, .failed (.fault fault)) := by
      decide +kernel
    obtain ⟨⟨t, answer⟩, ran, same⟩ := Option.map_eq_some_iff.mp ended
    obtain ⟨ending, rfl⟩ := Prod.mk.inj same
    have located : s.files.locateForWriting s.logFile =
        .ok (.inside (FileName.ofPath "debug.txt")) := rfl
    have ordinary : s.files.IsOrdinary (.inside (FileName.ofPath "debug.txt")) := by
      intro _ _ found
      cases found
    obtain ⟨attempts, o, machine, answered, counted, _, ⟨content, written, _, read⟩, _⟩ :=
      (logFile_of_run (by decide) located ran).1 (FileTree.writeError?_of_isOrdinary ordinary)
    have steps : t.machine.steps = 2 := by
      injection ending
    obtain rfl : attempts = 2 := by
      rw [← steps, counted]
      exact (Nat.zero_add attempts).symm
    have attempted : (course s.program 2 s.machine).flatMap (noted s.program) =
        [.attempted 1 .jumpForward 0 0 0, .jumped .jumpForward 0 2,
          .attempted 2 .jumpForward 2 0 0] := by
      decide +kernel
    have entries : s.machine.record s.program 2 o = [.started 3, .attempted 1 .jumpForward 0 0 0,
        .jumped .jumpForward 0 2, .attempted 2 .jumpForward 2 0 0, .faulted fault,
        .ended 2 2 0] := by
      rw [record, attempted, Outcome.faults, answer_eq_failed_iff.mp answered, machine, ending]
      rfl
    rw [entries] at written
    exact ⟨t, content, ran, written, read ordinary⟩
  · have refused : full.files.writeError? (.fromRoot (FileName.ofPath "dev/full")) =
        some .noSpace := by decide +kernel
    have ran : full.run 3 = some ({ full with stuck? := some .noSpace }, .failed (.system .noSpace)) :=
      rfl
    obtain ⟨answered, machine, _⟩ := (logFile_of_run (by decide) rfl ran).2 .noSpace refused
    exact ⟨_, _, ran, answered, machine⟩

end Session

end TapeMachine

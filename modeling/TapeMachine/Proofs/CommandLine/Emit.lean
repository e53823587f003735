import TapeMachine.CommandLine
import TapeMachine.Proofs.CommandLine.Words
import TapeMachine.Proofs.Files.Beside
import TapeMachine.Proofs.Program.Stored

/-!
# Storing a program and executing it

A program that was stored is executed like its source. The file in which it is stored is found under
the path that was printed, it holds the program of the source, and the source is still there. From
then on both invocations do the same.

Results:
1. `names_ne_nil_of_read`: a file that can be read has a name.
2. `emit_eq_exit_zero`: what an invocation has done that stored a program.
3. `run_emitted`: executing what it stored is executing its source.
-/

namespace TapeMachine

/-! ## Paths of files -/

theorem FileTree.names_ne_nil_of_read {t : FileTree} {source : Text} {content : List UInt8}
    (read : t.read (Path.ofText source).text = .ok content) : (Path.ofText source).names ≠ [] := by
  have rooted := Path.root_ofText source
  obtain ⟨path, place, opens, kept⟩ := read_eq_ok_iff.mp read
  generalize Path.ofText source = p at *
  obtain ⟨root, names⟩ := p
  rintro rfl
  -- Without names there are only a dot, which is a directory, and slashes, which ask for one.
  have asks : ∀ {text : Text} (bytes : List UInt8), bytesOf text = .ok bytes →
      asksForDirectory bytes = true → ¬t.Opens text path place := by
    intro text bytes named asks opens
    obtain rfl : bytes = path := Except.ok.inj (named.symm.trans opens.named)
    rw [opens.proper] at asks
    cases asks
  rcases rooted with rfl | rfl | rfl
  · have named : bytesOf (Path.text ⟨[], []⟩) = .ok FileName.self := rfl
    obtain rfl : FileName.self = path := Except.ok.inj (named.symm.trans opens.named)
    have single : namesBetween FileName.slash FileName.self = [FileName.self] := by decide +kernel
    have leads := opens.leads
    rw [single] at leads
    exact not_directory_of_contentAt kept leads.directory_of_self
  · exact asks [FileName.slash] rfl (by decide) opens
  · exact asks [FileName.slash, FileName.slash] rfl (by decide) opens

namespace CommandLine

/-! ## What storing a program leaves -/

theorem Surroundings.printLine_eq_exit_zero {w after : Surroundings} {line : Text}
    (printed : w.printLine line = (after, .exit 0)) :
    ∃ t : String, line = .ofString t ∧ after.files = w.files ∧
      after.output.written.toList = w.output.written.toList ++ Utf8.encodeString (t ++ "\n") := by
  unfold printLine at printed
  split at printed
  · cases printed
  · next bytes encoded =>
    obtain ⟨t, rfl, rfl⟩ := Utf8.encodeText_eq_ok_iff.mp encoded
    split at printed
    · cases printed
    · next output first =>
      split at printed
      · cases printed
      · next last second =>
        cases printed
        obtain ⟨_, rfl⟩ := Output.write_eq_ok_iff.mp first
        obtain ⟨_, rfl⟩ := Output.write_eq_ok_iff.mp second
        refine ⟨String.ofList t, (Text.ofString_ofList t).symm, rfl, ?_⟩
        rw [Output.written_append, Output.written_append, List.append_assoc]
        congr 1
        simp [Utf8.encodeString, Utf8.encode]

theorem Surroundings.emit_eq_exit_zero {w after : Surroundings} {path : Path}
    (emitted : w.emit path = (after, .exit 0)) :
    ∃ (p : Program) (place : FilePlace) (printed : String),
      Program.ofFile w.files path.text = .ok p ∧
      w.files.locateForWriting (path.extend storedSuffix).text = .ok place ∧
      (path.extend storedSuffix).text = .ofString printed ∧
      after.files = w.files.put place p.toJsonBytes ∧
      after.output.written.toList =
        w.output.written.toList ++ Utf8.encodeString (printed ++ "\n") := by
  unfold emit at emitted
  split at emitted
  · next error _ => 
    cases error <;> cases emitted
  · next p compiled =>
    simp only at emitted
    split at emitted
    · cases emitted
    · next place located =>
      obtain ⟨printed, named, files, written⟩ := printLine_eq_exit_zero emitted
      exact ⟨p, place, printed, compiled, located, named, files, written⟩

/-! ## Executing what was stored -/

theorem nameable_printed {printed : String} {path : Path}
    (named : (path.extend storedSuffix).text = .ofString printed)
    (beside : (path.extend storedSuffix).text = path.text ++ storedSuffix) :
    Nameable (.ofString printed) := by
  have longer : (Text.ofString printed).length = path.text.length + 13 := by
    rw [← named, beside, List.length_append]
    rfl
  constructor
  · intro none
    rw [none] at longer
    cases longer
  · intro dashes
    have two : (Text.ofString "--").length = 2 := by decide
    rw [dashes, two] at longer
    omega

/-- An invocation that stored a program has printed the path of a file. The bytes of this file, which
are well formed and are JSON, hold exactly the program of the source. Whatever input, output and
verbosity they are given, executing the file and executing the source end in the same way and leave
the same files, the same output and the same reports, or both go on without an end: both execute
that program. -/
theorem run_emitted {source : Text} {w after : Surroundings} {fuel : Nat}
    (emitted : run [Text.ofString "--emit-program=" ++ source] w fuel = some (after, .exit 0)) :
    ∃ (printed : String) (content : List UInt8) (p : Program),
      after.output.written.toList =
        w.output.written.toList ++ Utf8.encodeString (printed ++ "\n") ∧
      after.files.read (.ofString printed) = .ok content ∧
      Program.ofFile w.files (Path.ofText source).text = .ok p ∧
      (∃ text value, Utf8.decode content = .ok text ∧ Json.read (.ofChars text) = .ok value ∧
        Program.ofJson value = .ok p) ∧
      ∀ (count : Nat) (input : Input) (output : Output) (errors : String) (fuel : Nat),
        run (verboseWords count ++ [Text.ofString "--program=" ++ Text.ofString printed])
            ⟨after.files, input, output, errors⟩ fuel =
          run (verboseWords count ++ [Text.ofString "--", source])
            ⟨after.files, input, output, errors⟩ fuel ∧
        run (verboseWords count ++ [Text.ofString "--", source])
            ⟨after.files, input, output, errors⟩ fuel =
          Surroundings.execute ⟨after.files, input, output, errors⟩ p count fuel := by
  rw [run, request_emit] at emitted
  have nameable : Nameable source := by
    apply Decidable.byContradiction
    intro unnameable
    rw [if_neg unnameable] at emitted
    cases emitted
  rw [if_pos nameable] at emitted
  obtain ⟨p, place, printed, compiled, located, named, files, written⟩ :=
    Surroundings.emit_eq_exit_zero (Option.some.inj emitted)
  obtain ⟨content, read, rfl⟩ := Program.ofFile_eq_ok_iff.mp compiled
  have some := FileTree.names_ne_nil_of_read read
  have beside := Path.text_extend some storedSuffix
  -- The stored file can be read under the name that was printed, and the source as before.
  obtain ⟨stored, kept⟩ := FileTree.read_put_beside beside read located
  rw [← files] at stored kept
  -- The printed text is cut into names again, and they are those under which the file was stored.
  have found : Path.ofText (.ofString printed) = (Path.ofText source).extend storedSuffix := by
    rw [← named]
    exact Path.ofText_text
      ((Path.canonical_ofText some).extend (by decide +kernel) (by decide +kernel))
  refine ⟨printed, _, _, written, by rw [← named]; exact stored, compiled,
    ⟨_, _, Program.decode_toJsonBytes _, Program.read_pretty _, Program.ofJson_toJson _⟩, ?_⟩
  intro count input output errors fuel
  rw [run, run, request_stored count (nameable_printed named beside),
    request_source count nameable.1]
  show Surroundings.executeStored _ (.ofText (.ofString printed)) count fuel =
    Surroundings.executeSource _ (.ofText source) count fuel ∧
      Surroundings.executeSource _ (.ofText source) count fuel = _
  rw [found, Surroundings.executeStored, Surroundings.executeSource, Program.ofFile, stored, kept,
    storedProgram, Program.ofJsonBytes_toJsonBytes]
  exact ⟨rfl, rfl⟩

/-- Under the name `p` stands the program that hands on one byte, with a byte in it that is no
text. -/
theorem run_emitted_echo :
    let w : Surroundings :=
      ⟨⟨[([[0x70]], .file [0x2C, 0xFF, 0x2E])], []⟩, .ofEvents [], .empty none, ""⟩
    ∃ (after : Surroundings) (printed : String),
      run [Text.ofString "--emit-program=" ++ Text.ofString "p"] w 0 = some (after, .exit 0) ∧
      ∀ (count : Nat) (input : Input) (output : Output) (errors : String) (fuel : Nat),
        run (verboseWords count ++ [Text.ofString "--program=" ++ Text.ofString printed])
            ⟨after.files, input, output, errors⟩ fuel =
          Surroundings.execute ⟨after.files, input, output, errors⟩ (.ofList [.input, .output])
            count fuel := by
  intro w
  have ended : (run [Text.ofString "--emit-program=" ++ Text.ofString "p"] w 0).map Prod.snd =
      some (.exit 0) := by decide +kernel
  obtain ⟨⟨after, _⟩, emitted, rfl⟩ := Option.map_eq_some_iff.mp ended
  obtain ⟨printed, content, p, _, _, compiled, _, same⟩ := run_emitted emitted
  have spelled : (Program.ofFile w.files (Path.ofText (.ofString "p")).text).toOption =
      some (.ofList [.input, .output]) := by decide +kernel
  rw [compiled] at spelled
  obtain rfl := Option.some.inj spelled
  refine ⟨after, printed, emitted, fun count input output errors fuel => ?_⟩
  obtain ⟨stored, source⟩ := same count input output errors fuel
  rw [stored, source]

end CommandLine

end TapeMachine

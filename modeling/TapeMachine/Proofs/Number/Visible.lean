import TapeMachine.Number.Shortest
import TapeMachine.Proofs.Text.Characters

/-!
# Characters of numbers

A number is written in digits, and with a sign, a point or an exponent where it has one. All of
these are visible characters of ASCII, and so are the names of the doubles that are no numbers.

Results:
1. `visible_integer`: the text of a whole number.
2. `visible_text`: the text of a double.
-/

namespace TapeMachine

theorem visible_of_mem_toDigits {n : Nat} {c : Char} (member : c ∈ Nat.toDigits 10 n) :
    isVisible c = true := by
  have digit := Nat.isDigit_of_mem_toDigits (by decide) (by decide) member
  obtain ⟨low, high⟩ := Char.isDigit_iff_toNat.mp digit
  have least : '0'.toNat = 0x30 := rfl
  have greatest : '9'.toNat = 0x39 := rfl
  simp only [isVisible, Bool.and_eq_true, decide_eq_true_eq]
  omega

theorem visible_natural (n : Nat) : Consists isVisible n.repr := by
  rw [Nat.repr_eq_ofList_toDigits]
  exact .ofList fun _ => visible_of_mem_toDigits

theorem visible_integer (n : Int) : Consists isVisible (toString n) := by
  rw [Int.toString_eq_repr, Int.repr_eq_if]
  split
  · exact visible_natural _
  · exact .append (by decide) (visible_natural _)

namespace Binary64

theorem visible_significantDigits {d : Decimal} {c : Char} (member : c ∈ (significantDigits d).1) :
    isVisible c = true := by
  simp only [significantDigits] at member
  split at member
  · rw [List.mem_singleton.mp member]
    decide
  · have kept := (List.dropWhile_sublist _).subset (List.mem_reverse.mp member)
    exact visible_of_mem_toDigits (List.mem_reverse.mp kept)

theorem visible_layOut {digits : List Char} (visible : ∀ c ∈ digits, isVisible c = true)
    (point : Int) : ∀ c ∈ layOut digits point, isVisible c = true := by
  have zeros : ∀ count, ∀ c ∈ List.replicate count '0', isVisible c = true := by
    intro count c member
    rw [(List.mem_replicate.mp member).2]
    decide
  have front : ∀ count, ∀ c ∈ digits.take count, isVisible c = true :=
    fun count c member => visible c (List.mem_of_mem_take member)
  have back : ∀ count, ∀ c ∈ digits.drop count, isVisible c = true :=
    fun count c member => visible c (List.mem_of_mem_drop member)
  unfold layOut
  split
  · split
    · simp only [List.forall_mem_cons, List.forall_mem_append]
      exact ⟨by decide, by decide, zeros _, visible⟩
    · have fraction : ∀ c ∈ (if (digits.drop point.toNat).isEmpty then ['0']
          else digits.drop point.toNat), isVisible c = true := by
        split
        · exact List.forall_mem_singleton.mpr (by decide)
        · exact back _
      simp only [List.forall_mem_cons, List.forall_mem_append]
      exact ⟨⟨front _, zeros _⟩, by decide, fraction⟩
  · have fraction : ∀ c ∈ (if digits.length ≤ 1 then [] else '.' :: digits.drop 1),
        isVisible c = true := by
      split
      · exact nofun
      · exact List.forall_mem_cons.mpr ⟨by decide, back 1⟩
    have sign : isVisible (if point - 1 < 0 then '-' else '+') = true := by
      split <;> decide
    simp only [List.forall_mem_cons, List.forall_mem_append]
    exact ⟨⟨front 1, fraction⟩, by decide, sign, zeros _, fun _ => visible_of_mem_toDigits⟩

/-- The text of a double has visible characters only. -/
theorem visible_text (value : Binary64) : Consists isVisible value.text := by
  have sign : ∀ negative : Bool, Consists isVisible (if negative then "-" else "") := by decide
  cases value with
  | nan =>
    show Consists isVisible "nan"
    decide
  | infinite negative => exact (sign negative).append (by decide)
  | finite negative significand exponent =>
    by_cases zero : significand = 0
    · simp only [text, if_pos zero]
      have digit : ∀ c ∈ ['0'], isVisible c = true := List.forall_mem_singleton.mpr (by decide)
      exact (sign negative).append (.ofList (visible_layOut digit 1))
    · simp only [text, if_neg zero]
      exact (sign negative).append (.ofList (visible_layOut (fun _ => visible_significantDigits) _))

end Binary64

end TapeMachine

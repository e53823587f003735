import TapeMachine.Text.Quoted

/-!
# Quoted text is read back

Between its quotes a text consists of what is written for its code points, one after the other. What
is written for a code point tells where it ends: a character that is not escaped stands alone, a
backslash is followed by one character or by a letter that announces a number of digits. So the code
points can be read back one by one, whatever follows, and texts that differ are quoted differently.

Results:
1. `unescape_escape`: the code point at the front is read back.
2. `quote_injective`: a text can be told from what stands between its quotes.
-/

namespace TapeMachine

namespace CodePoint

theorem ofNat_val (p : CodePoint) : ofNat p.val = p := by
  cases p with
  | char c =>
    have outside : ¬(0xD800 ≤ c.toNat ∧ c.toNat < 0xE000) := by
      have valid : c.toNat < 0xD800 ∨ 0xDFFF < c.toNat ∧ c.toNat < 0x110000 := c.valid
      omega
    rw [val, ofNat, dif_neg outside, Char.ofNat_toNat]
  | surrogate index =>
    have inside : 0xD800 ≤ 0xD800 + index.val ∧ 0xD800 + index.val < 0xE000 := by omega
    simp [val, ofNat, inside]

theorem val_lt (p : CodePoint) : p.val < 0x110000 := by
  cases p with
  | char c =>
    have valid : c.toNat < 0xD800 ∨ 0xDFFF < c.toNat ∧ c.toNat < 0x110000 := c.valid
    simp only [val]
    omega
  | surrogate index =>
    simp only [val]
    omega

theorem eq_char_of_val {p : CodePoint} {c : Char} (same : p.val = c.toNat) : p = .char c := by
  rw [← ofNat_val p, same]
  exact ofNat_val (.char c)

end CodePoint

namespace Quoted

/-- The code point whose number is spelled by so many digits, and what follows them. -/
def coded (width : Nat) (s : List Char) : Option (CodePoint × List Char) :=
  (Hex.ofDigits? (s.take width)).map fun n => (.ofNat n, s.drop width)

/-- The code point that stands at the front between two quotes, and what follows it. -/
def unescape : List Char → Option (CodePoint × List Char)
  | [] => none
  | '\\' :: 'n' :: rest => some (.char '\n', rest)
  | '\\' :: 'r' :: rest => some (.char '\r', rest)
  | '\\' :: 't' :: rest => some (.char '\t', rest)
  | '\\' :: 'x' :: rest => coded 2 rest
  | '\\' :: 'u' :: rest => coded 4 rest
  | '\\' :: 'U' :: rest => coded 8 rest
  | '\\' :: c :: rest => some (.char c, rest)
  | c :: rest => some (.char c, rest)

theorem coded_fixed {width : Nat} {p : CodePoint} (fits : p.val < Nat.pow 16 width)
    (rest : List Char) : coded width (Hex.fixed width p.val ++ rest) = some (p, rest) := by
  have digits : (Hex.fixed width p.val ++ rest).take width = Hex.fixed width p.val :=
    List.take_left' (Hex.length_fixed width p.val)
  have behind : (Hex.fixed width p.val ++ rest).drop width = rest :=
    List.drop_left' (Hex.length_fixed width p.val)
  rw [coded, digits, behind, Hex.ofDigits?_fixed fits, Option.map_some, CodePoint.ofNat_val]

theorem unescape_plain {c : Char} (plain : c ≠ '\\') (rest : List Char) :
    unescape (c :: rest) = some (.char c, rest) := by
  unfold unescape
  split <;> simp_all

/-- What is written for a code point is read back, whatever follows it. -/
theorem unescape_escape {mark : Char} (quotes : mark = '"' ∨ mark = '\'') (p : CodePoint)
    (rest : List Char) : unescape (escape mark p ++ rest) = some (p, rest) := by
  unfold escape
  split
  · next special =>
    simp only [Bool.or_eq_true, decide_eq_true_eq] at special
    rcases special with same | same
    · rw [CodePoint.eq_char_of_val same]
      rfl
    · rw [CodePoint.eq_char_of_val same]
      rcases quotes with rfl | rfl <;> rfl
  next ordinary =>
  split
  · next same => rw [CodePoint.eq_char_of_val same]; rfl
  split
  · next same => rw [CodePoint.eq_char_of_val same]; rfl
  split
  · next same => rw [CodePoint.eq_char_of_val same]; rfl
  split
  · next printable =>
    cases p with
    | char c =>
      have plain : c ≠ '\\' := by
        rintro rfl
        simp [CodePoint.val] at ordinary
      rw [CodePoint.val, Char.ofNat_toNat]
      exact unescape_plain plain rest
    | surrogate index =>
      have valid := Printable.isValidChar_of_isPrintable printable
      simp only [CodePoint.val, Nat.isValidChar] at valid
      omega
  split
  · next small => exact coded_fixed small rest
  split
  · next medium => exact coded_fixed medium rest
  · exact coded_fixed (Nat.lt_of_lt_of_le p.val_lt (by decide)) rest

theorem flatMap_escape_injective {mark : Char} (quotes : mark = '"' ∨ mark = '\'') {s t : Text}
    (same : s.flatMap (escape mark) = t.flatMap (escape mark)) : s = t := by
  induction s generalizing t with
  | nil =>
    cases t with
    | nil => rfl
    | cons q t => exact absurd (List.append_eq_nil_iff.mp same.symm).1 (escape_ne_nil mark q)
  | cons p s ih =>
    cases t with
    | nil => exact absurd (List.append_eq_nil_iff.mp same).1 (escape_ne_nil mark p)
    | cons q t =>
      rw [List.flatMap_cons, List.flatMap_cons] at same
      have read := unescape_escape quotes p (s.flatMap (escape mark))
      rw [same, unescape_escape quotes q] at read
      rw [Option.some.injEq, Prod.mk.injEq] at read
      rw [read.1, ih read.2.symm]

/-- The quotes are seen first, so they are the same for texts that are quoted in the same way. -/
theorem chars_injective {s t : Text} (same : chars s = chars t) : s = t := by
  obtain ⟨quotes, rest⟩ := List.cons.inj same
  rw [quotes] at rest
  exact flatMap_escape_injective (mark_eq_or t) (List.append_cancel_right rest)

theorem quote_injective {s t : Text} (same : quote s = quote t) : s = t :=
  chars_injective (String.ofList_injective same)

end Quoted

end TapeMachine

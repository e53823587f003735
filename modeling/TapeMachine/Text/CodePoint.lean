/-!
# Text as code points

Text that comes from outside can hold surrogates that are not part of a pair: a JSON string names
them by escapes such as `\ud800`, and a system message can pass them on. A `Char` cannot be a
surrogate, so such text is a list of code points, each of which is a character or a lone
surrogate. Ordinary text embeds into it (`ofString`), and what has no surrogate comes back
(`toString?`).

Results:
1. `toString?_ofString`: ordinary text comes back unchanged.
2. `toString?_eq_some_iff`: nothing else is read as that text.
3. `val_ofNat`: a code point is found by its number.
-/

namespace TapeMachine

/-- A character or a lone surrogate. Surrogates are counted from the first one. -/
inductive CodePoint
  | char (c : Char)
  | surrogate (index : Fin 0x800)
deriving DecidableEq, Repr

namespace CodePoint

/-- The number of a code point. -/
def val : CodePoint → Nat
  | .char c => c.toNat
  | .surrogate index => 0xD800 + index

instance : Hashable CodePoint := ⟨fun p => hash p.val⟩

/-- The code point with a number in the code space. -/
def ofNat (n : Nat) : CodePoint :=
  if inside : 0xD800 ≤ n ∧ n < 0xE000 then .surrogate ⟨n - 0xD800, by omega⟩
  else .char (Char.ofNat n)

/-- The character, if the code point is one. -/
def toChar? : CodePoint → Option Char
  | .char c => some c
  | .surrogate _ => none

theorem toNat_ofNat {n : Nat} (valid : n.isValidChar) : (Char.ofNat n).toNat = n := by
  rw [Char.ofNat, dif_pos valid]
  rfl

theorem val_ofNat {n : Nat} (bound : n < 0x110000) : (ofNat n).val = n := by
  unfold ofNat
  split
  · next inside => simp only [val]; omega
  · next outside =>
    have valid : n.isValidChar := by
      simp only [Nat.isValidChar]
      omega
    exact toNat_ofNat valid

theorem toChar?_eq_some_iff {p : CodePoint} {c : Char} : p.toChar? = some c ↔ p = .char c := by
  cases p <;> simp [toChar?]

end CodePoint

/-- Text whose characters may be lone surrogates. -/
abbrev Text := List CodePoint

namespace Text

/-- Ordinary characters as text. -/
def ofChars (s : List Char) : Text :=
  s.map .char

/-- An ordinary string as text. -/
def ofString (s : String) : Text :=
  ofChars s.toList

instance : Coe String Text := ⟨ofString⟩

/-- The characters of a text without surrogates. -/
def toChars? (s : Text) : Option (List Char) :=
  s.mapM CodePoint.toChar?

/-- The ordinary string that a text without surrogates is. -/
def toString? (s : Text) : Option String :=
  (toChars? s).map String.ofList

@[simp] theorem toChars?_ofChars (s : List Char) : toChars? (ofChars s) = some s := by
  induction s with
  | nil => rfl
  | cons c s ih =>
    simp only [ofChars, toChars?, List.map_cons, List.mapM_cons, CodePoint.toChar?] at *
    simp [ih]

theorem toChars?_eq_some_iff {s : Text} {t : List Char} :
    toChars? s = some t ↔ s = ofChars t := by
  constructor
  · induction s generalizing t with
    | nil => intro found; cases found; rfl
    | cons p s ih =>
      intro found
      simp only [toChars?, List.mapM_cons, Option.bind_eq_bind, Option.bind_eq_some_iff,
        Option.pure_def, Option.some.injEq] at found
      obtain ⟨c, hc, u, hu, rfl⟩ := found
      rw [CodePoint.toChar?_eq_some_iff] at hc
      simp [ofChars, hc, ih hu]
  · rintro rfl
    exact toChars?_ofChars t

@[simp] theorem toString?_ofString (s : String) : toString? (ofString s) = some s := by
  simp [toString?, ofString]

theorem toString?_eq_some_iff {s : Text} {t : String} :
    toString? s = some t ↔ s = ofString t := by
  constructor
  · intro found
    obtain ⟨u, hu, rfl⟩ := Option.map_eq_some_iff.mp found
    simpa [ofString] using toChars?_eq_some_iff.mp hu
  · rintro rfl
    exact toString?_ofString t

theorem ofString_injective {s t : String} (same : ofString s = ofString t) : s = t := by
  have := toString?_ofString s
  rw [same, toString?_ofString] at this
  exact (Option.some.inj this).symm

theorem ofString_append (s t : String) : ofString (s ++ t) = ofString s ++ ofString t := by
  simp [ofString, ofChars]

theorem ofString_ofList (s : List Char) : ofString (String.ofList s) = ofChars s := by
  simp [ofString]

end Text

end TapeMachine

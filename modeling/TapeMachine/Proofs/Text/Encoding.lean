import TapeMachine.Text.Utf8

/-!
# Encoded text

Text is encoded one code point after another, so what is put behind a text is put behind its bytes.
Without surrogates that stand for bytes, only characters can be encoded. Those of ASCII are single
bytes, and they are decoded as they were encoded.

Results:
1. `encodeOnto_append`, `encodeText_append`: the bytes of a longer text.
2. `encodeText_eq_ok_iff`: which text can be encoded, and to what.
3. `decode_encode_of_ascii`: characters of ASCII are decoded as they were encoded.
-/

namespace TapeMachine.Utf8

theorem encodeOnto_append {standsFor : Fin 0x800 → Option UInt8} {position : Nat}
    {written bytes : List UInt8} {s : Text}
    (encoded : encodeOnto standsFor position written s = .ok bytes) (t : List Char) :
    encodeOnto standsFor position written (s ++ Text.ofChars t) = .ok (bytes ++ encode t) := by
  induction s generalizing position written with
  | nil =>
    cases encoded
    exact encodeOnto_ofChars standsFor position written t
  | cons p s ih =>
    cases p with
    | char c => exact ih encoded
    | surrogate index =>
      unfold encodeOnto at encoded
      rw [List.cons_append, encodeOnto]
      cases stands : standsFor index with
      | none =>
        rw [stands] at encoded
        cases encoded
      | some b =>
        rw [stands] at encoded
        exact ih encoded

theorem chars_of_encodeOnto {position : Nat} {written bytes : List UInt8} {s : Text}
    (encoded : encodeOnto (fun _ => none) position written s = .ok bytes) :
    ∃ t : List Char, s = .ofChars t := by
  induction s generalizing position written with
  | nil => exact ⟨[], rfl⟩
  | cons p s ih =>
    cases p with
    | char c =>
      obtain ⟨t, rfl⟩ := ih encoded
      exact ⟨c :: t, rfl⟩
    | surrogate index => cases encoded

theorem encodeText_eq_ok_iff {s : Text} {bytes : List UInt8} :
    encodeText s = .ok bytes ↔ ∃ t : List Char, s = .ofChars t ∧ bytes = encode t := by
  constructor
  · intro encoded
    obtain ⟨t, rfl⟩ := chars_of_encodeOnto encoded
    rw [encodeText, encodeOnto_ofChars] at encoded
    exact ⟨t, rfl, (Except.ok.inj encoded).symm⟩
  · rintro ⟨t, rfl, rfl⟩
    exact encodeOnto_ofChars _ 0 [] t

theorem encodeText_append {s t : Text} {bytes more : List UInt8} (first : encodeText s = .ok bytes)
    (second : encodeText t = .ok more) : encodeText (s ++ t) = .ok (bytes ++ more) := by
  obtain ⟨u, rfl, rfl⟩ := encodeText_eq_ok_iff.mp second
  exact encodeOnto_append first u

/-! ## Characters of ASCII -/

theorem encode_of_ascii {s : List Char} (ascii : ∀ c ∈ s, c.toNat < 0x80) :
    encode s = s.map fun c => UInt8.ofNat c.toNat := by
  induction s with
  | nil => rfl
  | cons c s ih =>
    have first : c.val.toNat ≤ 0x7F := Nat.le_of_lt_succ (ascii c List.mem_cons_self)
    have single : String.utf8EncodeChar c = [UInt8.ofNat c.toNat] := if_pos first
    have rest := ih fun d member => ascii d (List.mem_cons_of_mem c member)
    rw [encode, List.flatMap_cons, single, ← encode, rest]
    rfl

theorem accept_chars (s read : List Char) (position : Nat) :
    accept position read (s.map Piece.char) = .ok (read.reverse ++ s) := by
  induction s generalizing read position with
  | nil => rw [List.map_nil, accept, List.append_nil]
  | cons c s ih =>
    rw [List.map_cons, accept, ih, List.reverse_cons, List.append_assoc]
    rfl

theorem decode_encode_of_ascii {s : List Char} (ascii : ∀ c ∈ s, c.toNat < 0x80) :
    decode (encode s) = .ok s := by
  have code : ∀ {c : Char}, c.toNat < 0x80 → (UInt8.ofNat c.toNat).toNat = c.toNat := by
    intro c low
    rw [UInt8.toNat_ofNat']
    omega
  have low : ∀ b ∈ encode s, b < 0x80 := by
    intro b member
    rw [encode_of_ascii ascii] at member
    obtain ⟨c, among, rfl⟩ := List.mem_map.mp member
    rw [UInt8.lt_iff_toNat_lt, code (ascii c among)]
    exact ascii c among
  have pieces : pieces (encode s) = s.map Piece.char := by
    rw [pieces_ascii low, encode_of_ascii ascii, List.map_map]
    apply List.map_congr_left
    intro c member
    show Piece.char (Char.ofNat (UInt8.ofNat c.toNat).toNat) = .char c
    rw [code (ascii c member), Char.ofNat_toNat]
  rw [decode, pieces]
  exact accept_chars s [] 0

end TapeMachine.Utf8

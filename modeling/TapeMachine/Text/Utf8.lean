import TapeMachine.Text.CodePoint
import TapeMachine.Text.Hex

/-!
# UTF-8

Bytes are decoded one at a time by a machine that is either between characters or inside one.
An ill-formed sequence ends where no continuation of it could be well formed, and the byte that
ended it is looked at again, so no byte after a broken sequence is lost. Program text is decoded
by replacing each ill-formed sequence; stored programs are refused at the first one.

Results:
1. `feed_append`: decoding is done in one pass, so it can be cut anywhere.
2. `pieces_ascii`: bytes below 128 stand for themselves.
3. `encodeText_ofString`: ordinary text can always be encoded.
-/

namespace TapeMachine.Utf8

/-- Why a sequence of bytes is ill formed. -/
inductive Defect
  /-- The byte cannot start a character. -/
  | startByte
  /-- The next byte does not continue the sequence. -/
  | continuation
  /-- The data ends inside the sequence. -/
  | endOfData
deriving DecidableEq, Repr

/-- A stretch of the input: one character, or one ill-formed sequence of bytes. -/
inductive Piece
  | char (c : Char)
  | illFormed (bytes : List UInt8) (defect : Defect)
deriving DecidableEq, Repr

/-- Where the decoder stands. -/
inductive State
  /-- Between two characters. -/
  | ready
  /-- Inside a character: its bits so far, how many bytes follow the next one, the bounds of the
  next byte, and the bytes seen, latest first. -/
  | within (value : Nat) (more : Nat) (low high : UInt8) (seen : List UInt8)
deriving DecidableEq, Repr

/-! ## Decoding -/

/-- The first byte of a character. The bounds of the second byte rule out overlong forms,
surrogates and numbers beyond the code space. -/
def lead (b : UInt8) : State × List Piece :=
  if b < 0x80 then (.ready, [.char (Char.ofNat b.toNat)])
  else if b < 0xC2 then (.ready, [.illFormed [b] .startByte])
  else if b < 0xE0 then (.within (b.toNat % 32) 0 0x80 0xBF [b], [])
  else if b < 0xF0 then
    (.within (b.toNat % 16) 1 (if b = 0xE0 then 0xA0 else 0x80) (if b = 0xED then 0x9F else 0xBF)
      [b], [])
  else if b < 0xF5 then
    (.within (b.toNat % 8) 2 (if b = 0xF0 then 0x90 else 0x80) (if b = 0xF4 then 0x8F else 0xBF)
      [b], [])
  else (.ready, [.illFormed [b] .startByte])

/-- One byte more. -/
def next : State → UInt8 → State × List Piece
  | .ready, b => lead b
  | .within value more low high seen, b =>
    if low ≤ b ∧ b ≤ high then
      match more with
      | 0 => (.ready, [.char (Char.ofNat (value * 64 + b.toNat % 64))])
      | more + 1 => (.within (value * 64 + b.toNat % 64) more 0x80 0xBF (b :: seen), [])
    else
      let (state, found) := lead b
      (state, .illFormed seen.reverse .continuation :: found)

/-- A decoder under way: its state and the pieces found, latest first. -/
structure Decoder where
  state : State
  found : List Piece
deriving DecidableEq, Repr

namespace Decoder

/-- The decoder before the first byte. -/
def start : Decoder := ⟨.ready, []⟩

/-- Takes one byte. -/
def push (d : Decoder) (b : UInt8) : Decoder :=
  let (state, found) := next d.state b
  ⟨state, found.reverse ++ d.found⟩

/-- Takes a run of bytes. -/
def feed (d : Decoder) (bytes : List UInt8) : Decoder :=
  bytes.foldl push d

/-- The pieces found once the input has ended. -/
def finish (d : Decoder) : List Piece :=
  match d.state with
  | .ready => d.found.reverse
  | .within _ _ _ _ seen => (.illFormed seen.reverse .endOfData :: d.found).reverse

theorem feed_append (d : Decoder) (a b : List UInt8) : d.feed (a ++ b) = (d.feed a).feed b :=
  List.foldl_append

end Decoder

/-- The characters and ill-formed sequences of some bytes, in order. -/
def pieces (bytes : List UInt8) : List Piece :=
  (Decoder.start.feed bytes).finish

/-- A piece as a character; an ill-formed sequence becomes the replacement character. -/
def Piece.replaced : Piece → Char
  | .char c => c
  | .illFormed _ _ => '\uFFFD'

/-- Decodes any bytes, with one replacement character for each ill-formed sequence. -/
def decodeReplacing (bytes : List UInt8) : List Char :=
  (pieces bytes).map Piece.replaced

/-- A piece as text; the bytes of an ill-formed sequence become the surrogates from `DC80` on. -/
def Piece.kept : Piece → Text
  | .char c => [.char c]
  | .illFormed bytes _ => bytes.map fun b => CodePoint.ofNat (0xDC00 + b.toNat)

/-- Decodes a file name, in which no byte may be lost. -/
def decodeFileName (bytes : List UInt8) : Text :=
  (pieces bytes).flatMap Piece.kept

/-! ## Refusing ill-formed input -/

/-- The first ill-formed sequence of an input and the place where it starts. -/
structure Refusal where
  position : Nat
  bytes : List UInt8
  defect : Defect
deriving DecidableEq, Repr

/-- The characters of some pieces that start at a byte position, unless one is ill formed. -/
def accept (position : Nat) (read : List Char) : List Piece → Except Refusal (List Char)
  | [] => .ok read.reverse
  | .char c :: rest => accept (position + c.utf8Size) (c :: read) rest
  | .illFormed bytes defect :: _ => .error ⟨position, bytes, defect⟩

/-- Decodes well-formed bytes, and reports the first sequence that is not. -/
def decode (bytes : List UInt8) : Except Refusal (List Char) :=
  accept 0 [] (pieces bytes)

/-- What is said about a defect. -/
def Defect.reason : Defect → String
  | .startByte => "invalid start byte"
  | .continuation => "invalid continuation byte"
  | .endOfData => "unexpected end of data"

/-- The report of an ill-formed sequence: a single byte is shown, a longer one only located. -/
def Refusal.message (r : Refusal) : String :=
  let place := match r.bytes with
    | [b] => "byte 0x" ++ String.ofList (Hex.fixed 2 b.toNat) ++ s!" in position {r.position}"
    | bytes => s!"bytes in position {r.position}-{r.position + bytes.length - 1}"
  "'utf-8' codec can't decode " ++ place ++ ": " ++ r.defect.reason

/-! ## Encoding -/

/-- The bytes of some characters. -/
def encode (s : List Char) : List UInt8 :=
  s.flatMap String.utf8EncodeChar

/-- The bytes of a string. -/
def encodeString (s : String) : List UInt8 :=
  encode s.toList

/-- A run of surrogates that cannot be encoded, and the place where it starts. -/
structure EncodeRefusal where
  position : Nat
  first : Fin 0x800
  length : Nat
deriving DecidableEq, Repr

/-- The report of surrogates that cannot be encoded: a single one is shown, a longer run only
located. -/
def EncodeRefusal.message (r : EncodeRefusal) : String :=
  let place :=
    if r.length = 1 then
      "character '\\u" ++ String.ofList (Hex.fixed 4 (0xD800 + r.first)) ++
        s!"' in position {r.position}"
    else s!"characters in position {r.position}-{r.position + r.length - 1}"
  "'utf-8' codec can't encode " ++ place ++ ": surrogates not allowed"

/-- Whether a code point is a surrogate. -/
def isSurrogate : CodePoint → Bool
  | .char _ => false
  | .surrogate _ => true

/-- The bytes of a text from a position on, after those already written, latest first. Some
surrogates may stand for single bytes; any other is refused, with all surrogates that follow it. -/
def encodeOnto (standsFor : Fin 0x800 → Option UInt8) (position : Nat) (written : List UInt8) :
    Text → Except EncodeRefusal (List UInt8)
  | [] => .ok written.reverse
  | .char c :: rest =>
    encodeOnto standsFor (position + 1) ((String.utf8EncodeChar c).reverse ++ written) rest
  | .surrogate index :: rest =>
    match standsFor index with
    | some b => encodeOnto standsFor (position + 1) (b :: written) rest
    | none => .error ⟨position, index, 1 + (rest.takeWhile isSurrogate).length⟩

/-- The bytes of a text, which must not have surrogates. -/
def encodeText (s : Text) : Except EncodeRefusal (List UInt8) :=
  encodeOnto (fun _ => none) 0 [] s

/-- The bytes of a file name. A file name need not be well formed; the bytes of an ill-formed one
from 128 on are kept as the surrogates from `DC80` on. -/
def encodeFileName (s : Text) : Except EncodeRefusal (List UInt8) :=
  encodeOnto (fun index => if 0x480 ≤ index.val ∧ index.val < 0x500 then
    some (UInt8.ofNat (index.val - 0x400)) else none) 0 [] s

/-! ## Characters of ASCII -/

theorem feed_ascii {bytes : List UInt8} (ascii : ∀ b ∈ bytes, b < 0x80) (found : List Piece) :
    Decoder.feed ⟨.ready, found⟩ bytes =
      ⟨.ready, (bytes.map fun b => Piece.char (Char.ofNat b.toNat)).reverse ++ found⟩ := by
  induction bytes generalizing found with
  | nil => rfl
  | cons b bytes ih =>
    have one : Decoder.push ⟨.ready, found⟩ b =
        ⟨.ready, .char (Char.ofNat b.toNat) :: found⟩ := by
      simp [Decoder.push, next, lead, ascii b (by simp)]
    have rest := ih (fun c member => ascii c (by simp [member]))
      (.char (Char.ofNat b.toNat) :: found)
    simp only [Decoder.feed] at rest
    simp [Decoder.feed, one, rest]

theorem encodeOnto_ofChars (standsFor : Fin 0x800 → Option UInt8) (position : Nat)
    (written : List UInt8) (s : List Char) :
    encodeOnto standsFor position written (Text.ofChars s) = .ok (written.reverse ++ encode s) := by
  induction s generalizing position written with
  | nil => simp [Text.ofChars, encodeOnto, encode]
  | cons c s ih =>
    simp only [Text.ofChars, List.map_cons, encodeOnto] at *
    simp [ih, encode]

theorem encodeText_ofString (s : String) :
    encodeText (Text.ofString s) = .ok (encodeString s) := by
  simp [encodeText, Text.ofString, encodeOnto_ofChars, encodeString]

theorem pieces_ascii {bytes : List UInt8} (ascii : ∀ b ∈ bytes, b < 0x80) :
    pieces bytes = bytes.map fun b => .char (Char.ofNat b.toNat) := by
  simp [pieces, Decoder.start, feed_ascii ascii, Decoder.finish]

example : decodeReplacing [0xE2, 0x82, 0x2B] = ['\uFFFD', '+'] ∧
    decodeReplacing [0xE0, 0x80, 0x2E] = ['\uFFFD', '\uFFFD', '.'] ∧
    decodeReplacing [0xC3, 0xA9] = ['é'] := by decide +kernel

end TapeMachine.Utf8

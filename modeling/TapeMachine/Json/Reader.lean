import TapeMachine.Json.Members
import TapeMachine.Number.Numeral
import TapeMachine.Text.Hex

/-!
# Reading JSON

A value is read from a list of characters and what follows it is handed on. A reader that has to
stop keeps the text from the offending place on, so a position is the difference of two lengths.

The grammar is that of JSON with these particulars. Blanks are the space, the tab and the two
line ends. `NaN`, `Infinity` and `-Infinity` are numbers. A fraction or an exponent belongs to a
number only if a digit follows, so `1.` is the number one and a stray point. Two escapes that form
a surrogate pair name one character, and any other surrogate stands for itself. Of members with
the same name the last value counts, in the place of the first. A whole number with too many digits
is refused.

Results:
1. `skipBlank_eq`, `blank_of_skipped`: only blanks are skipped, and all of them.
2. `digits_append`, `digits_isDigit`: a run of digits is taken whole.
-/

namespace TapeMachine.Json

/-- What is wrong with a text that is not JSON. -/
inductive Defect
  | byteOrderMark
  | value
  | name
  | colon
  | comma
  | extraData
  | unterminatedString
  | controlCharacter
  | escape
  | unicodeEscape
deriving DecidableEq, Repr

/-- Why reading stopped: a defect with the text from the offending place on, or a whole number
with too many digits. -/
inductive Stop
  | defect (kind : Defect) (rest : Text)
  | tooManyDigits (count : Nat)
deriving DecidableEq, Repr

/-! ## Blanks, literals and digits -/

/-- A character that may stand between tokens. -/
def isBlank (p : CodePoint) : Bool :=
  p == .char ' ' || p == .char '\t' || p == .char '\n' || p == .char '\r'

/-- The text without the blanks in front of it. -/
def skipBlank (s : Text) : Text :=
  s.dropWhile isBlank

/-- What follows a literal at the start of a text. -/
def afterLiteral? (literal : String) (s : Text) : Option Text :=
  (Text.ofString literal).isPrefixOf? s

/-- The decimal digit that a code point is. Only the ten digits of ASCII count. -/
def digit? : CodePoint → Option Nat
  | .char c => if '0' ≤ c ∧ c ≤ '9' then some (c.toNat - '0'.toNat) else none
  | .surrogate _ => none

/-- Whether a code point is a decimal digit. -/
def isDigit (p : CodePoint) : Bool :=
  (digit? p).isSome

/-- The run of digits at the start of a text, and the rest. -/
def digits (s : Text) : Text × Text :=
  (s.takeWhile isDigit, s.dropWhile isDigit)

/-- The number that a run of digits spells. -/
def digitsValue (s : Text) : Nat :=
  Numeral.ofDigits (s.filterMap digit?)

/-! ## Numbers -/

/-- The whole part of a number: a single zero, or digits that do not start with one. -/
def wholePart : Text → Option (Text × Text)
  | [] => none
  | p :: rest =>
    if p = .char '0' then some ([p], rest)
    else if isDigit p then some (digits (p :: rest))
    else none

/-- The digits after a point; none, and the text as it was, if no digit follows. -/
def fractionPart (s : Text) : Text × Text :=
  match s with
  | .char '.' :: rest => if (digits rest).1.isEmpty then ([], s) else digits rest
  | _ => ([], s)

/-- The exponent of ten; none, and the text as it was, if no digit follows. -/
def exponentPart (s : Text) : Option Int × Text :=
  let signed (negative : Bool) (rest : Text) : Option Int × Text :=
    let (found, after) := digits rest
    if found.isEmpty then (none, s)
    else (some (if negative then -(digitsValue found : Int) else digitsValue found), after)
  match s with
  | p :: rest =>
    if p = .char 'e' ∨ p = .char 'E' then
      match rest with
      | .char '-' :: rest => signed true rest
      | .char '+' :: rest => signed false rest
      | rest => signed false rest
    else (none, s)
  | [] => (none, s)

/-- A number. -/
def number (s : Text) : Except Stop (Json × Text) :=
  let (negative, unsigned) := match s with
    | .char '-' :: rest => (true, rest)
    | _ => (false, s)
  match wholePart unsigned with
  | none => .error (.defect .value s)
  | some (whole, rest) =>
    let (fraction, rest) := fractionPart rest
    let (exponent?, rest) := exponentPart rest
    if fraction.isEmpty && exponent?.isNone then
      if Numeral.maxDigits < whole.length then .error (.tooManyDigits whole.length)
      else
        let magnitude : Int := digitsValue whole
        .ok (.integer (if negative then -magnitude else magnitude), rest)
    else
      let value := Binary64.ofDecimal negative ((whole ++ fraction).filterMap digit?)
        (exponent?.getD 0 - fraction.length)
      .ok (.float value, rest)

/-! ## Strings -/

/-- The hexadecimal digit that a code point is. -/
def hexDigit? : CodePoint → Option Nat
  | .char c => Hex.value? c
  | .surrogate _ => none

/-- Four hexadecimal digits, with at least one character after them. The text from the letter
that announced them on is kept for the report. -/
def codeUnit (announced : Text) : Text → Except Stop (Nat × Text)
  | a :: b :: c :: d :: next :: rest =>
    match hexDigit? a, hexDigit? b, hexDigit? c, hexDigit? d with
    | some a, some b, some c, some d =>
      .ok (((a * 16 + b) * 16 + c) * 16 + d, next :: rest)
    | _, _, _, _ => .error (.defect .unicodeEscape announced)
  | _ => .error (.defect .unicodeEscape announced)

/-- The character that a pair of surrogates stands for, if the two form one. -/
def joinSurrogates? (first second : Nat) : Option CodePoint :=
  if 0xD800 ≤ first ∧ first < 0xDC00 ∧ 0xDC00 ≤ second ∧ second < 0xE000 then
    some (.ofNat (0x10000 + (first - 0xD800) * 0x400 + (second - 0xDC00)))
  else none

/-- A code point given by number. A surrogate that can open a pair is joined with the one in an
escape just behind it; if that does not close the pair, it is left to be read by itself. The
escape behind it has to have its four digits and a character after them to be looked at, and then
its digits have to be in order. -/
def numbered (announced s : Text) : Except Stop (CodePoint × Text) := do
  let (first, rest) ← codeUnit announced s
  if 0xD800 ≤ first ∧ first < 0xDC00 then
    match rest with
    | .char '\\' :: .char 'u' :: a :: b :: c :: d :: next :: after =>
      let second := a :: b :: c :: d :: next :: after
      let (unit, after) ← codeUnit (.char 'u' :: second) second
      match joinSurrogates? first unit with
      | some p => return (p, after)
      | none => return (.ofNat first, rest)
    | _ => return (.ofNat first, rest)
  else return (.ofNat first, rest)

/-- The character that a letter after a backslash stands for. -/
def shortEscape? : CodePoint → Option Char
  | .char '"' => some '"'
  | .char '\\' => some '\\'
  | .char '/' => some '/'
  | .char 'b' => some '\x08'
  | .char 'f' => some '\x0c'
  | .char 'n' => some '\n'
  | .char 'r' => some '\r'
  | .char 't' => some '\t'
  | _ => none

/-- The rest of a string after its opening quote, in front of which some code points have been
read, latest first. `opened` is the text from the opening quote on. Each round of the recursion
takes a character at least, which the fuel counts. -/
def stringFrom (opened : Text) : Nat → Text → Text → Except Stop (Text × Text)
  | 0, _, _ => .error (.defect .unterminatedString opened)
  | _ + 1, _, [] => .error (.defect .unterminatedString opened)
  | fuel + 1, read, p :: rest =>
    if p = .char '"' then .ok (read.reverse, rest)
    else if p = .char '\\' then
      match rest with
      | [] => .error (.defect .unterminatedString opened)
      | .char 'u' :: after => do
        let (q, after) ← numbered rest after
        stringFrom opened fuel (q :: read) after
      | q :: after =>
        match shortEscape? q with
        | some c => stringFrom opened fuel (.char c :: read) after
        | none => .error (.defect .escape (p :: rest))
    else if p.val < 0x20 then .error (.defect .controlCharacter (p :: rest))
    else stringFrom opened fuel (p :: read) rest

/-! ## Values -/

/-- The values that are written as words. -/
def words : List (String × Json) :=
  [("null", .null), ("true", .bool true), ("false", .bool false), ("NaN", .float .nan),
    ("Infinity", .float (.infinite false)), ("-Infinity", .float (.infinite true))]

/-- The value of a word at the start of a text. -/
def word? (s : Text) : Option (Json × Text) :=
  words.findSome? fun (literal, value) => (afterLiteral? literal s).map (value, ·)

mutual

/-- One value. The fuel bounds the length of the text, counted twice because a list and its first
item start at neighbouring characters. -/
def valueFrom : Nat → Text → Except Stop (Json × Text)
  | 0, s => .error (.defect .value s)
  | fuel + 1, s =>
    match s with
    | .char '"' :: rest => do
      let (text, rest) ← stringFrom s fuel [] rest
      return (.string text, rest)
    | .char '{' :: rest =>
      match skipBlank rest with
      | .char '}' :: rest => .ok (.object [], rest)
      | rest => membersFrom fuel [] rest
    | .char '[' :: rest =>
      match skipBlank rest with
      | .char ']' :: rest => .ok (.array [], rest)
      | rest => itemsFrom fuel [] rest
    | s =>
      match word? s with
      | some found => .ok found
      | none => number s

/-- The items of a list that is not empty, from one item on, after those already read, latest
first. -/
def itemsFrom : Nat → List Json → Text → Except Stop (Json × Text)
  | 0, _, s => .error (.defect .value s)
  | fuel + 1, read, s => do
    let (item, rest) ← valueFrom fuel s
    match skipBlank rest with
    | .char ']' :: rest => return (.array (item :: read).reverse, rest)
    | .char ',' :: rest => itemsFrom fuel (item :: read) (skipBlank rest)
    | rest => throw (.defect .comma rest)

/-- The members of an object that is not empty, from one member on, after those already read,
latest first. -/
def membersFrom : Nat → Members → Text → Except Stop (Json × Text)
  | 0, _, s => .error (.defect .name s)
  | fuel + 1, read, s =>
    match s with
    | .char '"' :: rest => do
      let (name, rest) ← stringFrom s fuel [] rest
      match skipBlank rest with
      | .char ':' :: rest =>
        let (value, rest) ← valueFrom fuel (skipBlank rest)
        match skipBlank rest with
        | .char '}' :: rest => return (.object (collect ((name, value) :: read)).members.toList, rest)
        | .char ',' :: rest => membersFrom fuel ((name, value) :: read) (skipBlank rest)
        | rest => throw (.defect .comma rest)
      | rest => throw (.defect .colon rest)
    | s => .error (.defect .name s)

end

/-- A text that is one value between blanks. -/
def document (s : Text) : Except Stop Json :=
  if s.head? = some (.char '\uFEFF') then .error (.defect .byteOrderMark s)
  else do
    let (value, rest) ← valueFrom (2 * s.length + 2) (skipBlank s)
    match skipBlank rest with
    | [] => return value
    | rest => throw (.defect .extraData rest)

/-! ## Reports -/

/-- A place in a text. Lines and columns are counted from one, characters from zero. -/
structure Place where
  line : Nat
  column : Nat
  offset : Nat
deriving DecidableEq, Repr

/-- The place that lies after some characters, counted on from another place. -/
def Place.after (p : Place) (passed : Text) : Place :=
  passed.foldl (fun p c =>
    if c = .char '\n' then ⟨p.line + 1, 1, p.offset + 1⟩
    else ⟨p.line, p.column + 1, p.offset + 1⟩) p

/-- Why a text could not be read as JSON. -/
inductive ReadError
  | malformed (kind : Defect) (place : Place)
  | tooManyDigits (count : Nat)
deriving DecidableEq, Repr

/-- Locates the reason for which reading a text stopped. -/
def Stop.locate (text : Text) : Stop → ReadError
  | .defect kind rest =>
    .malformed kind (Place.after ⟨1, 1, 0⟩ (text.take (text.length - rest.length)))
  | .tooManyDigits count => .tooManyDigits count

/-- Reads a text as one value. -/
def read (text : Text) : Except ReadError Json :=
  (document text).mapError (Stop.locate text)

/-- What is said about a defect. -/
def Defect.message : Defect → String
  | .byteOrderMark => "Unexpected UTF-8 BOM (decode using utf-8-sig)"
  | .value => "Expecting value"
  | .name => "Expecting property name enclosed in double quotes"
  | .colon => "Expecting ':' delimiter"
  | .comma => "Expecting ',' delimiter"
  | .extraData => "Extra data"
  | .unterminatedString => "Unterminated string starting at"
  | .controlCharacter => "Invalid control character at"
  | .escape => "Invalid \\escape"
  | .unicodeEscape => "Invalid \\uXXXX escape"

/-- The report of a text that is not JSON. -/
def ReadError.message : ReadError → String
  | .malformed kind place =>
    kind.message ++ s!": line {place.line} column {place.column} (char {place.offset})"
  | .tooManyDigits count => Numeral.readRefusal count

/-! ## What the small readers take -/

theorem skipBlank_eq (s : Text) : s.takeWhile isBlank ++ skipBlank s = s :=
  List.takeWhile_append_dropWhile

theorem blank_of_skipped {s : Text} {p : CodePoint} (taken : p ∈ s.takeWhile isBlank) :
    isBlank p = true :=
  List.all_eq_true.mp List.all_takeWhile p taken

theorem digits_append (s : Text) : (digits s).1 ++ (digits s).2 = s := by
  simp [digits]

theorem digits_isDigit {s : Text} {p : CodePoint} (taken : p ∈ (digits s).1) :
    isDigit p = true :=
  List.all_eq_true.mp List.all_takeWhile p taken

end TapeMachine.Json

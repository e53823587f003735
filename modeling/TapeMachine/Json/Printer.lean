import TapeMachine.Json.Value
import TapeMachine.Number.Shortest
import TapeMachine.Text.Hex

/-!
# Writing JSON

Values are written in ASCII, in one line or with one item a line. Characters outside ASCII are
escaped, those beyond the first plane as a surrogate pair.

Results:
1. `ascii_of_mem_escape`: only visible characters of ASCII are written for a code point.
-/

namespace TapeMachine.Json

/-- Four digits of an escape. -/
def unicodeEscape (n : Nat) : List Char :=
  '\\' :: 'u' :: Hex.fixed 4 n

/-- What is written for one code point of a string. -/
def escape (p : CodePoint) : List Char :=
  if p.val = '"'.toNat || p.val = '\\'.toNat then ['\\', Char.ofNat p.val]
  else if 0x20 ≤ p.val && p.val < 0x7F then [Char.ofNat p.val]
  else if p.val = '\n'.toNat then ['\\', 'n']
  else if p.val = '\r'.toNat then ['\\', 'r']
  else if p.val = '\t'.toNat then ['\\', 't']
  else if p.val = 0x0C then ['\\', 'f']
  else if p.val = 0x08 then ['\\', 'b']
  else if p.val < 0x10000 then unicodeEscape p.val
  else
    unicodeEscape (0xD800 + (p.val - 0x10000) / 0x400) ++
      unicodeEscape (0xDC00 + (p.val - 0x10000) % 0x400)

/-- A string with its quotes. -/
def quoted (s : Text) : String :=
  String.ofList ('"' :: s.flatMap escape ++ ['"'])

/-- A number that is not whole. -/
def floatText : Binary64 → String
  | .nan => "NaN"
  | .infinite false => "Infinity"
  | .infinite true => "-Infinity"
  | x => x.text

/-- How the items of lists and objects are set apart: everything in one line, or each item in a
line of its own, indented by so many spaces for each level. -/
inductive Layout
  | oneLine
  | indented (width : Nat)
deriving DecidableEq, Repr

namespace Layout

/-- What stands between an opening bracket and the first item, or between the last item and the
closing bracket, at a depth. -/
def lineBreak : Layout → Nat → String
  | .oneLine, _ => ""
  | .indented width, depth => "\n" ++ String.ofList (List.replicate (width * depth) ' ')

/-- What stands between two items at a depth. -/
def separator : Layout → Nat → String
  | .oneLine, _ => ", "
  | layout, depth => "," ++ layout.lineBreak depth

/-- Items between brackets, at the depth of the brackets. -/
def enclose (layout : Layout) (depth : Nat) (opening closing : String) :
    List String → String
  | [] => opening ++ closing
  | items =>
    opening ++ layout.lineBreak (depth + 1) ++
      String.intercalate (layout.separator (depth + 1)) items ++ layout.lineBreak depth ++ closing

end Layout

mutual

/-- The text of a value at a depth. -/
def printAt (layout : Layout) (depth : Nat) : Json → String
  | .null => "null"
  | .bool true => "true"
  | .bool false => "false"
  | .integer value => toString value
  | .float value => floatText value
  | .string value => quoted value
  | .array items => layout.enclose depth "[" "]" (printItems layout (depth + 1) items)
  | .object members =>
    layout.enclose depth "\x7b" "\x7d" (printMembers layout (depth + 1) members)

/-- The texts of the items of a list. -/
def printItems (layout : Layout) (depth : Nat) : List Json → List String
  | [] => []
  | item :: items => printAt layout depth item :: printItems layout depth items

/-- The texts of the members of an object. -/
def printMembers (layout : Layout) (depth : Nat) : List (Text × Json) → List String
  | [] => []
  | (name, value) :: members =>
    (quoted name ++ ": " ++ printAt layout depth value) :: printMembers layout depth members

end

/-- The text of a value in one line. -/
def compact (value : Json) : String :=
  value.printAt .oneLine 0

/-- The text of a value with one item a line, as programs are stored. -/
def pretty (value : Json) : String :=
  value.printAt (.indented 2) 0

theorem ascii_of_mem_escape {p : CodePoint} {c : Char} (member : c ∈ escape p) :
    0x20 ≤ c.toNat ∧ c.toNat < 0x7F := by
  have digits : ∀ {width n : Nat}, c ∈ Hex.fixed width n → 0x20 ≤ c.toNat ∧ c.toNat < 0x7F := by
    intro width
    induction width with
    | zero => simp [Hex.fixed]
    | succ width ih =>
      intro n member
      have below : ∀ k < 16, 0x20 ≤ (Hex.digit k).toNat ∧ (Hex.digit k).toNat < 0x7F := by decide
      rw [Hex.fixed, List.mem_append, List.mem_singleton] at member
      rcases member with member | rfl
      · exact ih member
      · rw [← Hex.digit_mod]
        exact below _ (Nat.mod_lt _ (by decide))
  have coded : ∀ {n : Nat}, c ∈ unicodeEscape n → 0x20 ≤ c.toNat ∧ c.toNat < 0x7F := by
    intro n member
    rcases List.mem_cons.mp member with rfl | member
    · decide
    rcases List.mem_cons.mp member with rfl | member
    · decide
    · exact digits member
  have shown : ∀ n < 0x80, (Char.ofNat n).toNat = n := by decide +kernel
  have pair : ∀ {d : Char}, 0x20 ≤ d.toNat ∧ d.toNat < 0x7F → c ∈ ['\\', d] →
      0x20 ≤ c.toNat ∧ c.toNat < 0x7F := by
    intro d visible member
    rcases List.mem_cons.mp member with rfl | member
    · decide
    · rw [List.mem_singleton.mp member]
      exact visible
  unfold escape at member
  repeat' split at member
  · next special =>
    refine pair ?_ member
    simp only [Bool.or_eq_true, decide_eq_true_eq] at special
    rcases special with same | same <;> rw [same] <;> decide
  · next visible =>
    simp only [Bool.and_eq_true, decide_eq_true_eq] at visible
    rw [List.mem_singleton.mp member, shown _ (by omega)]
    exact visible
  · exact pair (by decide) member
  · exact pair (by decide) member
  · exact pair (by decide) member
  · exact pair (by decide) member
  · exact pair (by decide) member
  · exact coded member
  · rcases List.mem_append.mp member with member | member <;> exact coded member

end TapeMachine.Json

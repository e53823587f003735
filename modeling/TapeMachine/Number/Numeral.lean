/-!
# Numerals

A whole number is written and read in decimal as long as it has no more than a greatest number of
digits; beyond that the conversion is refused.

Results:
1. `ofDigits_eq_value`: a long numeral can be read in halves.
2. `writable_of_natAbs_lt`: a number below a million is always written.
-/

namespace TapeMachine.Numeral

/-! ## Reading -/

/-- The number that some digits spell, the leading one first. -/
def value (digits : List Nat) : Nat :=
  digits.foldl (fun n digit => 10 * n + digit) 0

/-- The number that some digits spell, put together from halves that are halved in turn, down to a
depth. Digits that are taken in one at a time each cost a product with all digits before them. -/
def ofHalves : Nat → List Nat → Nat
  | 0, digits => value digits
  | depth + 1, digits =>
    let front := digits.take (digits.length / 2)
    let back := digits.drop (digits.length / 2)
    ofHalves depth front * Nat.pow 10 back.length + ofHalves depth back

/-- The number that some digits spell, the leading one first. Short runs of digits are not
halved. -/
def ofDigits (digits : List Nat) : Nat :=
  ofHalves (digits.length.log2 - 5) digits

theorem foldl_eq (digits : List Nat) (n : Nat) :
    digits.foldl (fun n digit => 10 * n + digit) n =
      n * Nat.pow 10 digits.length + value digits := by
  induction digits generalizing n with
  | nil => exact (Nat.mul_one n).symm
  | cons digit digits ih =>
    have power : Nat.pow 10 (digits.length + 1) = Nat.pow 10 digits.length * 10 := rfl
    rw [value, List.foldl_cons, List.foldl_cons, ih, ih (10 * 0 + digit), List.length_cons, power,
      Nat.mul_zero, Nat.zero_add, Nat.add_mul, Nat.add_assoc]
    congr 1
    rw [Nat.mul_comm 10 n, Nat.mul_assoc, Nat.mul_comm 10]

theorem value_append (front back : List Nat) :
    value (front ++ back) = value front * Nat.pow 10 back.length + value back := by
  rw [value, List.foldl_append, foldl_eq]
  rfl

theorem ofHalves_eq_value (depth : Nat) (digits : List Nat) :
    ofHalves depth digits = value digits := by
  induction depth generalizing digits with
  | zero => rfl
  | succ depth ih => rw [ofHalves, ih, ih, ← value_append, List.take_append_drop]

theorem ofDigits_eq_value (digits : List Nat) : ofDigits digits = value digits :=
  ofHalves_eq_value _ digits

/-! ## The limit -/

/-- The greatest number of digits of a whole number. -/
def maxDigits : Nat := 4300

/-- Whether a number has few enough digits to be written. -/
def writable (n : Int) : Bool :=
  n.natAbs < Nat.pow 10 maxDigits

/-- The refusal to convert a number between its value and its digits. What is known of the number
is said in between. -/
def refusal (known : String) : String :=
  s!"Exceeds the limit ({maxDigits} digits) for integer string conversion" ++ known ++
    "; use sys.set_int_max_str_digits() to increase the limit"

/-- The refusal to write a number. -/
def writeRefusal : String :=
  refusal ""

/-- The refusal to read a number with so many digits. -/
def readRefusal (count : Nat) : String :=
  refusal s!": value has {count} digits"

theorem writable_of_natAbs_lt {n : Int} (small : n.natAbs < 1000000) : writable n = true := by
  have room : 1000000 < Nat.pow 10 maxDigits := by decide +kernel
  exact decide_eq_true (Nat.lt_trans small room)

end TapeMachine.Numeral

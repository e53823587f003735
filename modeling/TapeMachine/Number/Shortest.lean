import TapeMachine.Number.Binary64

/-!
# The shortest decimal of a double

A double is shown with the fewest decimal digits that are nearer to it than to any other double.
Of two decimals with that many digits the nearer one is taken, and the even one when both are
equally near.

Results:
1. `significantDigits_ne_nil`: there is always a digit to show.
2. The examples below fix where positional notation ends.
-/

namespace TapeMachine.Binary64

/-- A decimal number, `digits * 10 ^ exponent`. -/
structure Decimal where
  digits : Nat
  exponent : Int
deriving DecidableEq, Repr

/-- Whether a power of ten is at most `significand * 2 ^ exponent`. -/
def reaches (significand : Nat) (exponent power : Int) : Bool :=
  Nat.pow 10 power.toNat * Nat.pow 2 (-exponent).toNat ≤
    significand * Nat.pow 2 exponent.toNat * Nat.pow 10 (-power).toNat

/-- How many decimal digits stand before the point of `significand * 2 ^ exponent`; for a number
below one, zero or less, by the zeros that follow the point. The power of two below the number
tells it up to one, since `30103 / 100000` is near enough to the logarithm of two. -/
def pointPosition (significand : Nat) (exponent : Int) : Int :=
  let power := Int.fdiv ((significand.log2 + exponent) * 30103) 100000
  if reaches significand exponent (power + 1) then power + 2
  else if reaches significand exponent power then power + 1
  else power

/-- The decimal whose last digit is at a place, counted in powers of ten, that is nearest to a
double, if it is nearer to that double than to any other. Quarters of the last binary place are
the unit: the numbers that round to the double lie up to two quarters away, and only one below
where the spacing changes. An even significand owns both ends. -/
def nearest? (significand : Nat) (exponent place : Int) : Option Decimal :=
  let unit := Nat.pow 2 (exponent - 2).toNat * Nat.pow 10 (-place).toNat
  let grid := Nat.pow 10 place.toNat * Nat.pow 2 (-(exponent - 2)).toNat
  let value := 4 * significand * unit
  let below := if significand = leastNormal && minExponent < exponent then unit else 2 * unit
  let low := value - below
  let high := value + 2 * unit
  let owned (d : Nat) : Bool :=
    if significand % 2 = 0 then low ≤ d * grid && d * grid ≤ high
    else low < d * grid && d * grid < high
  let floor := value / grid
  let twice := 2 * (value - floor * grid)
  let down := twice < grid || twice = grid && floor % 2 = 0
  match owned floor, owned (floor + 1) with
  | true, true => some ⟨if down then floor else floor + 1, place⟩
  | true, false => some ⟨floor, place⟩
  | false, true => some ⟨floor + 1, place⟩
  | false, false => none

/-- The shortest decimal of a positive double; seventeen digits always suffice. -/
def shortest (significand : Nat) (exponent : Int) : Decimal :=
  let position := pointPosition significand exponent
  let found := (List.range' 1 17).findSome? fun (digits : Nat) =>
    nearest? significand exponent (position - digits)
  found.getD ⟨significand, exponent⟩

/-- The digits of a decimal without the zeros at its end, and the position of the point. -/
def significantDigits (d : Decimal) : List Char × Int :=
  let all := Nat.toDigits 10 d.digits
  let kept := (all.reverse.dropWhile (· == '0')).reverse
  (if kept.isEmpty then ['0'] else kept, all.length + d.exponent)

/-- Digits with the point at a position. Numbers from `10 ^ -4` up to `10 ^ 16` are written out,
with a digit on each side of the point; others have one digit before the point and an exponent of
at least two digits. -/
def layOut (digits : List Char) (point : Int) : List Char :=
  if -4 < point ∧ point ≤ 16 then
    if point ≤ 0 then '0' :: '.' :: (List.replicate (-point).toNat '0' ++ digits)
    else
      let before := digits.take point.toNat
      let after := digits.drop point.toNat
      before ++ List.replicate (point.toNat - before.length) '0' ++
        '.' :: (if after.isEmpty then ['0'] else after)
  else
    let power := point - 1
    let magnitude := Nat.toDigits 10 power.natAbs
    let fraction := if digits.length ≤ 1 then [] else '.' :: digits.drop 1
    digits.take 1 ++ fraction ++ 'e' :: (if power < 0 then '-' else '+') ::
      (List.replicate (2 - magnitude.length) '0' ++ magnitude)

/-- The text of a double. -/
def text : Binary64 → String
  | .nan => "nan"
  | .infinite negative => (if negative then "-" else "") ++ "inf"
  | .finite negative significand exponent =>
    let (digits, point) :=
      if significand = 0 then (['0'], 1) else significantDigits (shortest significand exponent)
    (if negative then "-" else "") ++ String.ofList (layOut digits point)

theorem significantDigits_ne_nil (d : Decimal) : (significantDigits d).1 ≠ [] := by
  simp only [significantDigits]
  split
  · simp
  · next kept => simpa using kept

example : layOut ['1'] 17 = ['1', 'e', '+', '1', '6'] ∧
    layOut ['1'] 16 = "1000000000000000.0".toList ∧
    layOut ['1'] (-3) = ['0', '.', '0', '0', '0', '1'] ∧
    layOut ['1', '5'] (-4) = ['1', '.', '5', 'e', '-', '0', '5'] := by decide +kernel

end TapeMachine.Binary64

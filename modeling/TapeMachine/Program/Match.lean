import TapeMachine.Program

/-!
# Matching brackets

The partner of a bracket is found by counting: going from the bracket in steps of a fixed stride,
an instruction equal to the one at the start opens a level, any other bracket closes one, and the
search ends where it closes the level of the start. The start need not be a bracket and the stride
can be any number but zero; a jump uses the strides `1` and `-1`.

Results:
1. `fetch?_of_matchFrom`: a partner is an instruction of the program, and a bracket.
-/

namespace TapeMachine.Program

/-- Searches for the place where the level of the opener is closed, from a position on and with
some levels open inside it. The fuel bounds the number of steps. -/
def matchFrom (p : Program) (opener : Instruction) (stride : Int) :
    Nat → Int → Nat → Option Nat
  | 0, _, _ => none
  | fuel + 1, position, nested =>
    let next := position + stride
    if next < 0 then none
    else
      match p.fetch? next.toNat with
      | none => none
      | some i =>
        if i = opener then p.matchFrom opener stride fuel next (nested + 1)
        else if i.isBracket then
          match nested with
          | 0 => some next.toNat
          | nested + 1 => p.matchFrom opener stride fuel next nested
        else p.matchFrom opener stride fuel next nested

/-- The partner of the instruction `opener` at a position, in the direction of the stride. A search
that never stands still visits each position at most once, so it takes no more steps than the
program has instructions. -/
def partner? (p : Program) (opener : Instruction) (origin : Nat) (stride : Int) : Option Nat :=
  p.matchFrom opener stride p.size origin 0

theorem fetch?_of_matchFrom {p : Program} {opener : Instruction} {stride : Int}
    {fuel : Nat} {position : Int} {nested found : Nat}
    (search : p.matchFrom opener stride fuel position nested = some found) :
    ∃ i, p.fetch? found = some i ∧ i.isBracket = true ∧ i ≠ opener := by
  induction fuel generalizing position nested with
  | zero => simp [matchFrom] at search
  | succ fuel ih =>
    simp only [matchFrom] at search
    split at search
    · cases search
    split at search
    · cases search
    next i fetched =>
    split at search
    · exact ih search
    next differs =>
    split at search
    · next bracket =>
      split at search
      · cases search
        exact ⟨i, fetched, bracket, differs⟩
      · exact ih search
    · exact ih search

theorem partner?_lt_size {p : Program} {opener : Instruction} {origin found : Nat} {stride : Int}
    (search : p.partner? opener origin stride = some found) : found < p.size := by
  obtain ⟨i, fetched, _⟩ := fetch?_of_matchFrom search
  apply Decidable.byContradiction
  intro outside
  rw [fetch?_eq_none_iff.mpr (Nat.not_lt.mp outside)] at fetched
  cases fetched

end TapeMachine.Program

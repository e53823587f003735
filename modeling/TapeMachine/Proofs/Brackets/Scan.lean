import Mathlib.Algebra.BigOperators.Group.List.Basic
import Mathlib.Tactic.Ring
import TapeMachine.Program.Match

/-!
# Scanning for a partner

The search for a partner goes through the program by positions. What it finds depends only on the
instructions that it passes, in the order in which it passes them, so it is a scan of a list: of the
rest of the program for the stride `1`, of the reversed front of the program for the stride `-1`.

A scan counts levels. It ends at the first place where more levels are closed than are open.

Results:
1. `partner?_forward`, `partner?_backward`: the search with either stride is a scan.
2. `scan_eq_some_iff`: where a scan ends, in terms of the levels that are open.
-/

namespace TapeMachine

/-! ## Levels -/

/-- By how much an instruction changes the number of open levels, where `opener` opens them. -/
def Instruction.weight (opener i : Instruction) : Int :=
  if i = opener then 1 else if i.isBracket then -1 else 0

namespace Instruction

@[simp] theorem weight_self (opener : Instruction) : opener.weight opener = 1 := by
  simp [weight]

theorem weight_closer {opener i : Instruction} (bracket : i.isBracket = true)
    (differs : i ≠ opener) : opener.weight i = -1 := by
  simp [weight, bracket, differs]

theorem weight_other {opener i : Instruction} (plain : ¬i.isBracket = true)
    (differs : i ≠ opener) : opener.weight i = 0 := by
  simp [weight, plain, differs]

end Instruction

/-- By how much some instructions change the number of open levels. -/
def net (opener : Instruction) (l : List Instruction) : Int :=
  (l.map opener.weight).sum

@[simp] theorem net_nil (opener : Instruction) : net opener [] = 0 := rfl

@[simp] theorem net_cons (opener i : Instruction) (l : List Instruction) :
    net opener (i :: l) = opener.weight i + net opener l := by
  simp [net]

@[simp] theorem net_append (opener : Instruction) (a b : List Instruction) :
    net opener (a ++ b) = net opener a + net opener b := by
  simp [net]

@[simp] theorem net_reverse (opener : Instruction) (l : List Instruction) :
    net opener l.reverse = net opener l := by
  simp [net, List.sum_reverse]

/-- The place in a list of instructions where the level of the opener is closed, with some levels
open inside it. -/
def scan (opener : Instruction) : Int → List Instruction → Option Nat
  | _, [] => none
  | level, i :: rest =>
    if level + opener.weight i < 0 then some 0
    else (scan opener (level + opener.weight i) rest).map (· + 1)

/-- A scan ends at the first place behind which the number of open levels is negative. -/
theorem scan_eq_some_iff {opener : Instruction} {level : Int} {l : List Instruction} {k : Nat}
    (sound : 0 ≤ level) : scan opener level l = some k ↔
      k < l.length ∧ level + net opener (l.take (k + 1)) < 0 ∧
        ∀ j ≤ k, 0 ≤ level + net opener (l.take j) := by
  induction l generalizing level k with
  | nil => simp [scan]
  | cons i rest ih =>
    unfold scan
    by_cases closed : level + opener.weight i < 0
    · rw [if_pos closed]
      constructor
      · intro found
        cases found
        refine ⟨by simp, by simpa using closed, ?_⟩
        intro j first
        rw [Nat.le_zero.mp first]
        simpa using sound
      · rintro ⟨_, _, before⟩
        cases k with
        | zero => rfl
        | succ k =>
          -- A place further on would need the level behind the first instruction to be sound.
          have early := before 1 (by omega)
          simp at early
          omega
    · rw [if_neg closed, Option.map_eq_some_iff]
      constructor
      · rintro ⟨before, found, rfl⟩
        obtain ⟨inside, here, earlier⟩ := (ih (by omega)).mp found
        refine ⟨by simpa using inside, by simpa [add_assoc] using here, ?_⟩
        intro j reached
        cases j with
        | zero => simpa using sound
        | succ j => simpa [add_assoc] using earlier j (by omega)
      · rintro ⟨inside, here, earlier⟩
        cases k with
        | zero =>
          simp at here
          omega
        | succ k =>
          refine ⟨k, (ih (by omega)).mpr ⟨by simpa using inside, ?_, ?_⟩, rfl⟩
          · simpa [add_assoc] using here
          · intro j reached
            simpa [add_assoc] using earlier (j + 1) (by omega)

/-! ## The search by positions -/

namespace Program

theorem lt_size_of_fetch? {p : Program} {position : Nat} {i : Instruction}
    (fetched : p.fetch? position = some i) : position < p.size := by
  apply Decidable.byContradiction
  intro outside
  rw [fetch?_eq_none_iff.mpr (Nat.not_lt.mp outside)] at fetched
  cases fetched

/-- The instructions that a search passes, as long as it stays inside the program. -/
def passed (p : Program) (stride : Int) : Nat → Int → List Instruction
  | 0, _ => []
  | fuel + 1, position =>
    let next := position + stride
    if next < 0 then []
    else
      match p.fetch? next.toNat with
      | none => []
      | some i => i :: p.passed stride fuel next

theorem matchFrom_eq_scan (p : Program) (opener : Instruction) (stride : Int) (fuel : Nat)
    (position : Int) (nested : Nat) :
    p.matchFrom opener stride fuel position nested =
      (scan opener nested (p.passed stride fuel position)).map fun k : Nat =>
        (position + (k + 1) * stride).toNat := by
  induction fuel generalizing position nested with
  | zero => rfl
  | succ fuel ih =>
    -- A place found `k` instructions behind the next one lies `k + 1` behind this one.
    have onward : ∀ found : Option Nat,
        (found.map fun k : Nat => (position + stride + (k + 1) * stride).toNat) =
          (found.map (· + 1)).map fun k : Nat => (position + (k + 1) * stride).toNat := by
      intro found
      rw [Option.map_map]
      congr 1
      funext k
      simp only [Function.comp_apply, Nat.cast_add, Nat.cast_one]
      congr 1
      ring
    simp only [matchFrom, passed]
    split
    · rfl
    cases fetched : p.fetch? (position + stride).toNat with
    | none => rfl
    | some i =>
      simp only [scan]
      by_cases opens : i = opener
      · rw [opens, Instruction.weight_self, if_pos rfl, if_neg (by omega), ih, onward]
        simp
      by_cases bracket : i.isBracket = true
      · rw [if_neg opens, if_pos bracket, Instruction.weight_closer bracket opens]
        cases nested with
        -- The search ends at nesting zero, which is where the level of the scan gets negative.
        | zero => simp
        | succ nested =>
          have level : ((nested + 1 : Nat) : Int) + -1 = nested := by omega
          rw [level, if_neg (by omega), ← onward]
          exact ih (position + stride) nested
      · rw [if_neg opens, if_neg bracket, Instruction.weight_other bracket opens, Int.add_zero,
          if_neg (by omega), ih, onward]

theorem passed_forward (p : Program) (fuel position : Nat) :
    p.passed 1 fuel position = (p.toList.drop (position + 1)).take fuel := by
  induction fuel generalizing position with
  | zero => rfl
  | succ fuel ih =>
    have next : ((position : Int) + 1).toNat = position + 1 := by omega
    have inside : ¬((position : Int) + 1 < 0) := by omega
    simp only [passed, if_neg inside, next, fetch?_eq]
    cases fetched : p.toList[position + 1]? with
    | none =>
      rw [List.getElem?_eq_none_iff] at fetched
      rw [List.drop_eq_nil_of_le fetched, List.take_nil]
    | some i =>
      obtain ⟨bound, rfl⟩ := List.getElem?_eq_some_iff.mp fetched
      have later := ih (position + 1)
      rw [Nat.cast_add, Nat.cast_one] at later
      rw [later, List.drop_eq_getElem_cons bound, List.take_succ_cons]

theorem passed_backward (p : Program) (fuel : Nat) {position : Nat} (inside : position ≤ p.size) :
    p.passed (-1) fuel position = (p.toList.take position).reverse.take fuel := by
  induction fuel generalizing position with
  | zero => simp [passed]
  | succ fuel ih =>
    cases position with
    | zero => simp [passed]
    | succ position =>
      have next : ((position + 1 : Nat) : Int) + -1 = (position : Int) := by omega
      have bound : position < p.toList.length := by
        rw [length_toList]
        exact inside
      have before := ih (Nat.le_of_succ_le inside)
      simp only [passed, next, Int.not_lt.mpr (Int.natCast_nonneg position), if_false,
        Int.toNat_natCast, fetch?_eq, List.getElem?_eq_getElem bound, before]
      rw [List.take_succ_eq_append_getElem bound, List.reverse_append, List.reverse_singleton,
        List.singleton_append, List.take_succ_cons]

/-- The partner ahead is found in the rest of the program. -/
theorem partner?_forward (p : Program) (opener : Instruction) (origin : Nat) :
    p.partner? opener origin 1 =
      (scan opener 0 (p.toList.drop (origin + 1))).map (origin + 1 + ·) := by
  have enough : (p.toList.drop (origin + 1)).take p.size = p.toList.drop (origin + 1) := by
    apply List.take_of_length_le
    rw [List.length_drop, length_toList]
    omega
  rw [partner?, matchFrom_eq_scan, passed_forward, enough]
  congr 1
  funext k
  omega

/-- The partner behind is found in the front of the program, read from its end. -/
theorem partner?_backward {p : Program} (opener : Instruction) {origin : Nat}
    (inside : origin ≤ p.size) :
    p.partner? opener origin (-1) =
      (scan opener 0 (p.toList.take origin).reverse).map (origin - 1 - ·) := by
  have enough : (p.toList.take origin).reverse.take p.size = (p.toList.take origin).reverse := by
    apply List.take_of_length_le
    rw [List.length_reverse, List.length_take]
    omega
  rw [partner?, matchFrom_eq_scan, passed_backward p p.size inside, enough]
  congr 1
  funext k
  omega

end Program

end TapeMachine

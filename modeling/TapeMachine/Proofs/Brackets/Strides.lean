import Mathlib.Order.Nat
import TapeMachine.Proofs.Brackets.Scan

/-!
# Searches with any stride

A jump searches with the stride `1` or `-1` from a bracket. The search itself is more general: it
can start at any instruction, which then opens levels whether it is a bracket or not, and it can go
by any stride but zero, in either direction.

Where it ends can be told by counting what it meets, without following the levels: it ends at the
first place at which the brackets that close a level outnumber the instructions that open one. The
surplus is then exactly one, since one step adds at most one bracket.

Results:
1. `searches_iff`: a search that moves comes to an end, and `partner?` is what it ends with.
2. `scan_zero_eq_some_iff_first`: a scan ends at the first place with a surplus of one.
3. `partner?_eq_some_iff`, `partner?_eq_none_iff`: what a search with any stride finds.
-/

namespace TapeMachine

/-- The brackets that close a level, where `opener` opens them. -/
def Instruction.closes (opener i : Instruction) : Bool :=
  i.isBracket && i != opener

namespace Program

variable {p : Program} {opener : Instruction} {stride : Int}

/-- The instruction at a position, if that lies inside of the program. -/
def instruction? (p : Program) (position : Int) : Option Instruction :=
  if position < 0 then none else p.fetch? position.toNat

/-- A search step by step, from a position on and with some levels open inside the one of the
opener, to the place where it ends, or to none when it leaves the program. Nothing bounds the number
of steps. -/
inductive Searches (p : Program) (opener : Instruction) (stride : Int) :
    Int → Nat → Option Nat → Prop
  | leaves {position : Int} {nested : Nat} : p.instruction? (position + stride) = none →
      Searches p opener stride position nested none
  | opens {position : Int} {nested : Nat} {answer : Option Nat} :
      p.instruction? (position + stride) = some opener →
      Searches p opener stride (position + stride) (nested + 1) answer →
      Searches p opener stride position nested answer
  | passes {position : Int} {nested : Nat} {answer : Option Nat} {i : Instruction} :
      p.instruction? (position + stride) = some i → i ≠ opener → i.isBracket = false →
      Searches p opener stride (position + stride) nested answer →
      Searches p opener stride position nested answer
  | closes {position : Int} {nested : Nat} {answer : Option Nat} {i : Instruction} :
      p.instruction? (position + stride) = some i → i ≠ opener → i.isBracket = true →
      Searches p opener stride (position + stride) nested answer →
      Searches p opener stride position (nested + 1) answer
  | ends {position : Int} {i : Instruction} :
      p.instruction? (position + stride) = some i → i ≠ opener → i.isBracket = true →
      Searches p opener stride position 0 (some (position + stride).toNat)

/-- How many of the instructions that a search meets in its first steps pass a test. The one at its
origin is not among them. -/
def met (p : Program) (test : Instruction → Bool) (origin : Nat) (stride : Int) (steps : Nat) :
    Nat :=
  (List.range' 1 steps).countP fun step : Nat =>
    (p.instruction? (origin + step * stride)).any test

/-- The first steps of a search stay inside of the program, and among the instructions that it meets
there is one more that closes a level than there are that open one. -/
structure ClosedAfter (p : Program) (opener : Instruction) (origin : Nat) (stride : Int)
    (steps : Nat) : Prop where
  inside : ∀ step : Nat, 1 ≤ step → step ≤ steps →
    0 ≤ origin + step * stride ∧ origin + step * stride < p.size
  surplus : p.met opener.closes origin stride steps = p.met (· == opener) origin stride steps + 1

instance (p : Program) (opener : Instruction) (origin : Nat) (stride : Int) (steps : Nat) :
    Decidable (p.ClosedAfter opener origin stride steps) :=
  decidable_of_iff
    ((∀ step ∈ List.range' 1 steps,
        0 ≤ origin + (step : Int) * stride ∧ origin + (step : Int) * stride < p.size) ∧
      p.met opener.closes origin stride steps = p.met (· == opener) origin stride steps + 1)
    ⟨fun ⟨inside, surplus⟩ =>
        ⟨fun step first last => inside step (List.mem_range'_1.mpr ⟨first, by omega⟩), surplus⟩,
      fun closed => ⟨fun step member => by
        obtain ⟨first, last⟩ := List.mem_range'_1.mp member
        exact closed.inside step first (by omega), closed.surplus⟩⟩

/-! ## Positions inside and outside -/

theorem instruction?_isSome_iff {position : Int} :
    (p.instruction? position).isSome = true ↔ 0 ≤ position ∧ position < p.size := by
  unfold instruction?
  split
  · simp
    omega
  · rw [Option.isSome_iff_ne_none, ne_eq, fetch?_eq_none_iff]
    omega

theorem instruction?_eq_none_iff {position : Int} :
    p.instruction? position = none ↔ ¬(0 ≤ position ∧ position < p.size) := by
  rw [← instruction?_isSome_iff, Option.not_isSome_iff_eq_none]

/-- As many steps as there are instructions lead out of the program. -/
theorem outside_of_size {origin : Nat} (inside : origin < p.size) (moves : stride ≠ 0) :
    ¬(0 ≤ origin + p.size * stride ∧ origin + p.size * stride < p.size) := by
  rcases Int.lt_or_gt_of_ne moves with back | ahead
  · have far : (p.size : Int) * stride ≤ p.size * -1 :=
      Int.mul_le_mul_of_nonneg_left (by omega) (by omega)
    omega
  · have far : (p.size : Int) * 1 ≤ p.size * stride :=
      Int.mul_le_mul_of_nonneg_left (by omega) (by omega)
    omega

/-! ## The search comes to an end -/

theorem matchFrom_succ (p : Program) (opener : Instruction) (stride : Int) (fuel : Nat)
    (position : Int) (nested : Nat) :
    p.matchFrom opener stride (fuel + 1) position nested =
      match p.instruction? (position + stride) with
      | none => none
      | some i =>
        if i = opener then p.matchFrom opener stride fuel (position + stride) (nested + 1)
        else if i.isBracket then
          match nested with
          | 0 => some (position + stride).toNat
          | nested + 1 => p.matchFrom opener stride fuel (position + stride) nested
        else p.matchFrom opener stride fuel (position + stride) nested := by
  simp only [matchFrom, instruction?]
  split <;> rfl

/-- With as much fuel as it takes to leave the program, the search that counts its fuel does what
the search without any does. -/
theorem searches_matchFrom {fuel : Nat} {position : Int} (nested : Nat)
    (leaves : ∃ step : Nat, 1 ≤ step ∧ step ≤ fuel ∧
      p.instruction? (position + step * stride) = none) :
    p.Searches opener stride position nested (p.matchFrom opener stride fuel position nested) := by
  induction fuel generalizing position nested with
  | zero =>
    obtain ⟨step, first, last, _⟩ := leaves
    omega
  | succ fuel ih =>
    rw [matchFrom_succ]
    cases met : p.instruction? (position + stride) with
    | none => exact .leaves met
    | some i =>
      -- The step that leaves the program is not this one, so it is one of the rest.
      have later : ∃ step : Nat, 1 ≤ step ∧ step ≤ fuel ∧
          p.instruction? (position + stride + step * stride) = none := by
        obtain ⟨step, first, last, outside⟩ := leaves
        obtain ⟨step, rfl⟩ := Nat.exists_eq_add_of_le' first
        have same : position + ((step + 1 : Nat) : Int) * stride =
            position + stride + step * stride := by
          push_cast
          ring
        rw [same] at outside
        cases step with
        | zero =>
          rw [Nat.cast_zero, zero_mul, add_zero, met] at outside
          cases outside
        | succ step => exact ⟨step + 1, by omega, by omega, outside⟩
      by_cases opens : i = opener
      · subst opens
        simpa using .opens met (ih (nested + 1) later)
      by_cases bracket : i.isBracket = true
      · cases nested with
        | zero => simpa [opens, bracket] using .ends met opens bracket
        | succ nested => simpa [opens, bracket] using .closes met opens bracket (ih nested later)
      · simpa [opens, bracket] using .passes met opens (by simpa using bracket) (ih nested later)

theorem Searches.unique {position : Int} {nested : Nat} {answer other : Option Nat}
    (first : p.Searches opener stride position nested answer)
    (second : p.Searches opener stride position nested other) : answer = other := by
  induction first generalizing other with
  | leaves outside => cases second <;> grind
  | opens opening _ ih => cases second <;> grind
  | passes passed plain noBracket _ ih => cases second <;> grind
  | closes passed differs bracket _ ih => cases second <;> grind
  | ends passed differs bracket => cases second <;> grind

/-- A search that moves comes to an end, in one way. -/
theorem searches_iff {origin : Nat} (inside : origin < p.size) (moves : stride ≠ 0)
    {answer : Option Nat} : p.Searches opener stride origin 0 answer ↔
      answer = p.partner? opener origin stride := by
  have ended : p.Searches opener stride origin 0 (p.partner? opener origin stride) :=
    searches_matchFrom 0
      ⟨p.size, by omega, le_rfl, instruction?_eq_none_iff.mpr (outside_of_size inside moves)⟩
  constructor
  · intro searched
    exact searched.unique ended
  · rintro rfl
    exact ended

end Program

/-! ## Where a scan ends, by its surplus -/

theorem net_eq_countP (opener : Instruction) (l : List Instruction) :
    net opener l = l.countP (· == opener) - l.countP opener.closes := by
  induction l with
  | nil => rfl
  | cons i rest ih =>
    rw [net_cons, ih, List.countP_cons, List.countP_cons]
    by_cases opens : i = opener
    · simp [opens, Instruction.closes]
      ring
    by_cases bracket : i.isBracket = true
    · simp [opens, bracket, Instruction.closes, Instruction.weight_closer bracket opens]
      ring
    · simp [opens, bracket, Instruction.closes, Instruction.weight_other bracket opens]

theorem neg_one_le_weight (opener i : Instruction) : -1 ≤ opener.weight i := by
  unfold Instruction.weight
  split
  · decide
  · split <;> decide

theorem net_take_le_succ (opener : Instruction) (l : List Instruction) (k : Nat) :
    net opener (l.take k) ≤ net opener (l.take (k + 1)) + 1 := by
  rw [List.take_add_one, net_append]
  cases l[k]? with
  | none => simp
  | some i =>
    have bound := neg_one_le_weight opener i
    simp
    omega

/-- A scan ends behind the first place at which one more level is closed than open. -/
theorem scan_zero_eq_some_iff_first {opener : Instruction} {l : List Instruction} {k : Nat} :
    scan opener 0 l = some k ↔
      k < l.length ∧ net opener (l.take (k + 1)) = -1 ∧ ∀ j ≤ k, net opener (l.take j) ≠ -1 := by
  rw [scan_eq_some_iff le_rfl]
  simp only [zero_add]
  constructor
  · rintro ⟨inside, below, before⟩
    have level := before k le_rfl
    have step := net_take_le_succ opener l k
    refine ⟨inside, by omega, fun j first => ?_⟩
    have level := before j first
    omega
  · rintro ⟨inside, surplus, before⟩
    refine ⟨inside, by omega, fun j => ?_⟩
    induction j with
    | zero => simp
    | succ j ih =>
      -- One step lowers the level by one at most, and it does not get to minus one.
      intro first
      have level := ih (Nat.le_of_succ_le first)
      have step := net_take_le_succ opener l j
      have differs := before (j + 1) first
      omega

/-! ## What a search meets -/

namespace Program

variable {p : Program} {opener : Instruction} {stride : Int} {origin : Nat}

theorem passed_succ (p : Program) (stride : Int) (fuel : Nat) (position : Int) :
    p.passed stride (fuel + 1) position =
      match p.instruction? (position + stride) with
      | none => []
      | some i => i :: p.passed stride fuel (position + stride) := by
  simp only [passed, instruction?]
  split <;> rfl

/-- A search passes the instructions at the places that it reaches, until it leaves the program. -/
theorem getElem?_passed {fuel : Nat} {position : Int} {step : Nat}
    (within : step < (p.passed stride fuel position).length) :
    (p.passed stride fuel position)[step]? =
      p.instruction? (position + (step + 1 : Nat) * stride) := by
  induction fuel generalizing position step with
  | zero => simp [passed] at within
  | succ fuel ih =>
    rw [passed_succ] at within ⊢
    cases reached : p.instruction? (position + stride) with
    | none => simp [reached] at within
    | some i =>
      simp only [reached, List.length_cons] at within ⊢
      cases step with
      | zero => simpa using reached.symm
      | succ step =>
        rw [List.getElem?_cons_succ, ih (by omega)]
        congr 1
        push_cast
        ring

/-- A search whose first steps stay inside passes at least as many instructions. -/
theorem le_length_passed {fuel : Nat} {position : Int} {steps : Nat} (enough : steps ≤ fuel)
    (inside : ∀ step : Nat, 1 ≤ step → step ≤ steps →
      0 ≤ position + step * stride ∧ position + step * stride < p.size) :
    steps ≤ (p.passed stride fuel position).length := by
  induction fuel generalizing position steps with
  | zero => exact enough.trans (Nat.zero_le _)
  | succ fuel ih =>
    cases steps with
    | zero => exact Nat.zero_le _
    | succ steps =>
      have first := instruction?_isSome_iff.mpr (inside 1 le_rfl (by omega))
      rw [Nat.cast_one, one_mul] at first
      obtain ⟨i, reached⟩ := Option.isSome_iff_exists.mp first
      simp only [passed_succ, reached, List.length_cons]
      refine Nat.succ_le_succ (ih (Nat.le_of_succ_le_succ enough) fun step from1 to1 => ?_)
      have next := inside (step + 1) (by omega) (by omega)
      have same : position + ((step + 1 : Nat) : Int) * stride =
          position + stride + step * stride := by
        push_cast
        ring
      rwa [same] at next

/-- The instructions that a search meets are those at the front of what it passes. -/
theorem met_eq_countP (test : Instruction → Bool) {fuel steps : Nat}
    (within : steps ≤ (p.passed stride fuel origin).length) :
    p.met test origin stride steps = ((p.passed stride fuel origin).take steps).countP test := by
  induction steps with
  | zero => rfl
  | succ steps ih =>
    rw [met] at ih ⊢
    rw [List.range'_1_concat, List.countP_append, ih (Nat.le_of_succ_le within),
      List.take_add_one, List.countP_append, getElem?_passed within, Nat.add_comm 1 steps]
    simp only [List.countP_singleton]
    cases p.instruction? (origin + (steps + 1 : Nat) * stride) with
    | none => simp
    | some i => simp [List.countP_singleton]

theorem ClosedAfter.le_size {steps : Nat} (inside : origin < p.size) (moves : stride ≠ 0)
    (closed : p.ClosedAfter opener origin stride steps) : steps ≤ p.size := by
  apply Decidable.byContradiction
  intro beyond
  exact outside_of_size inside moves (closed.inside p.size (by omega) (by omega))

theorem closedAfter_iff {steps : Nat} (inside : origin < p.size) (moves : stride ≠ 0) :
    p.ClosedAfter opener origin stride steps ↔
      steps ≤ (p.passed stride p.size origin).length ∧
        net opener ((p.passed stride p.size origin).take steps) = -1 := by
  constructor
  · intro closed
    have within := le_length_passed (closed.le_size inside moves) closed.inside
    have surplus := closed.surplus
    rw [met_eq_countP _ within, met_eq_countP _ within] at surplus
    rw [net_eq_countP]
    exact ⟨within, by omega⟩
  · rintro ⟨within, surplus⟩
    rw [net_eq_countP, ← met_eq_countP _ within, ← met_eq_countP _ within] at surplus
    refine ⟨fun step first last => ?_, by omega⟩
    obtain ⟨step, rfl⟩ := Nat.exists_eq_add_of_le' first
    have reached := getElem?_passed (lt_of_lt_of_le last within)
    rw [List.getElem?_eq_getElem (lt_of_lt_of_le last within)] at reached
    exact instruction?_isSome_iff.mp (by rw [← reached]; rfl)

/-! ## What a search finds -/

theorem partner?_eq_some_iff (inside : origin < p.size) (moves : stride ≠ 0) {found : Nat} :
    p.partner? opener origin stride = some found ↔
      ∃ steps : Nat, IsLeast {k | 1 ≤ k ∧ p.ClosedAfter opener origin stride k} steps ∧
        (found : Int) = origin + steps * stride := by
  rw [partner?, matchFrom_eq_scan, Option.map_eq_some_iff]
  simp only [scan_zero_eq_some_iff_first, Nat.cast_zero]
  constructor
  · rintro ⟨k, ⟨within, surplus, before⟩, rfl⟩
    have closed := (closedAfter_iff inside moves).mpr ⟨within, surplus⟩
    have place := (closed.inside (k + 1) (by omega) le_rfl).1
    refine ⟨k + 1, ⟨⟨by omega, closed⟩, fun steps sought => ?_⟩, ?_⟩
    · apply Decidable.byContradiction
      intro earlier
      exact before steps (by omega) ((closedAfter_iff inside moves).mp sought.2).2
    · push_cast at place ⊢
      omega
  · rintro ⟨steps, ⟨⟨first, closed⟩, least⟩, place⟩
    obtain ⟨k, rfl⟩ := Nat.exists_eq_add_of_le' first
    obtain ⟨within, surplus⟩ := (closedAfter_iff inside moves).mp closed
    refine ⟨k, ⟨within, surplus, fun j earlier net => ?_⟩, by push_cast at place; omega⟩
    -- An earlier surplus would belong to a search of fewer steps, and none has one at its origin.
    cases j with
    | zero => simp at net
    | succ j =>
      have sought := (closedAfter_iff inside moves).mpr ⟨by omega, net⟩
      have later := least ⟨by omega, sought⟩
      omega

theorem partner?_eq_none_iff (inside : origin < p.size) (moves : stride ≠ 0) :
    p.partner? opener origin stride = none ↔
      ∀ steps, 1 ≤ steps → ¬p.ClosedAfter opener origin stride steps := by
  constructor
  · intro none steps first closed
    classical
    have sought : ∃ k, 1 ≤ k ∧ p.ClosedAfter opener origin stride k := ⟨steps, first, closed⟩
    have least := Nat.isLeast_find sought
    have place := (least.1.2.inside _ least.1.1 le_rfl).1
    have found := (partner?_eq_some_iff inside moves).mpr ⟨_, least, Int.toNat_of_nonneg place⟩
    rw [none] at found
    cases found
  · intro never
    rw [Option.eq_none_iff_forall_ne_some]
    intro found search
    obtain ⟨steps, ⟨⟨first, closed⟩, _⟩, _⟩ := (partner?_eq_some_iff inside moves).mp search
    exact never steps first closed

end Program

end TapeMachine

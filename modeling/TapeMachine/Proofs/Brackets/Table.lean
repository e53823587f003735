import Mathlib.Data.List.Induction
import TapeMachine.Proofs.Brackets.Balance

/-!
# A table of partners

All matching brackets of a program can be found in one pass from left to right. An opening bracket
is put on a stack, a closing one takes the top of the stack for its partner, and what finds an empty
stack or is left on it in the end has no partner.

The stack holds what the search back from the next position would find, one entry for each level,
so the pass and the search agree.

Results:
1. `accounts_read`, `accounts_pass`: what one step of the pass keeps, and so the whole pass.
2. `partner?_pass_forward`, `partner?_pass_backward`: the table has the partners that the searches
   find, for brackets with and without one.
-/

namespace TapeMachine

/-- A pass under way: the positions of the opening brackets that wait for a partner, the innermost
first, and the pairs found, each with its opening bracket first. -/
structure Pairing where
  waiting : List Nat
  pairs : List (Nat × Nat)
deriving DecidableEq, Repr

namespace Pairing

/-- The pass before the first instruction. -/
def start : Pairing := ⟨[], []⟩

/-- Reads the instruction at a position. -/
def read (t : Pairing) : Instruction × Nat → Pairing
  | (.jumpForward, position) => { t with waiting := position :: t.waiting }
  | (.jumpBackward, position) =>
    match t.waiting with
    | [] => t
    | opening :: waiting => ⟨waiting, (opening, position) :: t.pairs⟩
  | _ => t

/-- The pass over a whole program. -/
def pass (p : Program) : Pairing :=
  p.toList.zipIdx.foldl read start

/-- The partner of a position, looked up from either side. -/
def partner? (t : Pairing) (position : Nat) : Option Nat :=
  t.pairs.findSome? fun (opening, closing) =>
    if position = opening then some closing
    else if position = closing then some opening
    else none

theorem waiting_read_close (t : Pairing) (position : Nat) :
    (t.read (.jumpBackward, position)).waiting = t.waiting.tail := by
  obtain ⟨waiting, pairs⟩ := t
  cases waiting <;> rfl

theorem mem_pairs_read_close {t : Pairing} {position opening closing : Nat} :
    (opening, closing) ∈ (t.read (.jumpBackward, position)).pairs ↔
      (opening, closing) ∈ t.pairs ∨ closing = position ∧ t.waiting[0]? = some opening := by
  obtain ⟨waiting, pairs⟩ := t
  cases waiting with
  | nil => simp [read]
  | cons top waiting => simp [read, eq_comm, or_comm, and_comm]

/-! ## What the pass has found -/

/-- The pass has read a front of a program. It has on the stack, at each depth, what the search back
with so many levels open finds, and among the pairs every closing bracket with its partner. -/
structure Accounts (front : List Instruction) (t : Pairing) : Prop where
  waiting : ∀ depth : Nat, t.waiting[depth]? =
    (scan .jumpBackward depth front.reverse).map (front.length - 1 - ·)
  pairs : ∀ opening closing, (opening, closing) ∈ t.pairs ↔
    front[closing]? = some .jumpBackward ∧
      (scan .jumpBackward 0 (front.take closing).reverse).map (closing - 1 - ·) = some opening

theorem accounts_start : Accounts [] start := by
  constructor
  · intro depth
    simp [start, scan]
  · intro opening closing
    simp [start]

/-- The search back behind one instruction more. -/
theorem scan_snoc (front : List Instruction) (i : Instruction) (depth : Nat) :
    (scan .jumpBackward depth (front ++ [i]).reverse).map ((front ++ [i]).length - 1 - ·) =
      if (depth : Int) + Instruction.weight .jumpBackward i < 0 then some front.length
      else (scan .jumpBackward (depth + Instruction.weight .jumpBackward i) front.reverse).map
        (front.length - 1 - ·) := by
  rw [List.reverse_append, List.reverse_singleton, List.singleton_append, scan,
    List.length_append, List.length_singleton]
  split
  · rfl
  · rw [Option.map_map]
    congr 1
    funext k
    simp only [Function.comp_apply]
    omega

/-- One instruction more adds a pair only if it closes. -/
theorem pairs_snoc (front : List Instruction) (i : Instruction) (opening closing : Nat) :
    ((front ++ [i])[closing]? = some .jumpBackward ∧
      (scan .jumpBackward 0 ((front ++ [i]).take closing).reverse).map (closing - 1 - ·) =
        some opening) ↔
    (front[closing]? = some .jumpBackward ∧
      (scan .jumpBackward 0 (front.take closing).reverse).map (closing - 1 - ·) =
        some opening) ∨
    i = .jumpBackward ∧ closing = front.length ∧
      (scan .jumpBackward 0 front.reverse).map (front.length - 1 - ·) = some opening := by
  rcases Nat.lt_trichotomy closing front.length with inside | rfl | beyond
  · rw [List.getElem?_append_left inside, List.take_append_of_le_length (Nat.le_of_lt inside)]
    simp [Nat.ne_of_lt inside]
  · simp
  · have outside : (front ++ [i])[closing]? = none := by
      rw [List.getElem?_eq_none_iff, List.length_append, List.length_singleton]
      exact beyond
    rw [outside, List.getElem?_eq_none (Nat.le_of_lt beyond)]
    simp [Nat.ne_of_gt beyond]

theorem accounts_read {front : List Instruction} {t : Pairing} (accounts : Accounts front t)
    (i : Instruction) : Accounts (front ++ [i]) (t.read (i, front.length)) := by
  have plain : Instruction.weight .jumpBackward i = 0 → i ≠ .jumpBackward →
      Accounts (front ++ [i]) t := by
    intro level differs
    refine ⟨?_, fun opening closing => ?_⟩
    · intro depth
      rw [scan_snoc, level, Int.add_zero, if_neg (by omega), accounts.waiting]
    · rw [pairs_snoc, accounts.pairs]
      simp [differs]
  cases i with
  | jumpForward =>
    refine ⟨?_, fun opening closing => ?_⟩
    · intro depth
      rw [scan_snoc, Instruction.weight_closer rfl (by decide)]
      -- The position is put on top, and what waited at some depth waits one deeper.
      cases depth with
      | zero => rfl
      | succ depth =>
        have below : ((depth + 1 : Nat) : Int) + -1 = depth := by omega
        rw [below, if_neg (by omega), ← accounts.waiting]
        rfl
    · rw [pairs_snoc, ← accounts.pairs]
      simp [read]
  | jumpBackward =>
    refine ⟨?_, fun opening closing => ?_⟩
    · intro depth
      -- The top is taken off, and what waited one deeper waits at this depth.
      have above : (depth : Int) + 1 = ((depth + 1 : Nat) : Int) := by omega
      rw [scan_snoc, Instruction.weight_self, if_neg (by omega), above, ← accounts.waiting,
        waiting_read_close, List.getElem?_tail]
    · have top := accounts.waiting 0
      rw [Nat.cast_zero] at top
      rw [mem_pairs_read_close, pairs_snoc, accounts.pairs, top]
      simp
  | _ => exact plain (by decide) (by decide)

theorem accounts_pass (p : Program) : Accounts p.toList (pass p) := by
  have fronts : ∀ l : List Instruction, Accounts l (l.zipIdx.foldl read start) := by
    intro l
    -- The pass reads one instruction more at the end, so the fronts grow there.
    induction l using List.reverseRecOn with
    | nil => exact accounts_start
    | append_singleton front i ih =>
      rw [List.zipIdx_append, List.foldl_append]
      simpa using accounts_read ih i
  exact fronts p.toList

theorem mem_pairs_pass {p : Program} {opening closing : Nat} :
    (opening, closing) ∈ (pass p).pairs ↔ p.Matched opening closing := by
  rw [(accounts_pass p).pairs, ← Program.fetch?_eq]
  constructor
  · rintro ⟨closes, found⟩
    have inside : closing < p.size := Program.lt_size_of_fetch? closes
    rw [← Program.partner?_backward _ (Nat.le_of_lt inside)] at found
    exact (Program.partner?_backward_eq_some_iff closes).mp found
  · intro matched
    have inside : closing < p.size := Program.lt_size_of_fetch? matched.closes
    rw [← Program.partner?_backward _ (Nat.le_of_lt inside)]
    exact ⟨matched.closes, (Program.partner?_backward_eq_some_iff matched.closes).mpr matched⟩

/-! ## Looking partners up -/

theorem mem_of_partner? {t : Pairing} {position other : Nat}
    (found : t.partner? position = some other) :
    (position, other) ∈ t.pairs ∨ (other, position) ∈ t.pairs := by
  obtain ⟨⟨opening, closing⟩, member, named⟩ := List.exists_of_findSome?_eq_some found
  simp only at named
  split at named
  · next same => cases named; exact .inl (same ▸ member)
  · split at named
    · next same => cases named; exact .inr (same ▸ member)
    · cases named

theorem partner?_isSome {t : Pairing} {opening closing : Nat}
    (member : (opening, closing) ∈ t.pairs) :
    (t.partner? opening).isSome = true ∧ (t.partner? closing).isSome = true := by
  simp only [partner?, List.findSome?_isSome_iff]
  refine ⟨⟨_, member, by simp⟩, _, member, ?_⟩
  simp only
  split <;> simp

/-- What is looked up is what a search finds, if the pairs of the position are what it finds. -/
theorem partner?_eq {t : Pairing} {position : Nat} {found : Option Nat}
    (paired : ∀ other, found = some other ↔
      (position, other) ∈ t.pairs ∨ (other, position) ∈ t.pairs) :
    t.partner? position = found := by
  cases looked : t.partner? position with
  | some other => exact ((paired other).mpr (mem_of_partner? looked)).symm
  | none =>
    cases found with
    | none => rfl
    | some other =>
      rcases (paired other).mp rfl with member | member
      · have present := (partner?_isSome member).1
        rw [looked] at present
        cases present
      · have present := (partner?_isSome member).2
        rw [looked] at present
        cases present

theorem partner?_pass_forward {p : Program} {opening : Nat}
    (opens : p.fetch? opening = some .jumpForward) :
    (pass p).partner? opening = p.partner? .jumpForward opening 1 := by
  apply partner?_eq
  intro other
  rw [Program.partner?_forward_eq_some_iff opens, mem_pairs_pass, mem_pairs_pass]
  constructor
  · exact .inl
  · rintro (matched | matched)
    · exact matched
    · -- An opening bracket closes nothing.
      have closes := matched.closes
      rw [opens] at closes
      cases closes

theorem partner?_pass_backward {p : Program} {closing : Nat}
    (closes : p.fetch? closing = some .jumpBackward) :
    (pass p).partner? closing = p.partner? .jumpBackward closing (-1) := by
  apply partner?_eq
  intro other
  rw [Program.partner?_backward_eq_some_iff closes, mem_pairs_pass, mem_pairs_pass]
  constructor
  · exact .inr
  · rintro (matched | matched)
    · have opens := matched.opens
      rw [closes] at opens
      cases opens
    · exact matched

end Pairing

end TapeMachine

import TapeMachine.Proofs.Brackets.Strides
import TapeMachine.Proofs.Machine.Partners
import TapeMachine.Session

/-!
# Asking a session for a partner

A session can be asked for the partner of any instruction, a bracket or not, in the direction of any
stride. The answer is told from the program alone: it is the first place on the way at which the
brackets that close a level outnumber the instructions like the one at the origin. If the way leaves
the program before, the session answers with a fault at the origin. Nothing is changed by asking.

Results:
1. `perform_findMatch`: the search is answered, and the session is as before.
2. `findMatch_by_surplus`: the answer, for every stride but zero.
-/

namespace TapeMachine

/-- What a session answers when a search was made. -/
def Answer.ofSearch : Except Failure Nat → Answer
  | .ok position => .found position
  | .error failure => .failed failure

namespace Session

open Machine

theorem perform_findMatch (s : Session) (fuel origin : Nat) (stride : Int) :
    s.perform fuel (.findMatch origin stride) =
      some (s, .ofSearch (findMatch s.program origin stride)) := by
  simp only [perform]
  cases findMatch s.program origin stride <;> rfl

/-- A search from behind the program is out of range. From any instruction inside, and with any
stride that moves, it comes to an end: at the place after the least number of steps that stay inside
and meet one closing bracket more than instructions like that at the origin, or, if no number of
steps does, with a fault that names the instruction at the origin and its position. In no case does
a session change that is asked for it. -/
theorem findMatch_by_surplus (p : Program) (origin : Nat) {stride : Int} (moves : stride ≠ 0) :
    (findMatch p origin stride = .error .outOfRange ↔ p.size ≤ origin) ∧
    (∀ opener, p.fetch? origin = some opener →
      p.Searches opener stride origin 0 (findMatch p origin stride).toOption ∧
      (∀ found, findMatch p origin stride = .ok found ↔
        ∃ steps : Nat, IsLeast {k | 1 ≤ k ∧ p.ClosedAfter opener origin stride k} steps ∧
          (found : Int) = origin + steps * stride) ∧
      (findMatch p origin stride = .error (.fault (.unmatchedBracket opener origin)) ↔
        ∀ steps, 1 ≤ steps → ¬p.ClosedAfter opener origin stride steps) ∧
      (Fault.unmatchedBracket opener origin).report =
        .unmatchedBracket (toString opener.symbol) origin) ∧
    ∀ s : Session, s.program = p → ∀ fuel,
      s.perform fuel (.findMatch origin stride) =
        some (s, .ofSearch (findMatch p origin stride)) := by
  refine ⟨findMatch_eq_outOfRange_iff, fun opener fetched => ?_, fun s same fuel => ?_⟩
  · have inside := Program.lt_size_of_fetch? fetched
    refine ⟨?_, fun found => ?_, ?_, rfl⟩
    · rw [Program.searches_iff inside moves, toOption_findMatch fetched]
    · rw [findMatch_eq_ok_iff fetched, Program.partner?_eq_some_iff inside moves]
    · rw [findMatch_eq_unmatched_iff fetched, Program.partner?_eq_none_iff inside moves]
  · rw [perform_findMatch, same]

/-- From an increment two steps at a time, the second closing bracket is found because another
increment is met before the first. From that bracket back the search leaves the program. -/
theorem findMatch_by_surplus_strides :
    let p := Program.ofList [.increment, .jumpForward, .increment, .output, .jumpBackward,
      .decrement, .jumpBackward]
    ((2 : Int) ≠ 0 ∧ findMatch p 0 2 = .ok 6) ∧ (-2 : Int) ≠ 0 ∧
      findMatch p 6 (-2) = .error (.fault (.unmatchedBracket .jumpBackward 6)) ∧
      findMatch p 7 (-2) = .error .outOfRange := by
  intro p
  have ahead : (2 : Int) ≠ 0 := by decide
  have back : (-2 : Int) ≠ 0 := by decide
  have least : IsLeast {k | 1 ≤ k ∧ p.ClosedAfter .increment 0 2 k} 3 := by
    refine ⟨by decide, fun k ⟨first, closed⟩ => ?_⟩
    have earlier : ∀ k < 3, ¬p.ClosedAfter .increment 0 2 k := by decide
    exact Nat.not_lt.mp fun before => earlier k before closed
  have never : ∀ steps, 1 ≤ steps → ¬p.ClosedAfter .jumpBackward 6 (-2) steps := by
    intro steps first closed
    have inside : ∀ steps ≤ 7, ¬p.ClosedAfter .jumpBackward 6 (-2) steps := by decide
    exact inside steps (closed.le_size (by decide) back) closed
  obtain ⟨_, found, _⟩ := (findMatch_by_surplus p 0 ahead).2.1 .increment rfl
  obtain ⟨_, _, unmatched, _⟩ := (findMatch_by_surplus p 6 back).2.1 .jumpBackward rfl
  exact ⟨⟨ahead, (found 6).mpr ⟨3, least, by decide⟩⟩, back, unmatched.mpr never,
    (findMatch_by_surplus p 7 back).1.mpr (by decide)⟩

end Session

end TapeMachine

import TapeMachine.Machine
import TapeMachine.Proofs.Structured.Code

/-!
# Evaluation of structured code

Structured code is evaluated by its structure, without jumps and without an instruction cursor. A
sequence is evaluated from left to right; a loop evaluates its body again and again as long as the
cell under the data cursor is not zero. Each basic instruction is one step. A loop costs one step
when it is entered and one more for each round.

An evaluation that fails says where in the text the instruction stands that failed. One that goes on
forever has no result.

Results:
1. `inside_of_evaluates`: the data cursor stays on the tape.
-/

namespace TapeMachine

/-- What code works on: the tape with a place on it, the input and the output. -/
structure Store where
  tape : Tape
  dataCursor : Nat
  input : Input
  output : Output
deriving DecidableEq

/-- How an evaluation ends: what it leaves after how many steps and, if it fails, at which position
of the text and why. -/
inductive Evaluation
  | finished (store : Store) (steps : Nat)
  | failed (store : Store) (steps position : Nat) (failure : Failure)
deriving DecidableEq

namespace Evaluation

/-- The evaluation with some steps in front of it. -/
def after (earlier : Nat) : Evaluation → Evaluation
  | .finished store steps => .finished store (earlier + steps)
  | .failed store steps position failure => .failed store (earlier + steps) position failure

/-- What the evaluation leaves. -/
def store : Evaluation → Store
  | .finished store _ => store
  | .failed store _ _ _ => store

@[simp] theorem store_after (earlier : Nat) (e : Evaluation) : (e.after earlier).store = e.store := by
  cases e <;> rfl

end Evaluation

/-! ## Basic instructions -/

namespace Store

/-- The data cursor is on the tape. -/
def Inside (s : Store) : Prop :=
  s.dataCursor < tapeSize

/-- The cell under the data cursor. -/
def cell (s : Store) : UInt8 :=
  s.tape.get s.dataCursor

/-- The store with another byte under the data cursor. -/
def put (s : Store) (value : UInt8) : Store :=
  { s with tape := s.tape.set s.dataCursor value }

/-- What a basic instruction at a position of the text does. -/
def act (s : Store) (position : Nat) : Basic → Evaluation
  | .moveRight =>
    if s.dataCursor + 1 < tapeSize then .finished { s with dataCursor := s.dataCursor + 1 } 1
    else .failed s 1 position (.fault (.offTape position tapeSize))
  | .moveLeft =>
    match s.dataCursor with
    | 0 => .failed s 1 position (.fault (.offTape position (-1)))
    | place + 1 => .finished { s with dataCursor := place } 1
  | .increment => .finished (s.put (s.cell + 1)) 1
  | .decrement => .finished (s.put (s.cell - 1)) 1
  | .output =>
    match s.output.write [s.cell] with
    | .ok output => .finished { s with output := output.flush } 1
    | .error error => .failed s 1 position (.system error)
  | .input =>
    let t := { s with input := s.input.advance }
    match s.input.peek with
    | .byte value => .finished (t.put value) 1
    | .noData => .finished t 1
    | .endOfInput => .finished t 1
    | .systemError error => .failed t 1 position (.fault (.unreadableInput position error))
    | .refusal message => .failed t 1 position (.refused message)

theorem cell_put {s : Store} (inside : s.Inside) (value : UInt8) : (s.put value).cell = value := by
  show (s.tape.set s.dataCursor value).get s.dataCursor = value
  rw [Tape.get_set s.tape inside, if_pos rfl]

end Store

/-! ## Sequences and loops -/

/-- One evaluation after another. If the first one fails, the second one is not begun. -/
inductive Then (first second : Store → Evaluation → Prop) : Store → Evaluation → Prop
  | passed {s t : Store} {steps : Nat} {e : Evaluation} :
      first s (.finished t steps) → second t e → Then first second s (e.after steps)
  | failed {s t : Store} {steps position : Nat} {failure : Failure} :
      first s (.failed t steps position failure) →
      Then first second s (.failed t steps position failure)

/-- A body evaluated as long as the cell is not zero, with one step more for each round. -/
inductive Rounds (body : Store → Evaluation → Prop) : Store → Evaluation → Prop
  | stop {s : Store} : s.cell = 0 → Rounds body s (.finished s 0)
  | round {s t : Store} {steps : Nat} {e : Evaluation} :
      s.cell ≠ 0 → body s (.finished t steps) → Rounds body t e →
      Rounds body s (e.after (steps + 1))
  | failed {s t : Store} {steps position : Nat} {failure : Failure} :
      s.cell ≠ 0 → body s (.failed t steps position failure) →
      Rounds body s (.failed t steps position failure)

/-- The evaluation of a loop whose body is given: one step to enter it, and then its rounds. -/
def Loop (body : Store → Evaluation → Prop) (s : Store) (e : Evaluation) : Prop :=
  ∃ rounds, Rounds body s rounds ∧ e = rounds.after 1

namespace Code

/-- The evaluation of code whose first instruction stands at a position of the text. -/
def Evaluates : Code → Nat → Store → Evaluation → Prop
  | .done, _, s, e => e = .finished s 0
  | .basic b rest, position, s, e =>
    Then (fun s e => e = s.act position b) (rest.Evaluates (position + 1)) s e
  | .loop body rest, position, s, e =>
    Then (Loop (body.Evaluates (position + 1))) (rest.Evaluates (position + body.size + 2)) s e

end Code

/-! ## The data cursor stays on the tape -/

theorem Store.inside_act {s : Store} (inside : s.Inside) (position : Nat) (b : Basic) :
    (s.act position b).store.Inside := by
  cases b with
  | moveRight =>
    simp only [act]
    split
    · next bound => exact bound
    · exact inside
  | moveLeft =>
    simp only [act]
    split
    · exact inside
    · next place here =>
      have bound : s.dataCursor < tapeSize := inside
      rw [here] at bound
      exact Nat.lt_of_succ_lt bound
  | output =>
    simp only [act]
    split <;> exact inside
  | input =>
    simp only [act]
    split <;> exact inside
  | _ => exact inside

theorem inside_of_then {first second : Store → Evaluation → Prop} {s : Store} {e : Evaluation}
    (firstInside : ∀ {s e}, s.Inside → first s e → e.store.Inside)
    (secondInside : ∀ {s e}, s.Inside → second s e → e.store.Inside)
    (inside : s.Inside) (evaluated : Then first second s e) : e.store.Inside := by
  cases evaluated with
  | passed before behind =>
    rw [Evaluation.store_after]
    exact secondInside (firstInside inside before) behind
  | failed before => exact firstInside inside before

theorem inside_of_rounds {body : Store → Evaluation → Prop} {s : Store} {e : Evaluation}
    (bodyInside : ∀ {s e}, s.Inside → body s e → e.store.Inside)
    (inside : s.Inside) (evaluated : Rounds body s e) : e.store.Inside := by
  induction evaluated with
  | stop _ => exact inside
  | round _ once _ ih =>
    rw [Evaluation.store_after]
    exact ih (bodyInside inside once)
  | failed _ once => exact bodyInside inside once

theorem inside_of_loop {body : Store → Evaluation → Prop} {s : Store} {e : Evaluation}
    (bodyInside : ∀ {s e}, s.Inside → body s e → e.store.Inside)
    (inside : s.Inside) (evaluated : Loop body s e) : e.store.Inside := by
  obtain ⟨rounds, evaluated, rfl⟩ := evaluated
  rw [Evaluation.store_after]
  exact inside_of_rounds bodyInside inside evaluated

theorem Code.inside_of_evaluates {c : Code} {position : Nat} {s : Store} {e : Evaluation}
    (inside : s.Inside) (evaluated : c.Evaluates position s e) : e.store.Inside := by
  induction c generalizing position s e with
  | done =>
    cases evaluated
    exact inside
  | basic b rest ih =>
    refine inside_of_then ?_ ih inside evaluated
    rintro s e inside rfl
    exact Store.inside_act inside position b
  | loop body rest bodyIh restIh =>
    exact inside_of_then (inside_of_loop bodyIh) restIh inside evaluated

end TapeMachine

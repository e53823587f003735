import TapeMachine.Proofs.Machine.Runs
import TapeMachine.Proofs.Structured.Evaluation

/-!
# The machine evaluates structured code

The machine has no loops, only jumps. On a well-bracketed program it nevertheless does what the
evaluation of the tree of the program says, with the same failures and the same number of steps.

Both brackets of a loop lead to the same place: behind the loop if the cell is zero, to the start of
the body if it is not. So a loop is under way exactly at one of these two places, and there the
rounds of its evaluation begin.

Results:
1. `follows_of_evaluates`: the machine follows every evaluation of code that stands in its program.
2. `exists_evaluates`: if the machine comes to an end, the evaluation has a result.
3. `run_iff_evaluates`: runs of a well-bracketed program are the evaluations of its tree.
-/

namespace TapeMachine

/-- What a machine works on. -/
def Machine.store (m : Machine) : Store :=
  ⟨m.tape, m.dataCursor, m.input, m.output⟩

/-- The machine that works on a store, at a position of its program and after some steps. -/
def Store.machine (s : Store) (instCursor steps : Nat) : Machine :=
  ⟨s.tape, s.dataCursor, instCursor, steps, s.input, s.output⟩

/-- What a machine is left with that has done what an evaluation says: after one that has finished
it is at the exit of the code, after one that has failed at the instruction that did. -/
def Evaluation.outcome (earlier exit : Nat) : Evaluation → Outcome
  | .finished s steps => ⟨s.machine exit (earlier + steps), none⟩
  | .failed s steps position failure => ⟨s.machine position (earlier + steps), some failure⟩

open Machine

/-! ## Single steps -/

theorem step_basic {p : Program} {s : Store} (inside : s.Inside) {position : Nat} {b : Basic}
    (fetched : p.fetch? position = some b.instruction) (earlier : Nat) :
    (s.machine position earlier).step p = (s.act position b).outcome earlier (position + 1) := by
  have here : p.fetch? (s.machine position earlier).instCursor = some b.instruction := fetched
  have bound : s.dataCursor < tapeSize := inside
  rw [step_of_act here (by cases b <;> rfl)]
  cases b with
  | moveRight =>
    simp only [Basic.instruction, Machine.act, Store.act]
    by_cases room : s.dataCursor + 1 < tapeSize
    · rw [if_pos room, moveDataCursor_inside (Int.natCast_succ s.dataCursor).symm room]
      rfl
    · -- The evaluation names the end of the tape, the machine the place it would move to.
      have last : (s.dataCursor : Int) + 1 = tapeSize := by omega
      rw [if_neg room, moveDataCursor_off last (by omega) (by decide)]
      rfl
  | moveLeft =>
    obtain ⟨tape, place, input, output⟩ := s
    simp only [Basic.instruction, Machine.act, Store.act]
    cases place with
    | zero =>
      have below : ((0 : Nat) : Int) + -1 = -1 := rfl
      rw [moveDataCursor_off below (by decide) (by decide)]
      rfl
    | succ place =>
      rw [moveDataCursor_inside (Int.add_sub_cancel (place : Int) 1) (Nat.lt_of_succ_lt bound)]
      rfl
  | output =>
    have same : (s.machine position earlier).tick.output = s.output := rfl
    simp only [Basic.instruction, Machine.act, writeCell, Store.act, Output.write,
      List.length_singleton]
    rw [same]
    cases s.output.refusal? 1 <;> rfl
  | input =>
    obtain ⟨tape, place, ⟨pending, reads⟩, output⟩ := s
    cases pending with
    | nil => rfl
    | cons event rest => cases event <;> rfl
  | _ => rfl

/-- A basic instruction is one step, also if it fails. -/
theorem act_cases (s : Store) (position : Nat) (b : Basic) :
    (∃ t, s.act position b = .finished t 1) ∨
      ∃ t failure, s.act position b = .failed t 1 position failure := by
  cases b <;> simp only [Store.act] <;> repeat' split
  all_goals first
    | exact .inl ⟨_, rfl⟩
    | exact .inr ⟨_, _, rfl⟩

/-- The place to which both brackets of a loop lead. -/
def Store.turn (s : Store) (opening closing : Nat) : Nat :=
  if s.cell = 0 then closing + 1 else opening + 1

theorem step_opening {p : Program} {opening closing : Nat} (matched : p.Matched opening closing)
    (s : Store) (earlier : Nat) : (s.machine opening earlier).step p =
      ⟨s.machine (s.turn opening closing) (earlier + 1), none⟩ := by
  have here : p.fetch? (s.machine opening earlier).instCursor = some .jumpForward := matched.opens
  have same : (s.machine opening earlier).cell = s.cell := rfl
  by_cases zero : s.cell = 0
  · have jumps : (s.machine opening earlier).jumpStride? .jumpForward = some 1 := by
      rw [jumpStride?, same, if_pos zero]
    have found := (Program.partner?_forward_eq_some_iff matched.opens).mpr matched
    rw [step_of_partner here jumps found, Store.turn, if_pos zero]
    rfl
  · have stays : (s.machine opening earlier).jumpStride? .jumpForward = none := by
      rw [jumpStride?, same, if_neg zero]
    rw [step_of_act here stays, Store.turn, if_neg zero]
    rfl

theorem step_closing {p : Program} {opening closing : Nat} (matched : p.Matched opening closing)
    (s : Store) (earlier : Nat) : (s.machine closing earlier).step p =
      ⟨s.machine (s.turn opening closing) (earlier + 1), none⟩ := by
  have here : p.fetch? (s.machine closing earlier).instCursor = some .jumpBackward :=
    matched.closes
  have same : (s.machine closing earlier).cell = s.cell := rfl
  by_cases zero : s.cell = 0
  · have stays : (s.machine closing earlier).jumpStride? .jumpBackward = none := by
      rw [jumpStride?, same, if_pos zero]
    rw [step_of_act here stays, Store.turn, if_pos zero]
    rfl
  · have jumps : (s.machine closing earlier).jumpStride? .jumpBackward = some (-1) := by
      rw [jumpStride?, same, if_neg zero]
    have found := (Program.partner?_backward_eq_some_iff matched.closes).mpr matched
    rw [step_of_partner here jumps found, Store.turn, if_neg zero]
    rfl

/-! ## Code that stands in a program -/

/-- Code stands in a program from a position on. -/
def Placed (p : Program) (c : Code) (position : Nat) : Prop :=
  ∃ front back, p.toList = front ++ c.instructions ++ back ∧ front.length = position

theorem Placed.basic {p : Program} {b : Basic} {rest : Code} {position : Nat}
    (placed : Placed p (.basic b rest) position) :
    p.fetch? position = some b.instruction ∧ Placed p rest (position + 1) := by
  obtain ⟨front, back, split, rfl⟩ := placed
  constructor
  · rw [Program.fetch?_eq, split, Code.instructions]
    simp
  · exact ⟨front ++ [b.instruction], back, by simp [split, Code.instructions], by simp⟩

theorem Placed.loop {p : Program} {body rest : Code} {position : Nat}
    (placed : Placed p (.loop body rest) position) :
    p.Matched position (position + body.size + 1) ∧ Placed p body (position + 1) ∧
      Placed p rest (position + body.size + 2) := by
  obtain ⟨front, back, split, rfl⟩ := placed
  unfold Code.instructions at split
  -- The same text, parted at the closing bracket in place of the opening one.
  have closing : front.length + body.size + 1 =
      (front ++ .jumpForward :: body.instructions).length := by
    simp [Code.size, Nat.add_assoc]
  have parted : p.toList = (front ++ .jumpForward :: body.instructions) ++
      .jumpBackward :: (rest.instructions ++ back) := by
    simp [split]
  refine ⟨⟨?_, ?_, by omega, ?_⟩, ?_, ?_⟩
  · rw [Program.fetch?_eq, split]
    simp
  · rw [Program.fetch?_eq, closing, parted]
    simp
  · rw [closing, parted, List.take_left, ← List.singleton_append, ← List.append_assoc,
      List.drop_left' (by simp)]
    exact body.balanced_instructions
  · exact ⟨front ++ [.jumpForward], .jumpBackward :: (rest.instructions ++ back),
      by simp [split], by simp⟩
  · refine ⟨front ++ .jumpForward :: (body.instructions ++ [.jumpBackward]), back,
      by simp [split], ?_⟩
    simp [Code.size]
    omega

theorem Placed.whole {p : Program} {c : Code} (written : c.instructions = p.toList) :
    Placed p c 0 :=
  ⟨[], [], by simp [written], rfl⟩

/-! ## The machine follows the evaluation -/

/-- The machine does what an evaluation says: if it finishes, it leads from the entry of the code to
its exit in as many steps, and if it fails, a run from the entry ends with this failure. -/
def Follows (p : Program) (entry exit : Nat) (s : Store) : Evaluation → Prop
  | .finished t steps => ∀ earlier,
    Steps p steps (s.machine entry earlier) (t.machine exit (earlier + steps))
  | .failed t steps position failure => ∀ earlier,
    ∃ n, Ends p n (s.machine entry earlier)
      ((Evaluation.failed t steps position failure).outcome earlier exit)

theorem Follows.after {p : Program} {entry middle exit : Nat} {s t : Store} {steps : Nat}
    {e : Evaluation} (first : Follows p entry middle s (.finished t steps))
    (second : Follows p middle exit t e) : Follows p entry exit s (e.after steps) := by
  cases e with
  | finished u more =>
    intro earlier
    rw [← Nat.add_assoc]
    exact (first earlier).trans (second (earlier + steps))
  | failed u more position failure =>
    intro earlier
    obtain ⟨n, ends⟩ := second (earlier + steps)
    refine ⟨steps + n, Ends.of_steps (first earlier) ?_⟩
    rwa [Evaluation.outcome, ← Nat.add_assoc]

theorem follows_basic {p : Program} {s : Store} (inside : s.Inside) {position : Nat} {b : Basic}
    (fetched : p.fetch? position = some b.instruction) :
    Follows p position (position + 1) s (s.act position b) := by
  have stepped := step_basic inside fetched
  rcases act_cases s position b with ⟨t, acted⟩ | ⟨t, failure, acted⟩
  · rw [acted] at stepped ⊢
    intro earlier
    exact .one (halted_eq_false_iff.mpr ⟨_, fetched⟩) (stepped earlier)
  · rw [acted] at stepped ⊢
    intro earlier
    exact ⟨0, .failed (stepped earlier)⟩

/-- The rounds of a loop, from the place to which its brackets lead. The induction is on the rounds:
behind each round stands the closing bracket, and it leads to the next one. -/
theorem follows_rounds {p : Program} {opening closing : Nat} (matched : p.Matched opening closing)
    {body : Store → Evaluation → Prop} (bodyInside : ∀ {s e}, s.Inside → body s e → e.store.Inside)
    (bodyFollows : ∀ {s e}, s.Inside → body s e → Follows p (opening + 1) closing s e)
    {s : Store} {e : Evaluation} (inside : s.Inside) (rounds : Rounds body s e) :
    Follows p (s.turn opening closing) (closing + 1) s e := by
  have running : ∀ (s : Store) earlier, (s.machine closing earlier).halted p = false :=
    fun s earlier => halted_eq_false_iff.mpr ⟨_, matched.closes⟩
  induction rounds with
  | @stop s zero =>
    intro earlier
    rw [Store.turn, if_pos zero]
    exact .refl _
  | @round s t steps e nonzero once _ ih =>
    rw [Store.turn, if_neg nonzero]
    have back : Follows p closing (t.turn opening closing) t (.finished t 1) :=
      fun earlier => .one (running t earlier) (step_closing matched t earlier)
    have around := (bodyFollows inside once).after back
    exact around.after (ih (bodyInside inside once))
  | failed nonzero once =>
    rw [Store.turn, if_neg nonzero]
    exact bodyFollows inside once

theorem follows_loop {p : Program} {opening closing : Nat} (matched : p.Matched opening closing)
    {body : Store → Evaluation → Prop} (bodyInside : ∀ {s e}, s.Inside → body s e → e.store.Inside)
    (bodyFollows : ∀ {s e}, s.Inside → body s e → Follows p (opening + 1) closing s e)
    {s : Store} {e : Evaluation} (inside : s.Inside) (evaluated : Loop body s e) :
    Follows p opening (closing + 1) s e := by
  obtain ⟨e, rounds, rfl⟩ := evaluated
  have enters : Follows p opening (s.turn opening closing) s (.finished s 1) := by
    intro earlier
    exact .one (halted_eq_false_iff.mpr ⟨_, matched.opens⟩) (step_opening matched s earlier)
  exact enters.after (follows_rounds matched bodyInside bodyFollows inside rounds)

theorem follows_then {p : Program} {entry middle exit : Nat}
    {first second : Store → Evaluation → Prop}
    (firstInside : ∀ {s e}, s.Inside → first s e → e.store.Inside)
    (firstFollows : ∀ {s e}, s.Inside → first s e → Follows p entry middle s e)
    (secondFollows : ∀ {s e}, s.Inside → second s e → Follows p middle exit s e)
    {s : Store} {e : Evaluation} (inside : s.Inside) (evaluated : Then first second s e) :
    Follows p entry exit s e := by
  cases evaluated with
  | passed before behind =>
    exact (firstFollows inside before).after (secondFollows (firstInside inside before) behind)
  | failed before => exact firstFollows inside before

theorem follows_of_evaluates {p : Program} {c : Code} {position : Nat} (placed : Placed p c position)
    {s : Store} {e : Evaluation} (inside : s.Inside) (evaluated : c.Evaluates position s e) :
    Follows p position (position + c.size) s e := by
  induction c generalizing position s e with
  | done =>
    cases evaluated
    exact fun earlier => .refl _
  | basic b rest ih =>
    obtain ⟨fetched, behind⟩ := placed.basic
    rw [Code.size_basic, Nat.add_comm rest.size 1, ← Nat.add_assoc]
    refine follows_then ?_ ?_ (ih behind) inside evaluated
    · rintro s e inside rfl
      exact Store.inside_act inside position b
    · rintro s e inside rfl
      exact follows_basic inside fetched
  | loop body rest bodyIh restIh =>
    obtain ⟨matched, within, behind⟩ := placed.loop
    have closing : position + 1 + body.size = position + body.size + 1 := by omega
    have exit : position + (Code.loop body rest).size = position + body.size + 2 + rest.size := by
      rw [Code.size_loop]
      omega
    have bodyFollows : ∀ {s e}, s.Inside → body.Evaluates (position + 1) s e →
        Follows p (position + 1) (position + body.size + 1) s e := by
      rw [← closing]
      exact bodyIh within
    rw [exit]
    refine follows_then (inside_of_loop Code.inside_of_evaluates) ?_ (restIh behind) inside evaluated
    intro s e inside evaluated
    exact follows_loop matched Code.inside_of_evaluates bodyFollows inside evaluated

/-! ## The evaluation follows the machine -/

theorem exists_then {p : Program} {entry middle : Nat} {first second : Store → Evaluation → Prop}
    (firstInside : ∀ {s e}, s.Inside → first s e → e.store.Inside)
    (firstFollows : ∀ {s e}, s.Inside → first s e → Follows p entry middle s e)
    (secondExists : ∀ {s : Store}, s.Inside → ∀ {earlier n o},
      Ends p n (s.machine middle earlier) o → ∃ e, second s e)
    {s : Store} (inside : s.Inside) {earlier n : Nat} {o : Outcome}
    (ends : Ends p n (s.machine entry earlier) o) (firstExists : ∃ e, first s e) :
    ∃ e, Then first second s e := by
  obtain ⟨e, before⟩ := firstExists
  cases e with
  | finished t steps =>
    have passed : Follows p entry middle s (.finished t steps) := firstFollows inside before
    obtain ⟨_, _, remaining⟩ := ends.after_steps (passed earlier)
    obtain ⟨e, behind⟩ := secondExists (firstInside inside before) remaining
    exact ⟨_, .passed before behind⟩
  | failed t steps position failure => exact ⟨_, .failed before⟩

/-- A run that is in a loop ends the loop. The induction is on the length of the run: a round takes
at least the step of the closing bracket, so what is left of the run behind it is shorter. -/
theorem exists_rounds {p : Program} {opening closing : Nat} (matched : p.Matched opening closing)
    {body : Store → Evaluation → Prop} (bodyInside : ∀ {s e}, s.Inside → body s e → e.store.Inside)
    (bodyFollows : ∀ {s e}, s.Inside → body s e → Follows p (opening + 1) closing s e)
    (bodyExists : ∀ {s : Store}, s.Inside → ∀ {earlier n o},
      Ends p n (s.machine (opening + 1) earlier) o → ∃ e, body s e)
    (n : Nat) {s : Store} (inside : s.Inside) {earlier : Nat} {o : Outcome}
    (ends : Ends p n (s.machine (s.turn opening closing) earlier) o) : ∃ e, Rounds body s e := by
  induction n using Nat.strong_induction_on generalizing s earlier with
  | _ n ih =>
    by_cases zero : s.cell = 0
    · exact ⟨_, .stop zero⟩
    · rw [Store.turn, if_neg zero] at ends
      obtain ⟨e, once⟩ := bodyExists inside ends
      cases e with
      | finished t steps =>
        have around : Follows p (opening + 1) closing s (.finished t steps) :=
          bodyFollows inside once
        have still : t.Inside := bodyInside inside once
        obtain ⟨k, rfl, remaining⟩ := ends.after_steps (around earlier)
        -- The step back makes the rest of the run shorter, also if the body is empty.
        have running : (t.machine closing (earlier + steps)).halted p = false :=
          halted_eq_false_iff.mpr ⟨_, matched.closes⟩
        have back := Steps.one running (step_closing matched t (earlier + steps))
        obtain ⟨rest, rfl, next⟩ := remaining.after_steps back
        obtain ⟨e, rounds⟩ := ih rest (by omega) still next
        exact ⟨_, .round zero once rounds⟩
      | failed t steps position failure => exact ⟨_, .failed zero once⟩

theorem exists_evaluates {p : Program} {c : Code} {position : Nat} (placed : Placed p c position)
    {s : Store} (inside : s.Inside) {earlier n : Nat} {o : Outcome}
    (ends : Ends p n (s.machine position earlier) o) : ∃ e, c.Evaluates position s e := by
  induction c generalizing position s earlier n o with
  | done => exact ⟨_, rfl⟩
  | basic b rest ih =>
    obtain ⟨fetched, behind⟩ := placed.basic
    refine exists_then ?_ ?_ (ih behind) inside ends ⟨_, rfl⟩
    · rintro s e inside rfl
      exact Store.inside_act inside position b
    · rintro s e inside rfl
      exact follows_basic inside fetched
  | loop body rest bodyIh restIh =>
    obtain ⟨matched, within, behind⟩ := placed.loop
    have closing : position + 1 + body.size = position + body.size + 1 := by omega
    have bodyFollows : ∀ {s e}, s.Inside → body.Evaluates (position + 1) s e →
        Follows p (position + 1) (position + body.size + 1) s e := by
      rw [← closing]
      exact follows_of_evaluates within
    refine exists_then (inside_of_loop Code.inside_of_evaluates) ?_ (restIh behind) inside ends ?_
    · intro s e inside evaluated
      exact follows_loop matched Code.inside_of_evaluates bodyFollows inside evaluated
    · -- The run goes on behind the opening bracket, where the loop is under way.
      have enters := Steps.one (halted_eq_false_iff.mpr ⟨_, matched.opens⟩)
        (step_opening matched s earlier)
      obtain ⟨_, _, remaining⟩ := ends.after_steps enters
      obtain ⟨rounds, evaluated⟩ := exists_rounds matched Code.inside_of_evaluates bodyFollows
        (bodyIh within) _ inside remaining
      exact ⟨_, rounds, evaluated, rfl⟩

/-! ## Runs of well-bracketed programs -/

theorem Follows.ends {p : Program} {entry : Nat} {s : Store} {e : Evaluation}
    (follows : Follows p entry p.size s e) (earlier : Nat) :
    ∃ n, Ends p n (s.machine entry earlier) (e.outcome earlier p.size) := by
  cases e with
  | finished t steps =>
    have halted : (t.machine p.size (earlier + steps)).halted p = true :=
      decide_eq_true (Nat.le_refl p.size)
    exact ⟨steps + 0, Ends.of_steps (follows earlier) (.halted halted)⟩
  | failed t steps position failure => exact follows earlier

/-- A well-bracketed program is the text of exactly one tree, and the machine that starts at its
front evaluates the tree. It has an outcome exactly if the evaluation has one. After an evaluation
that has finished the run is over at the end of the program; one that has failed is a run that fails
at the same instruction, for the same reason. The tape, the data cursor, the input, the output and
the steps are those of the evaluation. -/
theorem run_iff_evaluates {p : Program} (balanced : p.WellBracketed) {m : Machine}
    (front : m.instCursor = 0) (onTape : m.dataCursor < tapeSize) :
    ∃ c : Code, (∀ other : Code, other.instructions = p.toList ↔ other = c) ∧
      ∀ o : Outcome, (∃ fuel, m.run p fuel = some o) ↔
        ∃ e, c.Evaluates 0 m.store e ∧ o = e.outcome m.steps p.size := by
  obtain ⟨c, tree⟩ := exists_code balanced
  have written : c.instructions = p.toList := (tree c).mpr rfl
  have whole : c.size = p.size := by rw [Code.size, written, Program.length_toList]
  refine ⟨c, tree, fun o => ?_⟩
  have inside : m.store.Inside := onTape
  have same : m.store.machine 0 m.steps = m := by
    rw [← front]
    rfl
  have follows : ∀ {e}, c.Evaluates 0 m.store e → Follows p 0 p.size m.store e := by
    intro e evaluated
    have done := follows_of_evaluates (Placed.whole written) inside evaluated
    rwa [Nat.zero_add, whole] at done
  rw [exists_run_iff, ← same]
  constructor
  · rintro ⟨n, ends⟩
    -- The evaluation has some result, and its outcome is the one of the run, as a run has only one.
    obtain ⟨e, evaluated⟩ := exists_evaluates (Placed.whole written) inside ends
    obtain ⟨k, done⟩ := (follows evaluated).ends m.steps
    exact ⟨e, evaluated, (ends.unique done).2⟩
  · rintro ⟨e, evaluated, rfl⟩
    exact (follows evaluated).ends m.steps

/-- A cell is raised and counted down again in one round: four steps. -/
theorem run_countdown :
    let p := Program.ofList [.increment, .jumpForward, .decrement, .jumpBackward]
    p.WellBracketed ∧ ∃ fuel after, (Machine.fresh (.ofEvents []) (.empty none)).run p fuel =
      some ⟨after, none⟩ ∧ after.instCursor = p.size ∧ after.steps = 4 ∧ after.cell = 0 := by
  intro p
  have balanced : p.WellBracketed := by decide
  let m := Machine.fresh (.ofEvents []) (.empty none)
  have inside : m.store.Inside := show 0 < tapeSize by decide
  obtain ⟨c, tree, runs⟩ := run_iff_evaluates balanced (m := m) rfl inside
  have parsed : Code.basic .increment (.loop (.basic .decrement .done) .done) = c :=
    (tree _).mp rfl
  let raised := m.store.put (m.store.cell + 1)
  have one : raised.cell = 1 := by
    have blank : m.store.cell = 0 := Tape.get_blank 0
    rw [Store.cell_put inside, blank]
    decide
  let lowered := raised.put (raised.cell - 1)
  have zero : lowered.cell = 0 := by
    rw [Store.cell_put (s := raised) inside, one]
    decide
  have body : (Code.basic .decrement .done).Evaluates 2 raised (.finished lowered 1) :=
    @Then.passed _ _ raised lowered 1 (.finished lowered 0) rfl rfl
  have rounds : Rounds (Code.Evaluates (.basic .decrement .done) 2) raised (.finished lowered 2) :=
    @Rounds.round _ raised lowered 1 (.finished lowered 0) (by rw [one]; decide) body (.stop zero)
  have loop : (Code.loop (.basic .decrement .done) .done).Evaluates 1 raised (.finished lowered 3) :=
    @Then.passed _ _ raised lowered 3 (.finished lowered 0) ⟨_, rounds, rfl⟩ rfl
  have evaluated : c.Evaluates 0 m.store (.finished lowered 4) := by
    rw [← parsed]
    exact @Then.passed _ _ m.store raised 1 (.finished lowered 3) rfl loop
  obtain ⟨fuel, ran⟩ := (runs _).mpr ⟨_, evaluated, rfl⟩
  exact ⟨balanced, fuel, _, ran, rfl, rfl, zero⟩

end TapeMachine

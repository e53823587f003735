import TapeMachine.Proofs.Brackets.Balance
import TapeMachine.Proofs.Machine.Effects
import TapeMachine.Proofs.Machine.Record

/-!
# Progress

A step moves the instruction cursor ahead, or it is a jump back from a closing bracket. Between two
jumps back the machine comes to each position at most once, so a run takes no more steps than the
program has instructions, once for each jump back and once more. What is counted is what the jumps
back leave: the cursor, and the size of the program for each of them, is never less than the number
of steps.

Results:
1. `instCursor_of_step`: where a step leads.
2. `Steps.instCursor_add_le`: what the steps and the jumps back of a run have to do with each other.
3. `prolonged_by_jumps_back`: how long a run gets, and what a run without an end does.
4. `run_of_empty_loop`: a run without an end.
-/

namespace TapeMachine.Machine

variable {p : Program} {m last after : Machine} {n : Nat}

/-! ## Jumps back -/

/-- The step of the machine is a jump back that is taken. -/
def JumpsBack (p : Program) (m : Machine) : Prop :=
  p.fetch? m.instCursor = some .jumpBackward ∧ m.cell ≠ 0 ∧ (m.step p).failure? = none

instance (p : Program) (m : Machine) : Decidable (m.JumpsBack p) :=
  inferInstanceAs (Decidable (_ ∧ _ ∧ _))

/-- How many of so many attempts, from a state on, are jumps back that are taken. -/
def backJumps (p : Program) (attempts : Nat) (m : Machine) : Nat :=
  (course p attempts m).countP fun state => state.JumpsBack p

theorem backJumps_succ (p : Program) (attempts : Nat) (m : Machine) :
    backJumps p (attempts + 1) m =
      backJumps p attempts (m.step p).machine + if m.JumpsBack p then 1 else 0 := by
  simp only [backJumps, course, List.countP_cons, decide_eq_true_eq]

theorem backJumps_eq_zero (steps : Steps p n m last)
    (never : ∀ k state, Steps p k m state → ¬state.JumpsBack p) : backJumps p n m = 0 := by
  induction steps with
  | refl => rfl
  | @more n m next last running stepped _ ih =>
    rw [backJumps_succ, stepped, if_neg (never 0 m (.refl m)), Nat.add_zero]
    exact ih fun k state later => never (k + 1) state (.more running stepped later)

/-! ## Where a step leads -/

theorem instCursor_of_step (running : m.halted p = false) (stepped : m.step p = ⟨after, none⟩) :
    (¬m.JumpsBack p → m.instCursor < after.instCursor) ∧
      (m.JumpsBack p → after.instCursor ≤ m.instCursor) := by
  have taken := step_cases p m
  rw [stepped] at taken
  cases taken with
  | halted fetched =>
    obtain ⟨i, here⟩ := halted_eq_false_iff.mp running
    rw [fetched] at here
    cases here
  | @jumped i stride partner fetched jumps found =>
    -- A jump leads right behind the partner, which stands ahead of an opening bracket and before a
    -- closing one.
    rcases jumpStride?_eq_some jumps with ⟨rfl, rfl⟩ | ⟨rfl, rfl⟩
    · have matched := (Program.partner?_forward_eq_some_iff fetched).mp found
      refine ⟨fun _ => Nat.lt_succ_of_lt matched.ordered, ?_⟩
      rintro ⟨closes, _⟩
      rw [fetched] at closes
      cases closes
    · have matched := (Program.partner?_backward_eq_some_iff fetched).mp found
      have nonzero : m.cell ≠ 0 := by
        intro zero
        rw [jumpStride?, if_pos zero] at jumps
        cases jumps
      have back : m.JumpsBack p := ⟨fetched, nonzero, by rw [stepped]⟩
      exact ⟨fun ahead => absurd back ahead, fun _ => matched.ordered⟩
  | @acted i after fetched stays acted =>
    have still := instCursor_act m.tick i
    rw [acted] at still
    have here : after.instCursor = m.instCursor := still
    refine ⟨fun _ => Nat.lt_succ_of_le (Nat.le_of_eq here.symm), ?_⟩
    rintro ⟨closes, nonzero, _⟩
    rw [fetched] at closes
    cases closes
    rw [jumpStride?, if_neg nonzero] at stays
    cases stays

/-! ## How many steps there are -/

/-- A step ahead adds one to both sides. A jump back takes away less than the size of the
program. -/
theorem Steps.instCursor_add_le (steps : Steps p n m last) :
    m.instCursor + n ≤ p.size * backJumps p n m + last.instCursor := by
  induction steps with
  | refl => exact Nat.le_add_left _ _
  | @more n m next last running stepped _ ih =>
    by_cases back : m.JumpsBack p
    · have counted : backJumps p (n + 1) m = backJumps p n next + 1 := by
        rw [backJumps_succ, stepped, if_pos back]
      have inside := inside_of_running running
      rw [counted, Nat.mul_add, Nat.mul_one]
      omega
    · have counted : backJumps p (n + 1) m = backJumps p n next := by
        rw [backJumps_succ, stepped, if_neg back, Nat.add_zero]
      have further := (instCursor_of_step running stepped).1 back
      rw [counted]
      omega

theorem Steps.succ_le (steps : Steps p n m last) (running : last.halted p = false) :
    n + 1 ≤ p.size * (backJumps p n m + 1) := by
  have counted := steps.instCursor_add_le
  have inside := inside_of_running running
  rw [Nat.mul_add, Nat.mul_one]
  omega

theorem Steps.le (steps : Steps p n m last) : n ≤ p.size * (backJumps p n m + 1) := by
  have counted := steps.instCursor_add_le
  cases steps with
  | refl => exact Nat.zero_le _
  | more running stepped rest =>
    have inProgram : m.instCursor ≤ p.size := Nat.le_of_lt (inside_of_running running)
    have still : last.instCursor ≤ p.size :=
      (Steps.more running stepped rest).keeps (fun m => (step_cases p m).inProgram) inProgram
    rw [Nat.mul_add, Nat.mul_one]
    omega

theorem Steps.steps_of_failed {failure : Failure} (steps : Steps p n m last)
    (failing : last.step p = ⟨after, some failure⟩) : after.steps = m.steps + (n + 1) := by
  have counted := steps_step (running_of_failed failing)
  rw [failing] at counted
  rw [counted, steps_of_steps steps, Nat.add_assoc]

/-- The steps that a run counts, the last one included if it fails. -/
theorem Ends.steps_le {o : Outcome} (ends : Ends p n m o) :
    o.machine.steps ≤ m.steps + p.size * (backJumps p n m + 1) := by
  obtain ⟨after, failure?⟩ := o
  cases failure? with
  | none =>
    have steps := (ends_halted_iff.mp ends).1
    rw [steps_of_steps steps]
    exact Nat.add_le_add_left steps.le _
  | some failure =>
    obtain ⟨last, steps, failing⟩ := ends_failed_iff.mp ends
    rw [steps.steps_of_failed failing]
    exact Nat.add_le_add_left (steps.succ_le (running_of_failed failing)) _

/-! ## Runs that end and runs that do not -/

/-- A run ends early, or there are as many steps as one likes. -/
theorem exists_ends_or_steps (p : Program) (n : Nat) (m : Machine) :
    (∃ k o, k < n ∧ Ends p k m o) ∨ ∃ last, Steps p n m last := by
  induction n generalizing m with
  | zero => exact .inr ⟨m, .refl m⟩
  | succ n ih =>
    cases running : m.halted p with
    | true => exact .inl ⟨0, ⟨m, none⟩, Nat.succ_pos n, .halted running⟩
    | false =>
      rcases stepped : m.step p with ⟨next, _ | failure⟩
      · rcases ih next with ⟨k, o, early, ends⟩ | ⟨last, steps⟩
        · exact .inl ⟨k + 1, o, Nat.succ_lt_succ early, .more running stepped ends⟩
        · exact .inr ⟨last, .more running stepped steps⟩
      · exact .inl ⟨0, ⟨next, some failure⟩, Nat.succ_pos n, .failed stepped⟩

/-- As long as no jump back is taken the run ends within one step for each instruction. -/
theorem exists_run_of_never (never : ∀ k state, Steps p k m state → ¬state.JumpsBack p) :
    ∃ o, m.run p (p.size + 1) = some o ∧ o.machine.steps ≤ m.steps + p.size := by
  rcases exists_ends_or_steps p (p.size + 1) m with ⟨k, o, early, ends⟩ | ⟨last, steps⟩
  · refine ⟨o, run_eq_some_iff.mpr ⟨k, early, ends⟩, ?_⟩
    have none : backJumps p k m = 0 := by
      rcases exists_ends_or_steps p k m with ⟨earlier, other, before, same⟩ | ⟨last, steps⟩
      · exact absurd (same.unique ends).1 (Nat.ne_of_lt before)
      · exact backJumps_eq_zero steps never
    have bound := ends.steps_le
    rwa [none, Nat.zero_add, Nat.mul_one] at bound
  · have bound := steps.le
    rw [backJumps_eq_zero steps never, Nat.zero_add, Nat.mul_one] at bound
    exact absurd bound (Nat.not_succ_le_self p.size)

theorem exists_jumpsBack (endless : ∀ fuel, m.run p fuel = none) :
    ∃ n last, Steps p n m last ∧ last.JumpsBack p := by
  apply Classical.byContradiction
  intro none
  obtain ⟨o, ran, _⟩ := exists_run_of_never fun k state steps back => none ⟨k, state, steps, back⟩
  rw [endless] at ran
  cases ran

/-- From any state, as long as no step fails: a step that is no jump back moves the instruction
cursor ahead, a jump back does not, and the steps are at most as many as the instructions of the
program times one more than the jumps back, also with a last step that fails. So a program without
closing brackets halts or fails within one step for each instruction, and in a run without an end
there is always another jump back to come. -/
theorem prolonged_by_jumps_back (p : Program) (m : Machine) :
    (∀ n last, Steps p n m last →
      (∀ after, last.halted p = false → last.step p = ⟨after, none⟩ →
        (¬last.JumpsBack p → last.instCursor < after.instCursor) ∧
        (last.JumpsBack p → after.instCursor ≤ last.instCursor)) ∧
      last.steps = m.steps + n ∧ n ≤ p.size * (backJumps p n m + 1) ∧
      ∀ after failure, last.step p = ⟨after, some failure⟩ →
        after.steps = m.steps + (n + 1) ∧ n + 1 ≤ p.size * (backJumps p n m + 1)) ∧
    ((∀ position, p.fetch? position ≠ some .jumpBackward) →
      ∃ o, m.run p (p.size + 1) = some o ∧ o.machine.steps ≤ m.steps + p.size) ∧
    ((∀ fuel, m.run p fuel = none) →
      ∀ k, ∃ n last, k ≤ n ∧ Steps p n m last ∧ last.JumpsBack p) := by
  refine ⟨fun n last steps => ⟨?_, steps_of_steps steps, steps.le, ?_⟩, fun unclosed => ?_,
    fun endless k => ?_⟩
  · intro after running stepped
    exact instCursor_of_step running stepped
  · intro after failure failing
    exact ⟨steps.steps_of_failed failing, steps.succ_le (running_of_failed failing)⟩
  · exact exists_run_of_never fun _ state _ back => unclosed state.instCursor back.1
  · rcases exists_ends_or_steps p k m with ⟨n, o, _, ends⟩ | ⟨middle, steps⟩
    · obtain ⟨fuel, ran⟩ := exists_run_iff.mpr ⟨n, ends⟩
      rw [endless] at ran
      cases ran
    · -- What is left of the run has no end either.
      have still : ∀ fuel, middle.run p fuel = none := by
        intro fuel
        rw [Option.eq_none_iff_forall_ne_some]
        intro o ran
        obtain ⟨enough, whole⟩ := (exists_run_iff_of_steps steps).mpr ⟨fuel, ran⟩
        rw [endless] at whole
        cases whole
      obtain ⟨n, last, more, back⟩ := exists_jumpsBack still
      exact ⟨k + n, last, Nat.le_add_right k n, steps.trans more, back⟩

/-- On a cell that is not zero, a loop without a body jumps from its closing bracket to this very
bracket, so a run from there has no end. -/
theorem run_of_empty_loop {opening : Nat} (matched : p.Matched opening (opening + 1))
    (here : m.instCursor = opening + 1) (nonzero : m.cell ≠ 0) (fuel : Nat) :
    m.run p fuel = none := by
  induction fuel generalizing m with
  | zero => rfl
  | succ fuel ih =>
    have fetched : p.fetch? m.instCursor = some .jumpBackward := by
      rw [here]
      exact matched.closes
    have jumps : m.jumpStride? .jumpBackward = some (-1) := by
      rw [jumpStride?, if_neg nonzero]
    have found : p.partner? .jumpBackward m.instCursor (-1) = some opening := by
      rw [here]
      exact (Program.partner?_backward_eq_some_iff matched.closes).mpr matched
    have running : m.halted p = false := halted_eq_false_iff.mpr ⟨_, fetched⟩
    rw [run, running, step_of_partner fetched jumps found]
    exact ih rfl nonzero

/-- A loop without a body jumps back as often as one likes. An opening bracket that is never closed
fails in the second step, and no run of its program takes more. -/
theorem prolonged_by_jumps_back_idle :
    let start := fresh (.ofEvents []) (.empty none)
    let p := Program.ofList [.jumpForward, .jumpBackward]
    let m := { start with instCursor := 1 }.setCell 1
    let q := Program.ofList [.moveRight, .jumpForward]
    (∀ fuel, m.run p fuel = none) ∧
      (∃ n last, 9 ≤ n ∧ Steps p n m last ∧ last.JumpsBack p ∧
        n ≤ p.size * (backJumps p n m + 1)) ∧
      (∀ position, q.fetch? position ≠ some .jumpBackward) ∧
      ∃ o, start.run q 3 = some o ∧ o.machine.steps ≤ 0 + 2 := by
  intro start p m q
  have matched : p.Matched 0 (0 + 1) := ⟨rfl, rfl, by decide, by decide⟩
  have nonzero : m.cell ≠ 0 := by
    show (Tape.blank.set 0 1).get 0 ≠ 0
    rw [Tape.get_set _ (by decide), if_pos rfl]
    decide
  have unclosed : ∀ position, q.fetch? position ≠ some .jumpBackward := by
    rintro (_ | _ | position) fetched <;> cases fetched
  have endless := run_of_empty_loop matched rfl nonzero
  obtain ⟨counted, _, recurring⟩ := prolonged_by_jumps_back p m
  obtain ⟨n, last, late, steps, back⟩ := recurring endless 9
  obtain ⟨_, _, bound, _⟩ := counted n last steps
  exact ⟨endless, ⟨n, last, late, steps, back, bound⟩, unclosed,
    (prolonged_by_jumps_back q start).2.1 unclosed⟩

end TapeMachine.Machine

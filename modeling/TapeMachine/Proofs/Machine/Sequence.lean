import TapeMachine.Proofs.Brackets.Append
import TapeMachine.Proofs.Machine.Effects
import TapeMachine.Proofs.Machine.JumpTable
import TapeMachine.Proofs.Machine.Runs

/-!
# Two programs in a row

The machine on two programs in a row does what it does on the first one, and then what it does on
the second one. Each loop of the first program has to be closed in it, or a jump out of the loop
could land in the second program. Nothing is asked of the second program.

The second program stands further on, so its positions are those of before with the size of the
first one added, in the instruction cursor and in the faults that name one. The steps go on from
those of the first program.

Results:
1. `step_append_left`, `step_append_right`: a step inside either program.
2. `Steps.append`, `Ends.of_append`: the run as long as it is in the first program.
3. `calls_append_right`, `run_append_right`: the run from where the second program begins.
4. `run_append`: the whole.
-/

namespace TapeMachine

/-! ## Moving positions -/

/-- The fault of an instruction that stands so much further on. -/
def Fault.shift (offset : Nat) : Fault → Fault
  | .unmatchedBracket opener position => .unmatchedBracket opener (offset + position)
  | .unreadableInput position cause => .unreadableInput (offset + position) cause
  | .offTape position cursor => .offTape (offset + position) cursor

/-- The failure of an instruction that stands so much further on. -/
def Failure.shift (offset : Nat) : Failure → Failure
  | .fault f => .fault (f.shift offset)
  | failure => failure

/-- The machine at an instruction so much further on, after so many steps more. -/
def Machine.shift (offset earlier : Nat) (m : Machine) : Machine :=
  { m with instCursor := offset + m.instCursor, steps := earlier + m.steps }

/-- The outcome of an instruction that stands so much further on, after so many steps more. -/
def Outcome.shift (offset earlier : Nat) (o : Outcome) : Outcome :=
  ⟨o.machine.shift offset earlier, o.failure?.map (Failure.shift offset)⟩

theorem Fault.position_shift (offset : Nat) (fault : Fault) :
    (fault.shift offset).position = offset + fault.position := by
  cases fault <;> rfl

namespace Machine

theorem next_shift (offset earlier : Nat) (o : Outcome) :
    (o.shift offset earlier).next = o.next.shift offset earlier := by
  obtain ⟨m, failure?⟩ := o
  cases failure? <;> rfl

theorem moveDataCursor_shift (offset earlier : Nat) (m : Machine) (distance : Int) :
    (m.shift offset earlier).moveDataCursor distance =
      (m.moveDataCursor distance).shift offset earlier := by
  have same : (m.shift offset earlier).dataCursor = m.dataCursor := rfl
  simp only [moveDataCursor, same]
  split
  · rfl
  · split <;> rfl

theorem readCell_shift (offset earlier : Nat) (m : Machine) :
    (m.shift offset earlier).readCell = m.readCell.shift offset earlier := by
  have same : (m.shift offset earlier).input = m.input := rfl
  simp only [readCell, same]
  cases m.input.peek <;> rfl

theorem writeCell_shift (offset earlier : Nat) (m : Machine) :
    (m.shift offset earlier).writeCell = m.writeCell.shift offset earlier := by
  have same : (m.shift offset earlier).output = m.output := rfl
  simp only [writeCell, same]
  cases m.output.refusal? 1 <;> rfl

theorem act_shift (offset earlier : Nat) (m : Machine) (i : Instruction) :
    (m.shift offset earlier).act i = (m.act i).shift offset earlier := by
  cases i with
  | moveRight => exact moveDataCursor_shift offset earlier m 1
  | moveLeft => exact moveDataCursor_shift offset earlier m (-1)
  | output => exact writeCell_shift offset earlier m
  | input => exact readCell_shift offset earlier m
  | _ => rfl

/-! ## One step -/

variable {p q : Program}

theorem step_append_left (closed : p.ClosesLoops) {m : Machine} (inside : m.instCursor < p.size)
    (q : Program) : m.step (p ++ q) = m.step p := by
  have same := Program.fetch?_append_left inside q
  cases fetched : p.fetch? m.instCursor with
  | none => exact absurd inside (Nat.not_lt.mpr (Program.fetch?_eq_none_iff.mp fetched))
  | some i =>
    rw [fetched] at same
    cases jumps : m.jumpStride? i with
    | none => rw [step_of_act fetched jumps, step_of_act same jumps]
    | some stride =>
      have partners := Program.partner?_append_left closed (jumpStride?_eq_some jumps) fetched q
      have ticked : p.fetch? m.tick.instCursor = some i := fetched
      have tickedSame : (p ++ q).fetch? m.tick.instCursor = some i := same
      rw [step_of_jump fetched jumps, step_of_jump same jumps, jump_of_fetch? ticked,
        jump_of_fetch? tickedSame]
      simp only [tick, partners]

theorem step_append_right (closed : p.ClosesLoops) (q : Program) (m : Machine) (earlier : Nat) :
    (m.shift p.size earlier).step (p ++ q) = (m.step q).shift p.size earlier := by
  have same := Program.fetch?_append_right p q m.instCursor
  cases fetched : q.fetch? m.instCursor with
  | none =>
    rw [fetched] at same
    have halted : (m.shift p.size earlier).step (p ++ q) = ⟨m.shift p.size earlier, none⟩ := by
      simp [step, shift, same]
    rw [halted, step, fetched]
    rfl
  | some i =>
    rw [fetched] at same
    have moved : (p ++ q).fetch? (m.shift p.size earlier).instCursor = some i := same
    have sameJump : (m.shift p.size earlier).jumpStride? i = m.jumpStride? i := rfl
    have ticks : (m.shift p.size earlier).tick = m.tick.shift p.size earlier := rfl
    cases jumps : m.jumpStride? i with
    | none =>
      rw [step_of_act moved (sameJump.trans jumps), step_of_act fetched jumps, ticks, act_shift,
        next_shift]
    | some stride =>
      have ticked : q.fetch? m.tick.instCursor = some i := fetched
      have tickedMoved : (p ++ q).fetch? (m.tick.shift p.size earlier).instCursor = some i := same
      have partners : (p ++ q).partner? i (m.tick.shift p.size earlier).instCursor stride =
          (q.partner? i m.tick.instCursor stride).map (p.size + ·) :=
        Program.partner?_append_right closed (jumpStride?_eq_some jumps) fetched
      rw [step_of_jump moved (sameJump.trans jumps), step_of_jump fetched jumps, ticks,
        jump_of_fetch? tickedMoved, jump_of_fetch? ticked, partners]
      cases q.partner? i m.tick.instCursor stride <;> rfl

/-! ## Runs in the first program -/

theorem running_append {m : Machine} (inside : m.instCursor < p.size) (q : Program) :
    m.halted (p ++ q) = false := by
  rw [halted, Program.size_append, decide_eq_false_iff_not]
  omega

theorem Steps.append (closed : p.ClosesLoops) {n : Nat} {m after : Machine}
    (steps : Steps p n m after) (q : Program) : Steps (p ++ q) n m after := by
  induction steps with
  | refl => exact .refl _
  | more running stepped _ ih =>
    have inside := inside_of_running running
    rw [← step_append_left closed inside q] at stepped
    exact .more (running_append inside q) stepped ih

/-- A failure in the first program is a failure of both. -/
theorem Ends.append_failed (closed : p.ClosesLoops) {n : Nat} {m after : Machine}
    {failure : Failure} (ends : Ends p n m ⟨after, some failure⟩) (q : Program) :
    Ends (p ++ q) n m ⟨after, some failure⟩ := by
  obtain ⟨last, steps, failing⟩ := ends_failed_iff.mp ends
  rw [← step_append_left closed (inside_of_running (running_of_failed failing)) q] at failing
  exact ends_failed_iff.mpr ⟨last, steps.append closed q, failing⟩

/-- A run on both programs that ends has come to the end of the first one, or has failed in it. -/
theorem Ends.of_append (closed : p.ClosesLoops) {n : Nat} {m : Machine} {o : Outcome}
    (ends : Ends (p ++ q) n m o) : ∃ k first, Ends p k m first := by
  induction ends with
  | @halted m halted =>
    refine ⟨0, _, .halted ?_⟩
    rw [Machine.halted, Program.size_append, decide_eq_true_iff] at halted
    exact decide_eq_true (Nat.le_of_add_right_le halted)
  | @failed m after failure failing =>
    cases halted : m.halted p with
    | true => exact ⟨0, _, .halted halted⟩
    | false =>
      rw [step_append_left closed (inside_of_running halted)] at failing
      exact ⟨0, _, .failed failing⟩
  | @more n m next o _ stepped _ ih =>
    cases halted : m.halted p with
    | true => exact ⟨0, _, .halted halted⟩
    | false =>
      rw [step_append_left closed (inside_of_running halted)] at stepped
      obtain ⟨k, first, ends⟩ := ih
      exact ⟨k + 1, first, .more halted stepped ends⟩

/-! ## Runs in the second program -/

theorem calls_append_right (closed : p.ClosesLoops) (q : Program) (count : Nat) (m : Machine)
    (earlier : Nat) : calls (step (p ++ q)) count (m.shift p.size earlier) =
      (calls (step q) count m).map (Outcome.shift p.size earlier) := by
  induction count generalizing m with
  | zero => rfl
  | succ count ih =>
    rw [calls, calls, List.map_cons, step_append_right closed]
    exact congrArg _ (ih (m.step q).machine)

theorem run_append_right (closed : p.ClosesLoops) (q : Program) (fuel : Nat) (m : Machine)
    (earlier : Nat) : (m.shift p.size earlier).run (p ++ q) fuel =
      (m.run q fuel).map (Outcome.shift p.size earlier) := by
  induction fuel generalizing m with
  | zero => rfl
  | succ fuel ih =>
    have halts : (m.shift p.size earlier).halted (p ++ q) = m.halted q := by
      simp [halted, shift]
    rw [run, run, halts, step_append_right closed]
    split
    · rfl
    · obtain ⟨after, failure?⟩ := m.step q
      cases failure? with
      | none => exact ih after
      | some failure => rfl

/-! ## The whole run -/

/-- The machine that has come to the end of the first program is the one that begins the second. -/
theorem shift_restart {m : Machine} (behind : m.instCursor = p.size) :
    ({ m with instCursor := 0, steps := 0 } : Machine).shift p.size m.steps = m := by
  obtain ⟨tape, dataCursor, instCursor, steps, input, output⟩ := m
  cases behind
  rfl

/-- Two programs in a row are run one after the other. As long as the first one is run, the steps
are those of the first one alone; so if it fails, both fail at the same position in the same state,
and if it goes on forever, both do. If the first one comes to its end, the second one is run from
there call by call as it would be run alone, with its positions behind those of the first program
and its steps counted on. -/
theorem run_append (closed : p.ClosesLoops) (q : Program) {m : Machine} (front : m.instCursor = 0) :
    (∀ {n after}, Steps p n m after → Steps (p ++ q) n m after) ∧
    (∀ {after failure}, (∃ fuel, m.run p fuel = some ⟨after, some failure⟩) →
      ∃ fuel, m.run (p ++ q) fuel = some ⟨after, some failure⟩) ∧
    ((∀ fuel, m.run p fuel = none) → ∀ fuel, m.run (p ++ q) fuel = none) ∧
    ∀ {middle}, (∃ fuel, m.run p fuel = some ⟨middle, none⟩) →
      let second : Machine := { middle with instCursor := 0, steps := 0 }
      (∃ n, Steps (p ++ q) n m middle ∧ middle.steps = m.steps + n) ∧
      middle.instCursor = p.size ∧
      (∀ count, calls (step (p ++ q)) count middle =
        (calls (step q) count second).map (Outcome.shift p.size middle.steps)) ∧
      ∀ o, (∃ fuel, m.run (p ++ q) fuel = some o) ↔
        ∃ fuel last, second.run q fuel = some last ∧ last.shift p.size middle.steps = o := by
  refine ⟨fun steps => steps.append closed q, ?_, ?_, ?_⟩
  · intro after failure ran
    obtain ⟨n, ends⟩ := exists_run_iff.mp ran
    exact exists_run_iff.mpr ⟨n, ends.append_failed closed q⟩
  · intro diverges fuel
    -- An end of the whole run would be one of the first program as well.
    cases ran : m.run (p ++ q) fuel with
    | none => rfl
    | some o =>
      obtain ⟨n, ends⟩ := exists_run_iff.mp ⟨fuel, ran⟩
      obtain ⟨k, first, firstEnds⟩ := ends.of_append closed
      obtain ⟨enough, firstRan⟩ := exists_run_iff.mpr ⟨k, firstEnds⟩
      rw [diverges enough] at firstRan
      cases firstRan
  · intro middle ran second
    obtain ⟨n, ends⟩ := exists_run_iff.mp ran
    obtain ⟨steps, _⟩ := ends_halted_iff.mp ends
    have behind := ends.instCursor_eq (front.trans_le (Nat.zero_le p.size))
    have restart : second.shift p.size middle.steps = middle := shift_restart behind
    refine ⟨⟨n, steps.append closed q, steps_of_steps steps⟩, behind, ?_, ?_⟩
    · intro count
      rw [← calls_append_right closed, restart]
    · intro o
      have same : ∀ fuel, middle.run (p ++ q) fuel =
          (second.run q fuel).map (Outcome.shift p.size middle.steps) := by
        intro fuel
        rw [← run_append_right closed, restart]
      simp only [exists_run_iff_of_steps (steps.append closed q), same, Option.map_eq_some_iff]

/-- A stray closing bracket and an empty loop in front of an opening bracket without a partner: both
programs are unbalanced. The second one fails at its first instruction, which is now the fourth. -/
theorem run_append_stray :
    let p := Program.ofList [.jumpBackward, .jumpForward, .jumpBackward]
    let m := fresh (.ofEvents []) (.empty none)
    p.ClosesLoops ∧ m.instCursor = 0 ∧ ∃ fuel after,
      m.run (p ++ .ofList [.jumpForward]) fuel =
        some ⟨after, some (.fault (.unmatchedBracket .jumpForward 3))⟩ ∧ after.steps = 3 := by
  intro p m
  have closed : p.ClosesLoops := by decide
  obtain ⟨_, _, _, halts⟩ := run_append closed (.ofList [.jumpForward]) (m := m) rfl
  obtain ⟨_, _, _, whole⟩ := @halts { m with instCursor := 3, steps := 2 } ⟨4, rfl⟩
  obtain ⟨fuel, ran⟩ := (whole _).mpr ⟨1, _, rfl, rfl⟩
  exact ⟨closed, rfl, fuel, _, ran, rfl⟩

end Machine

end TapeMachine

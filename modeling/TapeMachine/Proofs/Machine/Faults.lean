import TapeMachine.Proofs.Brackets.Append
import TapeMachine.Proofs.Machine.Effects

/-!
# When a step fails

Each instruction has its own reasons to fail, and they can be told from the state before the step:
where the data cursor stands, what the input meets next, whether the output takes a byte, and
whether a bracket that jumps has a partner. The table of these reasons is complete, so a machine
whose data cursor is on the tape never fails for another one.

Results:
1. `failure?_moveRight`, `failure?_moveLeft`, `failure?_writeCell`, `failure?_readCell`,
   `failure?_jump`: the reasons of the operations.
2. `failure?_step`: the reasons of a step.
3. `step_tick_of_lasts`: a fault that uses nothing up arises again.
4. `step_fails_iff`: the table with what is reported.
-/

namespace TapeMachine

/-- A fault that uses nothing up: the instruction fails again when it is attempted again. -/
def Fault.Lasts : Fault → Prop
  | .unmatchedBracket _ _ => True
  | .unreadableInput _ _ => False
  | .offTape _ _ => True

/-! ## Brackets without a partner -/

namespace Program

theorem partner?_forward_eq_none_iff {p : Program} {opening : Nat}
    (opens : p.fetch? opening = some .jumpForward) :
    p.partner? .jumpForward opening 1 = none ↔ ∀ closing, ¬p.Matched opening closing := by
  simp only [Option.eq_none_iff_forall_ne_some, ne_eq, partner?_forward_eq_some_iff opens]

theorem partner?_backward_eq_none_iff {p : Program} {closing : Nat}
    (closes : p.fetch? closing = some .jumpBackward) :
    p.partner? .jumpBackward closing (-1) = none ↔ ∀ opening, ¬p.Matched opening closing := by
  simp only [Option.eq_none_iff_forall_ne_some, ne_eq, partner?_backward_eq_some_iff closes]

end Program

namespace Machine

/-! ## Operations that fail -/

theorem failure?_next (o : Outcome) : o.next.failure? = o.failure? := by
  obtain ⟨m, failure?⟩ := o
  cases failure? <;> rfl

theorem failure?_moveRight {m : Machine} (onTape : m.dataCursor < tapeSize) {failure : Failure} :
    (m.moveDataCursor 1).failure? = some failure ↔
      m.dataCursor = 29999 ∧ failure = .fault (.offTape m.instCursor 30000) := by
  have size : tapeSize = 30000 := rfl
  by_cases last : m.dataCursor = 29999
  · have lands : (m.dataCursor : Int) + 1 = 30000 := by omega
    rw [moveDataCursor_off lands (by decide) (by decide)]
    simp [last, eq_comm]
  · have room : m.dataCursor + 1 < tapeSize := by omega
    rw [moveDataCursor_inside (Int.natCast_succ m.dataCursor).symm room]
    simp [last]

theorem failure?_moveLeft {m : Machine} (onTape : m.dataCursor < tapeSize) {failure : Failure} :
    (m.moveDataCursor (-1)).failure? = some failure ↔
      m.dataCursor = 0 ∧ failure = .fault (.offTape m.instCursor (-1)) := by
  by_cases first : m.dataCursor = 0
  · have lands : (m.dataCursor : Int) + -1 = -1 := by omega
    rw [moveDataCursor_off lands (by decide) (by decide)]
    simp [first, eq_comm]
  · obtain ⟨place, above⟩ := Nat.exists_eq_succ_of_ne_zero first
    have lands : (m.dataCursor : Int) + -1 = place := by omega
    rw [moveDataCursor_inside lands (by omega)]
    simp [first]

theorem failure?_writeCell {m : Machine} {failure : Failure} :
    m.writeCell.failure? = some failure ↔
      ∃ error, m.output.refusal? 1 = some error ∧ failure = .system error := by
  unfold writeCell
  cases m.output.refusal? 1 with
  | none => simp
  | some error => simp [eq_comm]

theorem failure?_readCell {m : Machine} {failure : Failure} :
    m.readCell.failure? = some failure ↔
      (∃ error, m.input.peek = .systemError error ∧
        failure = .fault (.unreadableInput m.instCursor error)) ∨
      ∃ message, m.input.peek = .refusal message ∧ failure = .refused message := by
  unfold readCell
  cases m.input.peek <;> simp [eq_comm]

theorem failure?_jump {p : Program} {m : Machine} {i : Instruction}
    (fetched : p.fetch? m.instCursor = some i) {stride : Int} {failure : Failure} :
    (m.jump p stride).failure? = some failure ↔
      p.partner? i m.instCursor stride = none ∧
        failure = .fault (.unmatchedBracket i m.instCursor) := by
  rw [jump_of_fetch? fetched]
  cases p.partner? i m.instCursor stride with
  | none => simp [eq_comm]
  | some partner => simp

/-! ## Steps that fail -/

/-- The reasons for which an instruction at the instruction cursor fails. -/
def Fails (p : Program) (m : Machine) : Instruction → Failure → Prop
  | .moveRight, failure =>
    m.dataCursor = 29999 ∧ failure = .fault (.offTape m.instCursor 30000)
  | .moveLeft, failure =>
    m.dataCursor = 0 ∧ failure = .fault (.offTape m.instCursor (-1))
  | .increment, _ => False
  | .decrement, _ => False
  | .output, failure =>
    ∃ error, m.output.refusal? 1 = some error ∧ failure = .system error
  | .input, failure =>
    (∃ error, m.input.peek = .systemError error ∧
      failure = .fault (.unreadableInput m.instCursor error)) ∨
    ∃ message, m.input.peek = .refusal message ∧ failure = .refused message
  | .jumpForward, failure =>
    m.cell = 0 ∧ (∀ closing, ¬p.Matched m.instCursor closing) ∧
      failure = .fault (.unmatchedBracket .jumpForward m.instCursor)
  | .jumpBackward, failure =>
    m.cell ≠ 0 ∧ (∀ opening, ¬p.Matched opening m.instCursor) ∧
      failure = .fault (.unmatchedBracket .jumpBackward m.instCursor)

theorem failure?_step_of_act {p : Program} {m : Machine} {i : Instruction}
    (fetched : p.fetch? m.instCursor = some i) (stays : m.jumpStride? i = none) :
    (m.step p).failure? = (m.tick.act i).failure? := by
  rw [step_of_act fetched stays, failure?_next]

theorem failure?_step_of_jump {p : Program} {m : Machine} {i : Instruction} {stride : Int}
    (fetched : p.fetch? m.instCursor = some i) (jumps : m.jumpStride? i = some stride)
    {failure : Failure} : (m.step p).failure? = some failure ↔
      p.partner? i m.instCursor stride = none ∧
        failure = .fault (.unmatchedBracket i m.instCursor) := by
  have same : p.fetch? m.tick.instCursor = some i := fetched
  rw [step_of_jump fetched jumps]
  exact failure?_jump same

theorem failure?_step_forward {p : Program} {m : Machine}
    (fetched : p.fetch? m.instCursor = some .jumpForward) {failure : Failure} :
    (m.step p).failure? = some failure ↔ Fails p m .jumpForward failure := by
  by_cases zero : m.cell = 0
  · have jumps : m.jumpStride? .jumpForward = some 1 := by rw [jumpStride?, if_pos zero]
    rw [failure?_step_of_jump fetched jumps, Program.partner?_forward_eq_none_iff fetched]
    simp [Fails, zero]
  · have stays : m.jumpStride? .jumpForward = none := by rw [jumpStride?, if_neg zero]
    rw [failure?_step_of_act fetched stays]
    simp [Fails, act, zero]

theorem failure?_step_backward {p : Program} {m : Machine}
    (fetched : p.fetch? m.instCursor = some .jumpBackward) {failure : Failure} :
    (m.step p).failure? = some failure ↔ Fails p m .jumpBackward failure := by
  by_cases zero : m.cell = 0
  · have stays : m.jumpStride? .jumpBackward = none := by rw [jumpStride?, if_pos zero]
    rw [failure?_step_of_act fetched stays]
    simp [Fails, act, zero]
  · have jumps : m.jumpStride? .jumpBackward = some (-1) := by rw [jumpStride?, if_neg zero]
    rw [failure?_step_of_jump fetched jumps, Program.partner?_backward_eq_none_iff fetched]
    simp [Fails, zero]

theorem failure?_step {p : Program} {m : Machine} (onTape : m.dataCursor < tapeSize)
    {failure : Failure} : (m.step p).failure? = some failure ↔
      ∃ i, p.fetch? m.instCursor = some i ∧ Fails p m i failure := by
  cases fetched : p.fetch? m.instCursor with
  | none => simp [step, fetched]
  | some i =>
    simp only [Option.some.injEq, exists_eq_left']
    have ticked : m.tick.dataCursor < tapeSize := onTape
    cases i with
    | moveRight =>
      rw [failure?_step_of_act fetched rfl, act]
      exact failure?_moveRight ticked
    | moveLeft =>
      rw [failure?_step_of_act fetched rfl, act]
      exact failure?_moveLeft ticked
    | increment => simp [failure?_step_of_act fetched rfl, act, Fails]
    | decrement => simp [failure?_step_of_act fetched rfl, act, Fails]
    | output =>
      rw [failure?_step_of_act fetched rfl, act]
      exact failure?_writeCell
    | input =>
      rw [failure?_step_of_act fetched rfl, act]
      exact failure?_readCell
    | jumpForward => exact failure?_step_forward fetched
    | jumpBackward => exact failure?_step_backward fetched

theorem position_of_fails {p : Program} {m : Machine} {i : Instruction} {fault : Fault}
    (fails : Fails p m i (.fault fault)) : fault.position = m.instCursor := by
  cases i with
  | moveRight => cases fails.2; rfl
  | moveLeft => cases fails.2; rfl
  | increment => exact fails.elim
  | decrement => exact fails.elim
  | output =>
    obtain ⟨_, _, same⟩ := fails
    cases same
  | input =>
    rcases fails with ⟨_, _, same⟩ | ⟨_, _, same⟩
    · cases same
      rfl
    · cases same
  | jumpForward => cases fails.2.2; rfl
  | jumpBackward => cases fails.2.2; rfl

/-! ## Faults that last -/

theorem act_of_lasts {m after : Machine} {i : Instruction} {fault : Fault} (lasts : fault.Lasts)
    (failed : m.act i = ⟨after, some (.fault fault)⟩) : after = m := by
  cases i with
  | moveRight =>
    rw [act] at failed
    exact moveDataCursor_failed failed
  | moveLeft =>
    rw [act] at failed
    exact moveDataCursor_failed failed
  | output => exact writeCell_failed failed
  | input =>
    rw [act, readCell] at failed
    split at failed
    · cases failed
    · cases failed
    · cases failed
    · cases failed
      exact lasts.elim
    · cases failed
  | _ => cases failed

theorem step_of_lasts {p : Program} {m after : Machine} {fault : Fault} (lasts : fault.Lasts)
    (failed : m.step p = ⟨after, some (.fault fault)⟩) : after = m.tick := by
  have taken := step_cases p m
  rw [failed] at taken
  cases taken with
  | unmatched _ _ _ => rfl
  | failed _ _ acted => exact act_of_lasts lasts acted

/-- The reasons to fail do not look at the count of steps, which is all that such a fault changes. -/
theorem step_tick_of_lasts {p : Program} {m : Machine} {fault : Fault}
    (onTape : m.dataCursor < tapeSize) (lasts : fault.Lasts)
    (failed : m.step p = ⟨m.tick, some (.fault fault)⟩) :
    m.tick.step p = ⟨m.tick.tick, some (.fault fault)⟩ := by
  have reasons : ∃ i, p.fetch? m.instCursor = some i ∧ Fails p m i (.fault fault) :=
    (failure?_step onTape).mp (by rw [failed])
  have again : (m.tick.step p).failure? = some (.fault fault) :=
    (failure?_step (m := m.tick) onTape).mpr reasons
  rcases stepped : m.tick.step p with ⟨after, failure?⟩
  rw [stepped] at again
  cases again
  rw [step_of_lasts lasts stepped]

/-! ## The table -/

/-- A step fails exactly for the reasons of the table. A fault is reported at the position of the
instruction, with the place off the tape, the message of the system error that caused it, or the
symbol of the bracket. A bracket that does not jump never fails, whether it has a partner or not. -/
theorem step_fails_iff {p : Program} {m : Machine} (onTape : m.dataCursor < tapeSize) :
    (∀ failure, (m.step p).failure? = some failure ↔
      ∃ i, p.fetch? m.instCursor = some i ∧ Fails p m i failure) ∧
    (∀ fault, (m.step p).failure? = some (.fault fault) →
      match fault with
      | .offTape _ cursor => fault.report = .offTape m.instCursor cursor
      | .unreadableInput _ error =>
        fault.report = .unreadableInput m.instCursor error.message ∧ fault.cause? = some error
      | .unmatchedBracket i _ =>
        fault.report = .unmatchedBracket (toString i.symbol) m.instCursor) ∧
    ((p.fetch? m.instCursor = some .jumpForward ∧ m.cell ≠ 0 ∨
      p.fetch? m.instCursor = some .jumpBackward ∧ m.cell = 0) → (m.step p).failure? = none) := by
  refine ⟨fun failure => failure?_step onTape, ?_, ?_⟩
  · intro fault failed
    obtain ⟨i, _, fails⟩ := (failure?_step onTape).mp failed
    rw [← position_of_fails fails]
    cases fault with
    | offTape _ _ => rfl
    | unreadableInput _ _ => exact ⟨rfl, rfl⟩
    | unmatchedBracket _ _ => rfl
  · intro stays
    rw [Option.eq_none_iff_forall_ne_some]
    rintro failure failed
    rcases stays with ⟨fetched, nonzero⟩ | ⟨fetched, zero⟩
    · exact nonzero ((failure?_step_forward fetched).mp failed).1
    · exact ((failure?_step_backward fetched).mp failed).1 zero

/-- Behind a loop that is closed stands a bracket that closes none, on a cell that is not zero. -/
theorem step_fails_unopened :
    let p := Program.ofList [.jumpForward, .jumpBackward, .jumpBackward]
    let m := { fresh (.ofEvents []) (.empty none) with instCursor := 2 }.setCell 1
    m.dataCursor < tapeSize ∧
      (m.step p).failure? = some (.fault (.unmatchedBracket .jumpBackward 2)) := by
  intro p m
  have onTape : m.dataCursor < tapeSize := show 0 < tapeSize by decide
  have nonzero : m.cell ≠ 0 := by
    show (Tape.blank.set 0 1).get 0 ≠ 0
    rw [Tape.get_set _ (by decide), if_pos rfl]
    decide
  have unopened : ∀ opening, ¬p.Matched opening 2 := by
    have searched : ∀ opening < 2, ¬p.Matched opening 2 := by decide
    intro opening matched
    exact searched opening matched.ordered matched
  exact ⟨onTape, ((step_fails_iff onTape).1 _).mpr ⟨.jumpBackward, rfl, nonzero, unopened, rfl⟩⟩

end Machine

end TapeMachine

import TapeMachine.Proofs.Machine.Faults
import TapeMachine.Proofs.Machine.Record
import TapeMachine.Proofs.Machine.Streams

/-!
# Reading the input

Each attempt to carry out the instruction that reads asks the input for one byte, and nothing else
asks it for any. So what a run leaves of its input can be told from the instructions that it came to,
and an event with which it fails was one of those to come when it started.

Results:
1. `skip_succ`: attempts to read use up the events of the input one by one.
2. `input_of_ends`: a run reads as often as it comes to the instruction that reads.
3. `runFails_of_ends`: why a run fails.
-/

namespace TapeMachine

namespace Input

/-- The input after so many attempts to read. -/
def skip (i : Input) (attempts : Nat) : Input :=
  ⟨i.pending.drop attempts, i.reads + attempts⟩

theorem skip_succ (i : Input) (attempts : Nat) : i.skip (attempts + 1) = i.advance.skip attempts := by
  rw [skip, skip, pending_advance, reads_advance, List.drop_drop, Nat.add_comm attempts 1,
    Nat.add_assoc]

theorem mem_pending_of_peek {i : Input} (more : i.peek ≠ .endOfInput) : i.peek ∈ i.pending := by
  unfold peek at *
  cases events : i.pending with
  | nil =>
    rw [events] at more
    exact absurd rfl more
  | cons event events => exact List.mem_cons_self

end Input

namespace Machine

/-- How many of so many attempts, from a state on, are to carry out an instruction. -/
def attempted (p : Program) (i : Instruction) (attempts : Nat) (m : Machine) : Nat :=
  (course p attempts m).countP fun state => p.fetch? state.instCursor = some i

variable {p : Program} {m : Machine}

/-- An attempt uses up an event of the input if it is to read, and else none. -/
theorem input_step (p : Program) (m : Machine) (later : Nat) :
    (m.step p).machine.input.skip later =
      m.input.skip (later + if p.fetch? m.instCursor = some .input then 1 else 0) := by
  cases fetched : p.fetch? m.instCursor with
  | none =>
    rw [step, fetched]
    rfl
  | some i =>
    rw [(streams_step fetched).1]
    cases i with
    | input => exact (Input.skip_succ m.input later).symm
    | _ => rfl

theorem attempted_succ (p : Program) (i : Instruction) (attempts : Nat) (m : Machine) :
    attempted p i (attempts + 1) m =
      attempted p i attempts (m.step p).machine +
        if p.fetch? m.instCursor = some i then 1 else 0 := by
  simp only [attempted, course, List.countP_cons, decide_eq_true_eq]

/-- The induction is on the run: its first attempt is to read or is not, and then the rest runs. -/
theorem input_of_ends {n : Nat} {o : Outcome} (ends : Ends p n m o) :
    ∃ attempts, o.machine.steps = m.steps + attempts ∧
      o.machine.input = m.input.skip (attempted p .input attempts m) := by
  induction ends with
  | halted _ => exact ⟨0, rfl, rfl⟩
  | @failed m after failure failing =>
    have counted := steps_step (running_of_failed failing)
    have first := input_step p m 0
    rw [failing] at counted first
    exact ⟨1, counted, first.trans (by rw [attempted_succ]; rfl)⟩
  | @more n m next o running stepped _ ih =>
    obtain ⟨attempts, steps, input⟩ := ih
    have counted := steps_step running
    have first := input_step p m (attempted p .input attempts next)
    rw [stepped] at counted first
    refine ⟨attempts + 1, ?_, ?_⟩
    · rw [steps, counted, Nat.add_assoc, Nat.add_comm 1]
    · rw [input, first, attempted_succ, stepped]

/-! ## Failures of a run -/

/-- Why a run that starts in one state and ends in another fails. A fault that passes on a system
error, and a refusal, are events that the input held when the run started; any other system error is
the one with which the output refuses the byte that is to be written. -/
inductive RunFails (p : Program) (m after : Machine) : Failure → Prop
  | fault {fault : Fault} :
      (∀ cause, fault.cause? = some cause → .systemError cause ∈ m.input.pending) →
      RunFails p m after (.fault fault)
  | full {error : SystemError} : p.fetch? after.instCursor = some .output →
      after.output.refusal? 1 = some error → RunFails p m after (.system error)
  | refused {message : Text} : .refusal message ∈ m.input.pending →
      RunFails p m after (.refused message)

theorem pending_step (p : Program) (m : Machine) :
    (m.step p).machine.input.pending <:+ m.input.pending := by
  have used := congrArg Input.pending (input_step p m 0)
  rw [show (m.step p).machine.input.pending = m.input.pending.drop _ from used]
  exact List.drop_suffix _ _

theorem runFails_of_ends {n : Nat} {after : Machine} {failure : Failure}
    (onTape : m.dataCursor < tapeSize) (ends : Ends p n m ⟨after, some failure⟩) :
    RunFails p m after failure := by
  obtain ⟨last, steps, failing⟩ := ends_failed_iff.mp ends
  have lastOnTape : last.dataCursor < tapeSize :=
    steps.keeps (fun m => (step_cases p m).onTape) onTape
  have pending : last.input.pending <:+ m.input.pending :=
    steps.keeps (fun m suffix => (pending_step p m).trans suffix) List.suffix_rfl
  have met : ∀ {event}, last.input.peek = event → event ≠ .endOfInput → event ∈ m.input.pending := by
    rintro _ rfl more
    exact pending.mem (Input.mem_pending_of_peek more)
  obtain ⟨i, fetched, fails⟩ := (failure?_step lastOnTape).mp (by rw [failing])
  have intact := intact_step failing
  cases i with
  | moveRight =>
    obtain ⟨_, rfl⟩ := fails
    exact .fault nofun
  | moveLeft =>
    obtain ⟨_, rfl⟩ := fails
    exact .fault nofun
  | increment => exact fails.elim
  | decrement => exact fails.elim
  | output =>
    obtain ⟨error, refused, rfl⟩ := fails
    exact .full (intact.instCursor ▸ fetched) (intact.output ▸ refused)
  | input =>
    rcases fails with ⟨error, peek, rfl⟩ | ⟨message, peek, rfl⟩
    · refine .fault fun cause same => ?_
      cases same
      exact met peek nofun
    · exact .refused (met peek nofun)
  | jumpForward =>
    obtain ⟨_, _, rfl⟩ := fails
    exact .fault nofun
  | jumpBackward =>
    obtain ⟨_, _, rfl⟩ := fails
    exact .fault nofun

end Machine

end TapeMachine

import TapeMachine.Proofs.Machine.Faults
import TapeMachine.Proofs.Machine.Streams

/-!
# Running again after input faults

A run that fails because the input could not be read can be taken up again where it stopped: the
event that failed is used up, and nothing else has happened but that a step and an attempt to read
were counted. So taking it up again after each such fault comes to the same end as one run on the
input without the events that fail in this way. Each fault costs one step and one attempt.

Results:
1. `Spared.pace`: two machines, one of which is spared the faults, go on together, or the other one
   falls behind by a fault.
2. `Spared.of_retried`, `Spared.retried`: the way from the one run to the other one, and back.
3. `run_retried`: the whole, from the start.
-/

namespace TapeMachine

/-- The system cannot read. -/
def InputEvent.isSystemError : InputEvent → Bool
  | .systemError _ => true
  | _ => false

/-- The events without those at which the system cannot read. -/
def InputEvent.readable (events : List InputEvent) : List InputEvent :=
  events.filter fun event => !event.isSystemError

/-- The operation failed because the system could not read. -/
def Outcome.InputFails (o : Outcome) : Prop :=
  ∃ position cause, o.failure? = some (.fault (.unreadableInput position cause))

namespace Machine

/-- A program is run, and run on as often as the input fails, so many times, until a run ends in
another way. -/
inductive Retried (p : Program) : Nat → Machine → Outcome → Prop
  | settled {fuel : Nat} {m : Machine} {o : Outcome} :
      m.run p fuel = some o → ¬o.InputFails → Retried p 0 m o
  | again {fuel faults : Nat} {m : Machine} {o last : Outcome} :
      m.run p fuel = some o → o.InputFails → Retried p faults o.machine last →
      Retried p (faults + 1) m last

/-- Two machines differ in so many faults of the input, which the second one is spared: they are at
the same place in the same state, but the first one has counted a step and an attempt to read more
for each fault, and its input still has the events in it that fail. -/
structure Spared (faults : Nat) (m r : Machine) : Prop where
  tape : m.tape = r.tape
  dataCursor : m.dataCursor = r.dataCursor
  instCursor : m.instCursor = r.instCursor
  output : m.output = r.output
  steps : m.steps = r.steps + faults
  reads : m.input.reads = r.input.reads + faults
  pending : r.input.pending = InputEvent.readable m.input.pending

end Machine

/-- The outcomes of two such machines: both have the same failure, or none. -/
structure Outcome.Spared (faults : Nat) (o other : Outcome) : Prop where
  failure? : o.failure? = other.failure?
  machine : Machine.Spared faults o.machine other.machine

namespace Machine

theorem spared_fresh (events : List InputEvent) (output : Output) :
    Spared 0 (fresh (.ofEvents events) output)
      (fresh (.ofEvents (InputEvent.readable events)) output) :=
  ⟨rfl, rfl, rfl, rfl, rfl, rfl, rfl⟩

/-! ## Inputs -/

theorem readable_cons {event : InputEvent} (fine : event.isSystemError = false)
    (events : List InputEvent) :
    InputEvent.readable (event :: events) = event :: InputEvent.readable events := by
  simp [InputEvent.readable, fine]

theorem peek_readable {input other : Input}
    (pending : other.pending = InputEvent.readable input.pending)
    (fine : input.peek.isSystemError = false) :
    input.peek = other.peek ∧ other.advance.pending = InputEvent.readable input.advance.pending := by
  unfold Input.peek Input.advance at *
  rw [pending]
  cases events : input.pending with
  | nil => exact ⟨rfl, rfl⟩
  | cons event events =>
    rw [events] at fine
    have fine : event.isSystemError = false := fine
    rw [readable_cons fine]
    exact ⟨rfl, rfl⟩

theorem peek_ne_systemError {events : List InputEvent} {input : Input}
    (pending : input.pending = InputEvent.readable events) (error : SystemError) :
    input.peek ≠ .systemError error := by
  intro fails
  cases listed : input.pending with
  | nil =>
    rw [Input.peek, listed] at fails
    cases fails
  | cons event rest =>
    rw [Input.peek, listed] at fails
    obtain rfl : event = .systemError error := fails
    have member : .systemError error ∈ InputEvent.readable events := by
      rw [← pending, listed]
      exact List.mem_cons_self
    exact absurd (List.mem_filter.mp member).2 Bool.false_ne_true

/-- An event at which the system cannot read is used up and leaves the readable ones. -/
theorem pending_of_systemError {input : Input} {error : SystemError}
    (fails : input.peek = .systemError error) :
    InputEvent.readable input.advance.pending = InputEvent.readable input.pending ∧
      input.advance.pending.length < input.pending.length := by
  unfold Input.peek Input.advance at *
  cases events : input.pending with
  | nil =>
    rw [events] at fails
    cases fails
  | cons event events =>
    rw [events] at fails
    obtain rfl : event = .systemError error := fails
    exact ⟨rfl, Nat.lt_succ_self _⟩

/-! ## One step -/

variable {p : Program} {faults : Nat} {m r : Machine}

theorem Spared.eq_withStreams (spared : Spared faults m r) :
    m = r.withStreams m.steps m.input m.output := by
  obtain ⟨tape, dataCursor, instCursor, steps, input, output⟩ := m
  cases spared.tape
  cases spared.dataCursor
  cases spared.instCursor
  rfl

theorem Spared.halted_eq (spared : Spared faults m r) : m.halted p = r.halted p := by
  rw [halted, halted, spared.instCursor]

/-- A step at which the input does not fail is taken by both machines. -/
theorem Spared.step (spared : Spared faults m r)
    (fine : p.fetch? r.instCursor = some .input → m.input.peek.isSystemError = false) :
    Outcome.Spared faults (m.step p) (r.step p) := by
  cases fetched : p.fetch? r.instCursor with
  | none =>
    have same : p.fetch? m.instCursor = none := spared.instCursor ▸ fetched
    rw [Machine.step, Machine.step, fetched, same]
    exact ⟨rfl, spared⟩
  | some i =>
    have alike : r.Alike i m.input m.output := by
      refine ⟨?_, fun _ => by rw [spared.output]⟩
      rintro rfl
      exact (peek_readable spared.pending (fine fetched)).1
    have together := step_withStreams fetched alike m.steps
    rw [← spared.eq_withStreams] at together
    have counted := steps_step (halted_eq_false_iff.mpr ⟨i, fetched⟩)
    obtain ⟨input, output⟩ := streams_step fetched
    rw [together]
    refine ⟨rfl, rfl, rfl, rfl, ?_, ?_, ?_, ?_⟩
    · show m.output.after i r.cell = _
      rw [output, spared.output]
    · show m.steps + 1 = _
      rw [counted, spared.steps, Nat.add_right_comm]
    · show (m.input.after i).reads = _
      rw [input]
      cases i with
      | input =>
        show m.input.reads + 1 = r.input.reads + 1 + faults
        rw [spared.reads, Nat.add_right_comm]
      | _ => exact spared.reads
    · show _ = InputEvent.readable (m.input.after i).pending
      rw [input]
      cases i with
      | input => exact (peek_readable spared.pending (fine fetched)).2
      | _ => exact spared.pending

/-- A step at which the input fails is taken by the first machine alone. -/
theorem Spared.step_of_systemError (spared : Spared faults m r) {error : SystemError}
    (fetched : p.fetch? m.instCursor = some .input) (fails : m.input.peek = .systemError error) :
    (m.step p).InputFails ∧ Spared (faults + 1) (m.step p).machine r ∧
      (m.step p).machine.input.pending.length < m.input.pending.length := by
  have ticked : m.tick.input.peek = .systemError error := fails
  have stepped : m.step p =
      ⟨m.tick.consume, some (.fault (.unreadableInput m.instCursor error))⟩ := by
    rw [step_of_act fetched rfl, act, readCell, ticked]
    rfl
  obtain ⟨pending, shorter⟩ := pending_of_systemError fails
  rw [stepped]
  refine ⟨⟨_, _, rfl⟩, ⟨spared.tape, spared.dataCursor, spared.instCursor, spared.output, ?_, ?_, ?_⟩,
    shorter⟩
  · exact congrArg (· + 1) spared.steps
  · exact congrArg (· + 1) spared.reads
  · exact spared.pending.trans pending.symm

/-- What two machines do, one of which is spared the faults: the same step, which is not one of these
faults, or such a fault that only the other one has. -/
inductive Pace (p : Program) (faults : Nat) (m r : Machine) : Prop
  | together : Outcome.Spared faults (m.step p) (r.step p) → ¬(m.step p).InputFails →
      Pace p faults m r
  | behind : (m.step p).InputFails → Spared (faults + 1) (m.step p).machine r →
      (m.step p).machine.input.pending.length < m.input.pending.length → Pace p faults m r

theorem Spared.not_inputFails (spared : Spared faults m r) (onTape : r.dataCursor < tapeSize) :
    ¬(r.step p).InputFails := by
  rintro ⟨position, cause, failed⟩
  obtain ⟨i, _, fails⟩ := (failure?_step onTape).mp failed
  cases i with
  | input =>
    rcases fails with ⟨error, peek, _⟩ | ⟨_, _, same⟩
    · exact peek_ne_systemError spared.pending error peek
    · cases same
  | moveRight => cases fails.2
  | moveLeft => cases fails.2
  | increment => exact fails
  | decrement => exact fails
  | output =>
    obtain ⟨_, _, same⟩ := fails
    cases same
  | jumpForward => cases fails.2.2
  | jumpBackward => cases fails.2.2

theorem Spared.pace (spared : Spared faults m r) (onTape : r.dataCursor < tapeSize) (p : Program) :
    Pace p faults m r := by
  by_cases fine : p.fetch? r.instCursor = some .input → m.input.peek.isSystemError = false
  · have after := spared.step fine
    refine .together after ?_
    rw [Outcome.InputFails, after.failure?]
    exact spared.not_inputFails onTape
  · obtain ⟨fetched, fails⟩ := Classical.not_imp.mp fine
    obtain ⟨error, fails⟩ : ∃ error, m.input.peek = .systemError error := by
      cases event : m.input.peek with
      | systemError error => exact ⟨error, rfl⟩
      | _ => exact absurd (congrArg InputEvent.isSystemError event) fails
    rw [← spared.instCursor] at fetched
    obtain ⟨failed, after, shorter⟩ := spared.step_of_systemError fetched fails
    exact .behind failed after shorter

/-! ## Runs -/

theorem Retried.of_step {k : Nat} {next : Machine} {o : Outcome} (running : m.halted p = false)
    (stepped : m.step p = ⟨next, none⟩) (retried : Retried p k next o) : Retried p k m o := by
  have front := Steps.one running stepped
  cases retried with
  | settled ran settled =>
    obtain ⟨fuel, ran⟩ := (exists_run_iff_of_steps front).mpr ⟨_, ran⟩
    exact .settled ran settled
  | again ran fails rest =>
    obtain ⟨fuel, ran⟩ := (exists_run_iff_of_steps front).mpr ⟨_, ran⟩
    exact .again ran fails rest

theorem step_of_failure?_eq_none (fine : (m.step p).failure? = none) :
    m.step p = ⟨(m.step p).machine, none⟩ := by
  rw [← fine]

theorem ends_of_failure? {failure : Failure} (failed : (m.step p).failure? = some failure) :
    Ends p 0 m (m.step p) := by
  rcases stepped : m.step p with ⟨after, failure?⟩
  rw [stepped] at failed
  cases failed
  exact .failed stepped

theorem onTape_step (onTape : r.dataCursor < tapeSize) : (r.step p).machine.dataCursor < tapeSize :=
  (step_cases p r).onTape onTape

/-- The induction is on the run that can have faults: either it goes on beside the other one to the
end, or it comes to a fault that the other one is spared. -/
theorem Spared.of_ends {n : Nat} {o : Outcome} (ends : Ends p n m o) (spared : Spared faults m r)
    (onTape : r.dataCursor < tapeSize) :
    (¬o.InputFails ∧ ∃ other, Ends p n r other ∧ Outcome.Spared faults o other) ∨
    o.InputFails ∧ ∃ s, Steps p n r s ∧ Spared (faults + 1) o.machine s := by
  induction ends generalizing r with
  | @halted m halted =>
    refine .inl ⟨?_, ⟨r, none⟩, .halted (spared.halted_eq ▸ halted), rfl, spared⟩
    rintro ⟨_, _, failed⟩
    cases failed
  | @failed m after failure failing =>
    cases spared.pace onTape p with
    | together same fine =>
      rw [failing] at same fine
      exact .inl ⟨fine, r.step p, ends_of_failure? same.failure?.symm, same⟩
    | behind fails spared _ =>
      rw [failing] at fails spared
      exact .inr ⟨fails, r, .refl r, spared⟩
  | @more n m next o running stepped _ ih =>
    cases spared.pace onTape p with
    | together same _ =>
      rw [stepped] at same
      have onwards := step_of_failure?_eq_none same.failure?.symm
      have running : r.halted p = false := spared.halted_eq ▸ running
      rcases ih same.machine (onTape_step onTape) with
        ⟨settled, other, ends, whole⟩ | ⟨fails, s, steps, whole⟩
      · exact .inl ⟨settled, other, .more running onwards ends, whole⟩
      · exact .inr ⟨fails, s, .more running onwards steps, whole⟩
    | behind fails _ _ =>
      obtain ⟨_, _, failed⟩ := fails
      rw [stepped] at failed
      cases failed

theorem Spared.of_retried {k : Nat} {o : Outcome} (retried : Retried p k m o)
    (spared : Spared faults m r) (onTape : r.dataCursor < tapeSize) :
    ∃ n other, Ends p n r other ∧ Outcome.Spared (faults + k) o other := by
  induction retried generalizing faults r with
  | settled ran settled =>
    obtain ⟨n, ends⟩ := exists_run_iff.mp ⟨_, ran⟩
    rcases spared.of_ends ends onTape with ⟨_, other, same⟩ | ⟨fails, _⟩
    · exact ⟨n, other, same⟩
    · exact absurd fails settled
  | @again _ k _ _ _ ran fails _ ih =>
    obtain ⟨n, ends⟩ := exists_run_iff.mp ⟨_, ran⟩
    rcases spared.of_ends ends onTape with ⟨settled, _⟩ | ⟨_, s, steps, spared⟩
    · exact absurd fails settled
    · have onTape : s.dataCursor < tapeSize := steps.keeps (fun m => (step_cases p m).onTape) onTape
      obtain ⟨rest, other, ends, same⟩ := ih spared onTape
      rw [Nat.add_assoc, Nat.add_comm 1 k] at same
      exact ⟨n + rest, other, ends.of_steps steps, same⟩

/-- A machine that is behind comes to take the same step, after so many faults. The induction is on
the events to come, one of which is used up by each fault. -/
theorem Spared.catchUp (spared : Spared faults m r) (onTape : r.dataCursor < tapeSize) :
    ∃ more last, Spared (faults + more) last r ∧
      Outcome.Spared (faults + more) (last.step p) (r.step p) ∧ ¬(last.step p).InputFails ∧
      ∀ {k o}, Retried p k last o → Retried p (k + more) m o := by
  induction count : m.input.pending.length using Nat.strong_induction_on generalizing faults m with
  | _ count ih =>
    cases spared.pace onTape p with
    | together same fine => exact ⟨0, m, spared, same, fine, id⟩
    | behind fails after shorter =>
      obtain ⟨more, last, behind, same, fine, onwards⟩ := ih _ (count ▸ shorter) after rfl
      rw [Nat.add_assoc, Nat.add_comm 1] at behind same
      refine ⟨more + 1, last, behind, same, fine, fun retried => ?_⟩
      obtain ⟨_, _, failed⟩ := id fails
      obtain ⟨fuel, ran⟩ := exists_run_iff.mpr ⟨0, ends_of_failure? failed⟩
      exact .again ran fails (onwards retried)

theorem Spared.retried {n : Nat} {other : Outcome} (ends : Ends p n r other)
    (spared : Spared faults m r) (onTape : r.dataCursor < tapeSize) :
    ∃ k o, Retried p k m o ∧ Outcome.Spared (faults + k) o other := by
  induction ends generalizing faults m with
  | @halted r halted =>
    obtain ⟨fuel, ran⟩ : ∃ fuel, m.run p fuel = some ⟨m, none⟩ :=
      exists_run_iff.mpr ⟨0, .halted (spared.halted_eq.trans halted)⟩
    refine ⟨0, ⟨m, none⟩, .settled ran ?_, rfl, spared⟩
    rintro ⟨_, _, failed⟩
    cases failed
  | @failed r after failure failing =>
    obtain ⟨more, last, _, same, fine, onwards⟩ := spared.catchUp (p := p) onTape
    rw [failing] at same
    obtain ⟨fuel, ran⟩ := exists_run_iff.mpr ⟨0, ends_of_failure? same.failure?⟩
    refine ⟨0 + more, last.step p, onwards (.settled ran fine), ?_⟩
    rw [Nat.zero_add]
    exact same
  | @more n r next other running stepped _ ih =>
    obtain ⟨more, last, behind, same, _, onwards⟩ := spared.catchUp (p := p) onTape
    have onTape := onTape_step (p := p) onTape
    rw [stepped] at same onTape
    obtain ⟨k, o, retried, ended⟩ := ih same.machine onTape
    have taken := step_of_failure?_eq_none same.failure?
    refine ⟨k + more, o, onwards (retried.of_step (behind.halted_eq.trans running) taken), ?_⟩
    rw [Nat.add_comm k, ← Nat.add_assoc]
    exact ended

/-- A program that is run on after each fault of the input comes to the end to which one run comes on
the input without the events that fail: with the same failure or none, the same tape, the same cursors
and the same output. Each fault adds one to the steps and one to the attempts to read, and leaves
nothing else behind. If the one goes on forever, so does the other. -/
theorem run_retried (p : Program) (events : List InputEvent) (output : Output) :
    let m := fresh (.ofEvents events) output
    let r := fresh (.ofEvents (InputEvent.readable events)) output
    (∀ {faults o}, Retried p faults m o →
      ∃ fuel other, r.run p fuel = some other ∧ Outcome.Spared faults o other) ∧
    (∀ {fuel other}, r.run p fuel = some other →
      ∃ faults o, Retried p faults m o ∧ Outcome.Spared faults o other) ∧
    ((∀ faults o, ¬Retried p faults m o) ↔ ∀ fuel, r.run p fuel = none) := by
  intro m r
  have spared : Spared 0 m r := spared_fresh events output
  have onTape : r.dataCursor < tapeSize := show 0 < tapeSize by decide
  have forth : ∀ {faults o}, Retried p faults m o →
      ∃ fuel other, r.run p fuel = some other ∧ Outcome.Spared faults o other := by
    intro faults o retried
    obtain ⟨n, other, ends, same⟩ := spared.of_retried retried onTape
    obtain ⟨fuel, ran⟩ := exists_run_iff.mpr ⟨n, ends⟩
    rw [Nat.zero_add] at same
    exact ⟨fuel, other, ran, same⟩
  have back : ∀ {fuel other}, r.run p fuel = some other →
      ∃ faults o, Retried p faults m o ∧ Outcome.Spared faults o other := by
    intro fuel other ran
    obtain ⟨n, ends⟩ := exists_run_iff.mp ⟨fuel, ran⟩
    obtain ⟨faults, o, retried, same⟩ := spared.retried ends onTape
    rw [Nat.zero_add] at same
    exact ⟨faults, o, retried, same⟩
  refine ⟨forth, back, ?_, ?_⟩
  · intro diverges fuel
    rw [Option.eq_none_iff_forall_ne_some]
    intro other ran
    obtain ⟨faults, o, retried, _⟩ := back ran
    exact diverges faults o retried
  · intro diverges faults o retried
    obtain ⟨fuel, other, ran, _⟩ := forth retried
    rw [diverges fuel] at ran
    cases ran

/-- An error before the byte and two in a row behind it: the program is run four times. -/
theorem run_retried_thrice :
    let error := SystemError.plain "broken"
    let events := [.systemError error, .byte 7, .systemError error, .systemError error]
    let p := Program.ofList [.input, .input]
    ∃ o, Retried p 3 (fresh (.ofEvents events) (.empty none)) o ∧ o.failure? = none ∧
      ∃ fuel other, (fresh (.ofBytes [7]) (.empty none)).run p fuel = some other ∧
        Outcome.Spared 3 o other := by
  intro error events p
  let last : Machine := { fresh (.ofEvents []) (.empty none) with
    tape := Tape.blank.set 0 7, instCursor := 2, steps := 5, input := ⟨[], 5⟩ }
  have settled : ¬(Outcome.mk last none).InputFails := by
    rintro ⟨_, _, failed⟩
    cases failed
  have fourth : Retried p 0 { last with instCursor := 1, steps := 4, input := ⟨[], 4⟩ } ⟨last, none⟩ :=
    .settled (show run p 3 _ = _ from rfl) settled
  have retried : Retried p 3 (fresh (.ofEvents events) (.empty none)) ⟨last, none⟩ :=
    .again (show run p 3 _ = _ from rfl) ⟨_, _, rfl⟩ (.again (show run p 3 _ = _ from rfl) ⟨_, _, rfl⟩
      (.again (show run p 3 _ = _ from rfl) ⟨_, _, rfl⟩ fourth))
  exact ⟨_, retried, rfl, (run_retried p events (.empty none)).1 retried⟩

end Machine

end TapeMachine

import TapeMachine.Proofs.Machine.Truncation
import TapeMachine.Proofs.Session.Bounds

/-!
# Accounts of the streams

What a session has read and written can be told from what its machine was made to do: the
instructions that it attempted, in order, with the state before each of them, and the bytes that it
was asked to read directly. Each attempt to write that succeeds adds the byte under the data cursor
to the output and flushes it; each attempt to read, successful or not, takes the next event of the
input. Nothing else touches the streams, whatever operations fail in between.

A step attempts the instruction under the instruction cursor, unless the machine has halted, or a log
that is stuck would have to note the attempt first: then the step fails before it comes to it.

Results:
1. `readsOnto_readCell`, `readsOnto_step`: what a read does to the tape.
2. `explains_attempt`, `explains_reading`: an attempt and a direct read account for what becomes of
   the streams.
3. `accounts_calls`, `accounts_perform`, `accounts_performAll`: what operations add to the accounts.
4. `streams_of_performAll`: the accounts of a session that starts afresh.
-/

namespace TapeMachine

open Machine

/-- What a machine is made to do with its streams, from the state before and with the outcome. -/
inductive Deed
  /-- An instruction is attempted. -/
  | attempt (i : Instruction) (before : Machine) (outcome : Outcome)
  /-- A byte is read without an instruction. -/
  | reading (before : Machine) (outcome : Outcome)

namespace Deed

/-- The state before the deed. -/
def before : Deed → Machine
  | .attempt _ before _ => before
  | .reading before _ => before

/-- The outcome of the deed. -/
def outcome : Deed → Outcome
  | .attempt _ _ outcome => outcome
  | .reading _ outcome => outcome

/-- The deed is the attempt of an instruction. -/
def attempts (i : Instruction) : Deed → Bool
  | .attempt other _ _ => other = i
  | .reading _ _ => false

/-- The deed is a read without an instruction. -/
def isReading : Deed → Bool
  | .attempt _ _ _ => false
  | .reading _ _ => true

/-- The byte in the cell, if the deed is a write that succeeds. -/
def printed? : Deed → Option UInt8
  | .attempt .output before ⟨_, none⟩ => some before.cell
  | _ => none

/-- What the input meets, if the deed reads. -/
def met? : Deed → Option InputEvent
  | .attempt .input before _ => some before.input.peek
  | .attempt _ _ _ => none
  | .reading before _ => some before.input.peek

end Deed

namespace Session

/-- What a step of the session attempts in a state. -/
def attempts (s : Session) (m : Machine) : List Deed :=
  match s.program.fetch? m.instCursor with
  | none => []
  | some i =>
    if s.stuck?.isSome ∧ (m.attempt i).level ≤ s.logLevel then []
    else [.attempt i m (m.step s.program)]

/-- What so many calls of a step attempt, up to the first one that fails. -/
def calls (s : Session) : Nat → Machine → List Deed
  | 0, _ => []
  | count + 1, m =>
    s.attempts m ++
      match s.step m with
      | ⟨next, none⟩ => s.calls count next
      | _ => []

/-- A run of the session gets to its first step. -/
def begins (s : Session) : Bool :=
  if s.logLevel ≤ 0 then s.stuck?.isNone
  else
    match s.files.locateForWriting s.logFile with
    | .error _ => false
    | .ok place => (s.files.writeError? place).isNone

/-- What an operation makes the machine do. No log is stuck any more once a run has begun. -/
def deeds (s : Session) (fuel : Nat) : Operation → List Deed
  | .step count => s.calls count s.machine
  | .run => if s.begins then { s with stuck? := none }.calls fuel s.machine else []
  | .readCell => [.reading s.machine s.machine.readCell]
  | _ => []

/-- What operations make the machine do, each on what the one before it left, whether that one failed
or not. -/
def history (s : Session) (fuel : Nat) : List Operation → List Deed
  | [] => []
  | operation :: operations =>
    s.deeds fuel operation ++
      match s.perform fuel operation with
      | none => []
      | some (t, _) => t.history fuel operations

end Session

/-! ## Reads and the tape -/

namespace Machine

variable {p : Program} {m : Machine} {i : Instruction}

/-- What a read does to the tape: a byte that was delivered is put into the cell under the data
cursor, and if there was none the tape is left as it was. So it changes exactly if the byte is another
one than the cell held. -/
structure ReadsOnto (before : Machine) (o : Outcome) : Prop where
  delivered : ∀ value, before.input.peek = .byte value → ∀ place,
    o.machine.tape.get place =
      if place = before.dataCursor then value else before.tape.get place
  nothing : (∀ value, before.input.peek ≠ .byte value) → o.machine.tape = before.tape
  changes : o.machine.tape ≠ before.tape ↔
    ∃ value, before.input.peek = .byte value ∧ value ≠ before.cell

theorem readsOnto_of_tape {o : Outcome} (onTape : m.dataCursor < tapeSize)
    (tape : o.machine.tape = match m.input.peek with
      | .byte value => m.tape.set m.dataCursor value
      | _ => m.tape) : ReadsOnto m o := by
  have delivered : ∀ value, m.input.peek = .byte value → ∀ place,
      o.machine.tape.get place = if place = m.dataCursor then value else m.tape.get place := by
    intro value peek place
    rw [tape, peek]
    exact Tape.get_set m.tape onTape value place
  have nothing : (∀ value, m.input.peek ≠ .byte value) → o.machine.tape = m.tape := by
    intro none
    rw [tape]
    split
    · next value peek => exact absurd peek (none value)
    · rfl
  refine ⟨delivered, nothing, fun changed => ?_, ?_⟩
  · apply Classical.byContradiction
    intro none
    refine changed (Tape.ext_get fun place => ?_)
    by_cases some : ∃ value, m.input.peek = .byte value
    · obtain ⟨value, peek⟩ := some
      rw [delivered value peek place]
      split
      · next here =>
        have same : value = m.cell := by
          apply Classical.byContradiction
          intro other
          exact none ⟨value, peek, other⟩
        rw [same, here, cell]
      · rfl
    · rw [nothing fun value peek => some ⟨value, peek⟩]
  · rintro ⟨value, peek, other⟩ same
    have here := delivered value peek m.dataCursor
    rw [same, if_pos rfl] at here
    exact other here.symm

theorem readsOnto_readCell (onTape : m.dataCursor < tapeSize) : ReadsOnto m m.readCell := by
  apply readsOnto_of_tape onTape
  unfold readCell
  cases m.input.peek <;> rfl

theorem tape_next (o : Outcome) : o.next.machine.tape = o.machine.tape := by
  obtain ⟨m, failure?⟩ := o
  cases failure? <;> rfl

theorem readsOnto_step (onTape : m.dataCursor < tapeSize)
    (fetched : p.fetch? m.instCursor = some .input) : ReadsOnto m (m.step p) := by
  apply readsOnto_of_tape onTape
  have same : m.tick.input.peek = m.input.peek := rfl
  rw [step_of_act fetched rfl, tape_next, act, readCell, same]
  cases m.input.peek <;> rfl

/-- A write succeeds exactly if the output takes a byte. -/
theorem failure?_step_output (fetched : p.fetch? m.instCursor = some .output) :
    (m.step p).failure? = (m.output.refusal? 1).map .system := by
  have same : m.tick.output.refusal? 1 = m.output.refusal? 1 := rfl
  rw [step_of_act fetched rfl, act, writeCell, same]
  cases m.output.refusal? 1 <;> rfl

end Machine

/-! ## Deeds and streams -/

/-- The byte that a deed wrote, and the event that it met, are what became of the streams. -/
structure Deed.Explains (deed : Deed) (m after : Machine) : Prop where
  output : deed.printed? = none ∧ after.output = m.output ∨
    deed.printed? = some m.cell ∧ after.output = (m.output.append [m.cell]).flush
  input : deed.met? = none ∧ after.input = m.input ∨
    deed.met? = some m.input.peek ∧ after.input = m.input.advance
  readsOnto : deed.met? ≠ none → ReadsOnto deed.before deed.outcome

namespace Machine

variable {p : Program} {m : Machine} {i : Instruction}

theorem printed?_of_done {o : Outcome} (done : o.failure? = none) :
    (Deed.attempt .output m o).printed? = some m.cell := by
  obtain ⟨after, failure?⟩ := o
  cases done
  rfl

theorem printed?_of_failed {o : Outcome} {failure : Failure} (failed : o.failure? = some failure) :
    (Deed.attempt .output m o).printed? = none := by
  obtain ⟨after, failure?⟩ := o
  cases failed
  rfl

theorem explains_attempt (onTape : m.dataCursor < tapeSize)
    (fetched : p.fetch? m.instCursor = some i) :
    (Deed.attempt i m (m.step p)).Explains m (m.step p).machine := by
  obtain ⟨input, output⟩ := streams_step fetched
  cases i with
  | output =>
    have fails := failure?_step_output fetched
    refine ⟨?_, .inl ⟨rfl, input⟩, fun met => absurd rfl met⟩
    cases refused : m.output.refusal? 1 with
    | none =>
      rw [refused] at fails
      exact .inr ⟨printed?_of_done fails, output.trans (Output.after_of_room refused m.cell)⟩
    | some error =>
      rw [refused] at fails
      refine .inl ⟨printed?_of_failed fails, ?_⟩
      rw [output, Output.after, refused]
  | input => exact ⟨.inl ⟨rfl, output⟩, .inr ⟨rfl, input⟩, fun _ => readsOnto_step onTape fetched⟩
  | _ => exact ⟨.inl ⟨rfl, output⟩, .inl ⟨rfl, input⟩, fun met => absurd rfl met⟩

theorem streams_readCell (m : Machine) :
    m.readCell.machine.input = m.input.advance ∧ m.readCell.machine.output = m.output := by
  unfold readCell
  split <;> exact ⟨rfl, rfl⟩

theorem explains_reading (onTape : m.dataCursor < tapeSize) :
    (Deed.reading m m.readCell).Explains m m.readCell.machine := by
  obtain ⟨input, output⟩ := streams_readCell m
  exact ⟨.inl ⟨rfl, output⟩, .inr ⟨rfl, input⟩, fun _ => readsOnto_readCell onTape⟩

/-! ### Operations that leave the streams alone -/

theorem MoveCase.streams {offset : Int} {o : Outcome} (moved : MoveCase m offset o) :
    o.machine.input = m.input ∧ o.machine.output = m.output := by
  cases moved <;> exact ⟨rfl, rfl⟩

theorem streams_jump (p : Program) (m : Machine) (stride : Int) :
    (m.jump p stride).machine.dataCursor = m.dataCursor ∧
      (m.jump p stride).machine.input = m.input ∧
      (m.jump p stride).machine.output = m.output := by
  unfold jump
  split <;> exact ⟨rfl, rfl, rfl⟩

end Machine

/-! ## Accounts -/

/-- The accounts of a machine, whose input had some events at the start, after some deeds. -/
structure Accounts (events : List InputEvent) (deeds : List Deed) (m : Machine) : Prop where
  onTape : m.dataCursor < tapeSize
  written : m.output.written.toList = deeds.filterMap Deed.printed?
  flushes : m.output.flushes = m.output.written.size
  pending : m.input.pending = events.drop m.input.reads
  met : deeds.filterMap Deed.met? =
    (List.range m.input.reads).map fun read => events.getD read .endOfInput
  readsOnto : ∀ deed ∈ deeds, deed.met? ≠ none → ReadsOnto deed.before deed.outcome

variable {events : List InputEvent} {deeds : List Deed} {m after : Machine}

theorem accounts_fresh (events : List InputEvent) (limit? : Option OutputLimit) :
    Accounts events [] (fresh (.ofEvents events) (.empty limit?)) where
  onTape := show 0 < tapeSize by decide
  written := rfl
  flushes := rfl
  pending := rfl
  met := rfl
  readsOnto _ member := absurd member List.not_mem_nil

/-- Only the streams and the data cursor count. -/
theorem Accounts.of_same (accounts : Accounts events deeds m) (onTape : after.dataCursor < tapeSize)
    (input : after.input = m.input) (output : after.output = m.output) :
    Accounts events deeds after := by
  obtain ⟨_, written, flushes, pending, met, readsOnto⟩ := accounts
  rw [← output] at written flushes
  rw [← input] at pending met
  exact ⟨onTape, written, flushes, pending, met, readsOnto⟩

/-- Nothing more was done. -/
theorem Accounts.append_nil (accounts : Accounts events deeds m) :
    Accounts events (deeds ++ []) m := by
  rw [List.append_nil]
  exact accounts

/-- The next event is the one whose number is the count of reads. -/
theorem Accounts.peek (accounts : Accounts events deeds m) :
    m.input.peek = events.getD m.input.reads .endOfInput := by
  rw [Input.peek, accounts.pending, List.headD_eq_head?_getD, List.head?_drop,
    List.getD_eq_getElem?_getD]

theorem Accounts.add (accounts : Accounts events deeds m) {deed : Deed}
    (onTape : after.dataCursor < tapeSize) (explains : deed.Explains m after) :
    Accounts events (deeds ++ [deed]) after where
  onTape := onTape
  written := by
    rcases explains.output with ⟨printed, output⟩ | ⟨printed, output⟩
    · rw [output, List.filterMap_append, List.filterMap_cons_none printed, List.filterMap_nil,
        List.append_nil]
      exact accounts.written
    · rw [output, List.filterMap_append, List.filterMap_cons_some printed, ← accounts.written]
      exact Output.written_append m.output [m.cell]
  flushes := by
    rcases explains.output with ⟨_, output⟩ | ⟨_, output⟩
    · rw [output]
      exact accounts.flushes
    · rw [output, size_written_write, ← accounts.flushes]
      rfl
  pending := by
    rcases explains.input with ⟨_, input⟩ | ⟨_, input⟩
    · rw [input]
      exact accounts.pending
    · rw [input, Input.pending_advance, Input.reads_advance, accounts.pending, List.drop_drop]
  met := by
    rcases explains.input with ⟨met, input⟩ | ⟨met, input⟩
    · rw [input, List.filterMap_append, List.filterMap_cons_none met, List.filterMap_nil,
        List.append_nil]
      exact accounts.met
    · rw [input, List.filterMap_append, List.filterMap_cons_some met, Input.reads_advance,
        List.range_succ, List.map_append, ← accounts.met, accounts.peek]
      rfl
  readsOnto := by
    intro other member met
    rcases List.mem_append.mp member with earlier | here
    · exact accounts.readsOnto other earlier met
    · cases List.mem_singleton.mp here
      exact explains.readsOnto met

/-! ## Steps and runs -/

namespace Session

variable {s t : Session} {fuel : Nat}

/-- What a step attempts is what it does to the machine, if it attempts anything. -/
theorem attempts_cases (s : Session) (m : Machine) :
    s.attempts m = [] ∧ ((s.step m).machine = m ∨ (s.step m).machine = m.tick) ∨
    ∃ i, s.program.fetch? m.instCursor = some i ∧
      s.attempts m = [.attempt i m (m.step s.program)] ∧
      (s.step m).machine = (m.step s.program).machine := by
  unfold attempts
  cases fetched : s.program.fetch? m.instCursor with
  | none =>
    refine .inl ⟨rfl, .inl ?_⟩
    unfold Session.step
    split
    · rw [Machine.step, fetched]
    · rw [stepStuck, fetched]
  | some i =>
    simp only
    cases stuck : s.stuck? with
    | none =>
      refine .inr ⟨i, rfl, if_neg (fun noted => absurd noted.1 (by simp)), ?_⟩
      rw [Session.step, stuck]
    | some error =>
      rw [Session.step, stuck]
      simp only [stepStuck, fetched]
      by_cases noted : (m.attempt i).level ≤ s.logLevel
      · rw [if_pos ⟨rfl, noted⟩, if_pos noted]
        exact .inl ⟨rfl, .inr rfl⟩
      · rw [if_neg (fun both => noted both.2), if_neg noted]
        refine .inr ⟨i, rfl, rfl, ?_⟩
        split
        · exact machine_noteJump ..
        · rfl

theorem accounts_step (accounts : Accounts events deeds m) (s : Session) :
    Accounts events (deeds ++ s.attempts m) (s.step m).machine := by
  rcases attempts_cases s m with ⟨none, same | same⟩ | ⟨i, fetched, some, same⟩
  · rw [none, same]
    exact accounts.append_nil
  · have ticked : Accounts events deeds m.tick := accounts.of_same accounts.onTape rfl rfl
    rw [none, same]
    exact ticked.append_nil
  · rw [some, same]
    exact accounts.add ((step_cases s.program m).onTape accounts.onTape)
      (explains_attempt accounts.onTape fetched)

/-- The induction is on the number of calls, and it stops with the first one that fails. -/
theorem accounts_calls (s : Session) (count : Nat) (accounts : Accounts events deeds m) :
    Accounts events (deeds ++ s.calls count m) (iterate s.step count m).machine := by
  induction count generalizing m deeds with
  | zero => exact accounts.append_nil
  | succ count ih =>
    have first := accounts_step accounts s
    rw [calls, iterate]
    rcases stepped : s.step m with ⟨next, _ | failure⟩ <;> rw [stepped] at first
    · rw [← List.append_assoc]
      exact ih first
    · rw [List.append_nil]
      exact first

/-- A run that begins calls steps of the machine, with a log or without, and a run that does not
begin leaves the machine as it is. -/
theorem accounts_run {answer : Answer} (accounts : Accounts events deeds s.machine)
    (ran : s.run fuel = some (t, answer)) :
    Accounts events (deeds ++ s.deeds fuel .run) t.machine := by
  have begun : ∀ {o : Outcome}, s.machine.run s.program fuel = some o → s.begins = true →
      Accounts events (deeds ++ s.deeds fuel .run) o.machine := by
    intro o outcome begins
    have called := accounts_calls { s with stuck? := none } fuel accounts
    rw [← iterate_of_run outcome, Session.deeds, if_pos begins]
    exact called
  have idle : s.begins = false → Accounts events (deeds ++ s.deeds fuel .run) s.machine := by
    intro begins
    rw [Session.deeds, begins]
    exact accounts.append_nil
  cases run_cases ran with
  | stuck quiet stuck => exact idle (by rw [begins, if_pos quiet, stuck]; rfl)
  | unlogged quiet closed outcome => exact begun outcome (by rw [begins, if_pos quiet, closed]; rfl)
  | unopened loud refused => exact idle (by rw [begins, if_neg (Int.not_le.mpr loud), refused])
  | unwritten loud located refused =>
    exact idle (by simp only [begins, if_neg (Int.not_le.mpr loud), located, refused]; rfl)
  | @logged place o log loud located writable steps =>
    have kept := begun (run_of_logging steps)
      (by simp only [begins, if_neg (Int.not_le.mpr loud), located, writable]; rfl)
    rw [← machine_logged s place o log] at kept
    exact kept

/-! ## Operations -/

theorem machine_jump (s : Session) (stride : Int) :
    (s.jump stride).machine = (s.machine.jump s.program stride).machine := by
  unfold jump
  split
  · exact machine_noteJump ..
  · rfl

theorem accounts_perform {operation : Operation} {answer : Answer} (regular : operation.Regular)
    (accounts : Accounts events deeds s.machine)
    (performed : s.perform fuel operation = some (t, answer)) :
    Accounts events (deeds ++ s.deeds fuel operation) t.machine := by
  cases operation with
  | run => exact accounts_run accounts performed
  | step count =>
    cases performed
    exact accounts_calls s count accounts
  | readCell =>
    cases performed
    exact accounts.add ((cursors_readCell s.machine).2.symm ▸ accounts.onTape)
      (explains_reading accounts.onTape)
  | moveDataCursor offset =>
    cases performed
    have moved := moveDataCursor_cases s.machine offset
    exact (accounts.of_same (moved.onTape accounts.onTape) moved.streams.1
      moved.streams.2).append_nil
  | jump stride =>
    cases performed
    have kept : Accounts events deeds (s.jump stride).machine := by
      obtain ⟨same, input, output⟩ := streams_jump s.program s.machine stride
      rw [machine_jump]
      exact accounts.of_same (same.symm ▸ accounts.onTape) input output
    exact kept.append_nil
  | findMatch origin stride =>
    simp only [perform] at performed
    split at performed <;> cases performed <;> exact accounts.append_nil
  | setLogLevel level =>
    cases performed
    exact accounts.append_nil
  | setCell _ _ => exact regular.elim
  | setDataCursor _ => exact regular.elim
  | setInstCursor _ => exact regular.elim

theorem history_cons {operation : Operation} {answer : Answer}
    (first : s.perform fuel operation = some (t, answer)) (operations : List Operation) :
    s.history fuel (operation :: operations) =
      s.deeds fuel operation ++ t.history fuel operations := by
  rw [history, first]

/-- The induction is on the operations: each one begins with the accounts that the one before it
left. -/
theorem accounts_performAll {operations : List Operation} {answers : List Answer}
    (regular : ∀ operation ∈ operations, operation.Regular)
    (accounts : Accounts events deeds s.machine)
    (performed : s.performAll fuel operations = some (t, answers)) :
    Accounts events (deeds ++ s.history fuel operations) t.machine := by
  induction operations generalizing s deeds answers with
  | nil =>
    cases performed
    exact accounts.append_nil
  | cons operation operations ih =>
    obtain ⟨next, answer, later, first, rest⟩ := performAll_cons performed
    have kept := accounts_perform (regular operation List.mem_cons_self) accounts first
    rw [history_cons first, ← List.append_assoc]
    exact ih (fun other member => regular other (List.mem_cons_of_mem _ member)) kept rest

/-! ## Counts -/

theorem length_met (deeds : List Deed) : (deeds.filterMap Deed.met?).length =
    deeds.countP (Deed.attempts .input) + deeds.countP Deed.isReading := by
  induction deeds with
  | nil => rfl
  | cons deed deeds ih =>
    have more (event : InputEvent) : (event :: deeds.filterMap Deed.met?).length =
        deeds.countP (Deed.attempts .input) + deeds.countP Deed.isReading + 1 := by
      rw [List.length_cons, ih]
    rw [List.countP_cons, List.countP_cons]
    cases deed with
    | reading before _ => exact more before.input.peek
    | attempt i before _ =>
      cases i with
      | input => exact (more before.input.peek).trans (Nat.add_right_comm ..)
      | _ => exact ih

theorem countP_isReading_attempts (s : Session) (m : Machine) :
    (s.attempts m).countP Deed.isReading = 0 := by
  unfold attempts
  split
  · rfl
  · split <;> rfl

theorem countP_isReading_calls (s : Session) (count : Nat) (m : Machine) :
    (s.calls count m).countP Deed.isReading = 0 := by
  induction count generalizing m with
  | zero => rfl
  | succ count ih =>
    rw [calls, List.countP_append, countP_isReading_attempts, Nat.zero_add]
    split
    · exact ih _
    · rfl

theorem countP_isReading_deeds (s : Session) (fuel : Nat) (operation : Operation) :
    (s.deeds fuel operation).countP Deed.isReading = if operation = .readCell then 1 else 0 := by
  cases operation with
  | step count => exact countP_isReading_calls s count s.machine
  | run =>
    rw [deeds]
    split
    · exact countP_isReading_calls _ fuel s.machine
    · rfl
  | _ => rfl

theorem countP_isReading_history {operations : List Operation} {answers : List Answer}
    (performed : s.performAll fuel operations = some (t, answers)) :
    (s.history fuel operations).countP Deed.isReading = operations.count .readCell := by
  induction operations generalizing s answers with
  | nil => rfl
  | cons operation operations ih =>
    obtain ⟨next, answer, later, first, rest⟩ := performAll_cons performed
    rw [history_cons first, List.countP_append, countP_isReading_deeds, ih rest, List.count_cons,
      Nat.add_comm]
    simp only [beq_iff_eq]

/-! ## Sessions that start afresh -/

/-- Whatever a session is asked to do from the start on, and however often it fails in between: what
has been written are the cells of the writes that succeeded, in order, with a flush for each and no
other flush. A byte has been asked for once for each attempt of the instruction that reads and once for
each direct read. These requests met the events of the input one after the other, and behind them its
end, so what is left are the events from there on. Each of them put the byte that it met into the cell
under the data cursor, and left the tape as it was if it met none: so it changed the tape exactly if
the byte was another one than the cell held. -/
theorem streams_of_performAll {program : Program} {events : List InputEvent}
    {limit? : Option OutputLimit} {level : Int} {file : Text} {files : FileTree} {t : Session}
    {fuel : Nat} {operations : List Operation} {answers : List Answer}
    (regular : ∀ operation ∈ operations, operation.Regular)
    (performed : (start program (.ofEvents events) (.empty limit?) level file files).performAll fuel
      operations = some (t, answers)) :
    let deeds := (start program (.ofEvents events) (.empty limit?) level file files).history fuel
      operations
    let reads := deeds.countP (Deed.attempts .input) + operations.count .readCell
    t.machine.output.written.toList = deeds.filterMap Deed.printed? ∧
    t.machine.output.flushes = (deeds.filterMap Deed.printed?).length ∧
    t.machine.input.reads = reads ∧
    t.machine.input.pending = events.drop reads ∧
    deeds.filterMap Deed.met? = (List.range reads).map (fun read => events.getD read .endOfInput) ∧
    ∀ deed ∈ deeds, deed.met? ≠ none → ReadsOnto deed.before deed.outcome := by
  intro deeds reads
  have accounts : Accounts events deeds t.machine :=
    accounts_performAll regular (accounts_fresh events limit?) performed
  have counted : t.machine.input.reads = reads := by
    have met := congrArg List.length accounts.met
    rw [length_met, List.length_map, List.length_range] at met
    rw [← met, countP_isReading_history performed]
  refine ⟨accounts.written, ?_, counted, ?_, ?_, accounts.readsOnto⟩
  · rw [← accounts.written, Array.length_toList]
    exact accounts.flushes
  · rw [← counted]
    exact accounts.pending
  · rw [← counted]
    exact accounts.met

/-- A direct read, an attempt that meets a system error, a run whose log cannot be written and a step
that has to be noted in it. Later attempts meet no data and the end of the input, and of two bytes that
are to be written the output takes one. -/
theorem streams_of_performAll_failures :
    let events : List InputEvent := [.byte 65, .systemError .inputOutput, .noData]
    let s := start (.ofList [.input, .output, .input, .output]) (.ofEvents events)
      (.empty (some ⟨1, .noSpace⟩)) 0 "/dev/full" .empty
    let operations := [.readCell, .run, .setLogLevel 3, .run, .step 1, .setLogLevel 0, .step 3,
      .moveDataCursor (-5), .jump 2, .step 1]
    (∀ operation ∈ operations, operation.Regular) ∧ ∃ t answers,
      s.performAll 9 operations = some (t, answers) ∧ t.machine.output.written.toList = [65] ∧
      t.machine.output.flushes = 1 ∧ t.machine.input.reads = 4 ∧ t.machine.input.pending = [] := by
  intro events s operations
  have regular : ∀ operation ∈ operations, operation.Regular := by decide
  have answered : (s.performAll 9 operations).isSome = true := by decide +kernel
  obtain ⟨⟨t, answers⟩, performed⟩ := Option.isSome_iff_exists.mp answered
  have printed : (s.history 9 operations).filterMap Deed.printed? = [65] := by decide +kernel
  have attempted : (s.history 9 operations).countP (Deed.attempts .input) = 3 := by decide +kernel
  obtain ⟨written, flushes, reads, pending, _, _⟩ := streams_of_performAll regular performed
  rw [printed] at written flushes
  rw [attempted] at reads pending
  exact ⟨regular, t, answers, performed, written, flushes, reads, pending⟩

end Session

end TapeMachine

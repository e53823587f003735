import TapeMachine.Proofs.Machine.Faults

/-!
# Moving a run along the tape

A program cannot tell where on the tape it is. If the data cursor starts some places farther to the
right, everything happens as many places farther to the right, as long as neither run leaves the
tape. The relation that both runs keep also speaks of the two margins: the cells at the far end that
have no counterpart on the moved tape, and those at the near end of the moved tape that are none. No
run ever comes to its margin without the other one leaving the tape, so the margins stay blank.

Results:
1. `Moved.set`: a byte is written at one place and at the place moved along with it.
2. `Translated.act`: what one instruction does to both machines.
3. `Translated.step`, `Translated.iterate`: what a step and any number of steps do to them.
4. `iterate_translated`: two runs from the start.
-/

namespace TapeMachine

/-- One tape is another one moved some places to the right. The cells that this takes off the far end
are blank, and so are those that it leaves at the near end. -/
structure Tape.Moved (k : Nat) (t u : Tape) : Prop where
  cell : ∀ place, place + k < tapeSize → u.get (place + k) = t.get place
  ahead : ∀ place, tapeSize ≤ place + k → t.get place = 0
  behind : ∀ place < k, u.get place = 0

namespace Tape

variable {k : Nat} {t u : Tape}

theorem moved_blank (k : Nat) : Moved k blank blank where
  cell place _ := by rw [get_blank, get_blank]
  ahead place _ := get_blank place
  behind place _ := get_blank place

theorem Moved.set (moved : Moved k t u) {place : Nat} (inside : place + k < tapeSize)
    (value : UInt8) : Moved k (t.set place value) (u.set (place + k) value) where
  cell other within := by
    rw [get_set u inside, get_set t (by omega)]
    by_cases same : other = place
    · rw [if_pos same, if_pos (by rw [same])]
    · rw [if_neg same, if_neg (by omega)]
      exact moved.cell other within
  ahead other beyond := by
    rw [get_set_other t (by omega)]
    exact moved.ahead other beyond
  behind other before := by
    rw [get_set_other u (by omega)]
    exact moved.behind other before

end Tape

/-- The operation failed because it would have taken the data cursor off the tape. -/
def Outcome.LeavesTape (o : Outcome) : Prop :=
  ∃ position cursor, o.failure? = some (.fault (.offTape position cursor))

namespace Machine

/-- One machine is another one moved some places to the right on its tape, and otherwise the same. -/
structure Translated (k : Nat) (m r : Machine) : Prop where
  instCursor : r.instCursor = m.instCursor
  steps : r.steps = m.steps
  input : r.input = m.input
  output : r.output = m.output
  dataCursor : r.dataCursor = m.dataCursor + k
  onTape : r.dataCursor < tapeSize
  tape : Tape.Moved k m.tape r.tape

end Machine

/-- The outcomes of two such machines: both have the same failure, or none. -/
structure Outcome.Translated (k : Nat) (o other : Outcome) : Prop where
  failure? : other.failure? = o.failure?
  machine : Machine.Translated k o.machine other.machine

namespace Machine

variable {p : Program} {k : Nat} {m r : Machine}

theorem translated_fresh (input : Input) (output : Output) (inside : k < tapeSize) :
    Translated k (fresh input output) { fresh input output with dataCursor := k } :=
  ⟨rfl, rfl, rfl, rfl, (Nat.zero_add k).symm, inside, Tape.moved_blank k⟩

/-! ## What both machines see -/

theorem Translated.inside (translated : Translated k m r) : m.dataCursor + k < tapeSize :=
  translated.dataCursor ▸ translated.onTape

theorem Translated.cell_eq (translated : Translated k m r) : r.cell = m.cell := by
  rw [cell, cell, translated.dataCursor]
  exact translated.tape.cell m.dataCursor translated.inside

theorem Translated.jumpStride?_eq (translated : Translated k m r) (i : Instruction) :
    r.jumpStride? i = m.jumpStride? i := by
  cases i <;> simp [jumpStride?, translated.cell_eq]

/-! ## What both machines do -/

theorem Translated.setCell (translated : Translated k m r) (value : UInt8) :
    Translated k (m.setCell value) (r.setCell value) := by
  refine { translated with tape := ?_ }
  have moved := translated.tape.set translated.inside value
  rw [← translated.dataCursor] at moved
  exact moved

theorem Translated.consume (translated : Translated k m r) : Translated k m.consume r.consume :=
  { translated with input := congrArg Input.advance translated.input }

theorem Translated.tick (translated : Translated k m r) : Translated k m.tick r.tick :=
  { translated with steps := congrArg (· + 1) translated.steps }

theorem translated_next {o other : Outcome} (translated : Outcome.Translated k o other) :
    Outcome.Translated k o.next other.next := by
  obtain ⟨m, failure?⟩ := o
  obtain ⟨r, other?⟩ := other
  obtain ⟨same, machine⟩ := translated
  cases same
  cases failure? with
  | none => exact ⟨rfl, { machine with instCursor := congrArg (· + 1) machine.instCursor }⟩
  | some failure => exact ⟨rfl, machine⟩

/-- A move by one place that does not leave the tape lands on it. -/
theorem moveDataCursor_of_stays {offset : Int} (single : offset.natAbs = 1)
    (onTape : m.dataCursor < tapeSize) (stays : ¬(m.moveDataCursor offset).LeavesTape) :
    ∃ place : Nat, m.dataCursor + offset = place ∧ place < tapeSize := by
  apply Classical.byContradiction
  intro none
  have size : tapeSize = 30000 := rfl
  have outside : ¬(0 ≤ m.dataCursor + offset ∧ m.dataCursor + offset < tapeSize) := by
    rintro ⟨above, below⟩
    obtain ⟨place, lands⟩ := Int.eq_ofNat_of_zero_le above
    exact none ⟨place, lands, by omega⟩
  have near : (m.dataCursor + offset).natAbs < 1000000 := by omega
  rw [moveDataCursor_off rfl outside near] at stays
  exact stays ⟨_, _, rfl⟩

theorem Translated.moveDataCursor (translated : Translated k m r) {offset : Int}
    (single : offset.natAbs = 1) (stays : ¬(m.moveDataCursor offset).LeavesTape)
    (alsoStays : ¬(r.moveDataCursor offset).LeavesTape) :
    Outcome.Translated k (m.moveDataCursor offset) (r.moveDataCursor offset) := by
  have onTape : m.dataCursor < tapeSize := Nat.lt_of_le_of_lt (Nat.le_add_right ..) translated.inside
  obtain ⟨place, lands, inside⟩ := moveDataCursor_of_stays single onTape stays
  obtain ⟨other, alsoLands, alsoInside⟩ :=
    moveDataCursor_of_stays single translated.onTape alsoStays
  rw [moveDataCursor_inside lands inside, moveDataCursor_inside alsoLands alsoInside]
  have along : other = place + k := by
    have apart := translated.dataCursor
    omega
  exact ⟨rfl, { translated with dataCursor := along, onTape := alsoInside }⟩

theorem Translated.readCell (translated : Translated k m r) :
    Outcome.Translated k m.readCell r.readCell := by
  unfold Machine.readCell
  rw [translated.input, translated.instCursor]
  have used := translated.consume
  cases m.input.peek with
  | byte value => exact ⟨rfl, used.setCell value⟩
  | _ => exact ⟨rfl, used⟩

theorem Translated.writeCell (translated : Translated k m r) :
    Outcome.Translated k m.writeCell r.writeCell := by
  unfold Machine.writeCell
  rw [translated.output, translated.cell_eq]
  cases m.output.refusal? 1 with
  | none => exact ⟨rfl, { translated with output := rfl }⟩
  | some error => exact ⟨rfl, translated⟩

theorem Translated.jump (translated : Translated k m r) (p : Program) (stride : Int) :
    Outcome.Translated k (m.jump p stride) (r.jump p stride) := by
  unfold Machine.jump
  rw [translated.instCursor]
  cases findMatch p m.instCursor stride with
  | ok partner => exact ⟨rfl, { translated with instCursor := rfl }⟩
  | error failure => exact ⟨rfl, translated⟩

theorem Translated.act (translated : Translated k m r) {i : Instruction}
    (stays : ¬(m.act i).LeavesTape) (alsoStays : ¬(r.act i).LeavesTape) :
    Outcome.Translated k (m.act i) (r.act i) := by
  cases i with
  | moveRight =>
    rw [Machine.act] at stays alsoStays ⊢
    exact translated.moveDataCursor rfl stays alsoStays
  | moveLeft =>
    rw [Machine.act] at stays alsoStays ⊢
    exact translated.moveDataCursor rfl stays alsoStays
  | increment =>
    rw [Machine.act, Machine.act, translated.cell_eq]
    exact ⟨rfl, translated.setCell _⟩
  | decrement =>
    rw [Machine.act, Machine.act, translated.cell_eq]
    exact ⟨rfl, translated.setCell _⟩
  | output => exact translated.writeCell
  | input => exact translated.readCell
  | jumpForward => exact ⟨rfl, translated⟩
  | jumpBackward => exact ⟨rfl, translated⟩

/-! ## Steps -/

theorem leavesTape_next (o : Outcome) : o.next.LeavesTape ↔ o.LeavesTape := by
  rw [Outcome.LeavesTape, failure?_next]
  rfl

/-- As long as neither of them leaves the tape, both machines take the same step. -/
theorem Translated.step (translated : Translated k m r) (stays : ¬(m.step p).LeavesTape)
    (alsoStays : ¬(r.step p).LeavesTape) : Outcome.Translated k (m.step p) (r.step p) := by
  cases fetched : p.fetch? m.instCursor with
  | none =>
    have same : p.fetch? r.instCursor = none := translated.instCursor ▸ fetched
    rw [Machine.step, Machine.step, fetched, same]
    exact ⟨rfl, translated⟩
  | some i =>
    have same : p.fetch? r.instCursor = some i := translated.instCursor ▸ fetched
    have strides := translated.jumpStride?_eq i
    cases jumps : m.jumpStride? i with
    | none =>
      rw [step_of_act fetched jumps, leavesTape_next] at stays
      rw [step_of_act same (strides.trans jumps), leavesTape_next] at alsoStays
      rw [step_of_act fetched jumps, step_of_act same (strides.trans jumps)]
      exact translated_next (translated.tick.act stays alsoStays)
    | some stride =>
      rw [step_of_jump fetched jumps, step_of_jump same (strides.trans jumps)]
      exact translated.tick.jump p stride

theorem leavesTape_iterate {operate : Machine → Outcome} (leaves : (operate m).LeavesTape)
    (count : Nat) : (iterate operate (count + 1) m).LeavesTape := by
  obtain ⟨position, cursor, failed⟩ := leaves
  unfold iterate
  rcases operated : operate m with ⟨next, _ | failure⟩ <;> rw [operated] at failed
  · cases failed
  · exact ⟨position, cursor, failed⟩

/-- The induction is on the steps: the first one fails for both machines, or leaves both of them to
the rest. -/
theorem Translated.iterate (translated : Translated k m r) {count : Nat}
    (stays : ¬(Machine.iterate (Machine.step p) count m).LeavesTape)
    (alsoStays : ¬(Machine.iterate (Machine.step p) count r).LeavesTape) :
    Outcome.Translated k (Machine.iterate (Machine.step p) count m)
      (Machine.iterate (Machine.step p) count r) := by
  induction count generalizing m r with
  | zero => exact ⟨rfl, translated⟩
  | succ count ih =>
    have together : Outcome.Translated k (m.step p) (r.step p) :=
      translated.step (fun leaves => stays (leavesTape_iterate leaves count))
        fun leaves => alsoStays (leavesTape_iterate leaves count)
    unfold Machine.iterate at stays alsoStays ⊢
    rcases stepped : m.step p with ⟨next, failure?⟩
    rcases alsoStepped : r.step p with ⟨other, other?⟩
    rw [stepped] at stays together
    rw [alsoStepped] at alsoStays together
    obtain ⟨same, after⟩ := together
    cases same
    cases failure? with
    | none => exact ih after stays alsoStays
    | some failure => exact ⟨rfl, after⟩

/-- Two fresh machines are alike, but for the data cursor of the second one, which starts at another
place of the tape. If neither of them leaves the tape in a number of steps, then after these steps, or
after the failure that both of them come to before, they are still alike: the second one is the first
one moved along the tape, with the same instruction cursor, count of steps, input and output. -/
theorem iterate_translated (p : Program) (input : Input) (output : Output) {k : Nat}
    (inside : k < tapeSize) (count : Nat) :
    let first := iterate (step p) count (fresh input output)
    let second := iterate (step p) count { fresh input output with dataCursor := k }
    ¬first.LeavesTape → ¬second.LeavesTape →
      second.failure? = first.failure? ∧ Translated k first.machine second.machine := by
  intro first second stays alsoStays
  have together := (translated_fresh input output inside).iterate stays alsoStays
  exact ⟨together.failure?, together.machine⟩

/-- A loop that adds one cell to the next one, at the start of the tape and seven places farther on.
The byte that is to be written in the end is refused in both places. -/
theorem iterate_translated_loop :
    let p := Program.ofList [.input, .jumpForward, .moveRight, .increment, .moveLeft, .decrement,
      .jumpBackward, .moveRight, .output]
    let start := fresh (.ofBytes [2]) (.empty (some ⟨0, .noSpace⟩))
    let first := iterate (step p) 20 start
    let second := iterate (step p) 20 { start with dataCursor := 7 }
    7 < tapeSize ∧ ¬first.LeavesTape ∧ ¬second.LeavesTape ∧
      second.failure? = some (.system .noSpace) ∧ second.machine.steps = 14 ∧
      second.machine.tape.get (1 + 7) = first.machine.tape.get 1 := by
  intro p start first second
  have refused : first.failure? = some (.system .noSpace) ∧
      second.failure? = some (.system .noSpace) ∧ first.machine.steps = 14 := by
    decide +kernel
  obtain ⟨refused, alsoRefused, steps⟩ := refused
  have stays : ¬first.LeavesTape := by
    rintro ⟨_, _, failed⟩
    rw [refused] at failed
    cases failed
  have alsoStays : ¬second.LeavesTape := by
    rintro ⟨_, _, failed⟩
    rw [alsoRefused] at failed
    cases failed
  obtain ⟨_, translated⟩ : _ ∧ Translated 7 first.machine second.machine :=
    iterate_translated p (.ofBytes [2]) (.empty (some ⟨0, .noSpace⟩))
      (show 7 < tapeSize by decide) 20 stays alsoStays
  exact ⟨by decide, stays, alsoStays, alsoRefused, translated.steps.trans steps,
    translated.tape.cell 1 (by decide)⟩

end Machine

end TapeMachine

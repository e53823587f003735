import TapeMachine.Proofs.Machine.Effects

/-!
# Programs without loops and streams

A program that only moves the data cursor and counts cells up and down does the same on every run.
The front of it that has been carried out tells where the data cursor stands: as far to the right as
there are more moves to the right than to the left. It tells every cell as well: the number of times
that the program counted up there, less the number of times that it counted down, taken modulo 256.
The first instruction that would take the data cursor off the tape is where the run ends.

Results:
1. `displacement_succ`, `balance_succ`: what one more instruction adds to the front.
2. `step_inside`, `step_leaves`: a step that stays on the tape, and one that leaves it.
3. `exists_steps`: what a front of the program computes.
4. `run_of_straightLine`: where the run ends, and what it leaves.
-/

namespace TapeMachine

namespace Instruction

/-- The instruction moves the data cursor, or counts the cell under it up or down. -/
def isLocal : Instruction → Bool
  | .moveRight => true
  | .moveLeft => true
  | .increment => true
  | .decrement => true
  | _ => false

/-- How far the instruction moves the data cursor to the right. -/
def offset : Instruction → Int
  | .moveRight => 1
  | .moveLeft => -1
  | _ => 0

/-- How far the instruction counts the cell up. -/
def change : Instruction → Int
  | .increment => 1
  | .decrement => -1
  | _ => 0

end Instruction

namespace Program

/-- How many moves to the right there are in a front of the program, less those to the left. -/
def displacement (p : Program) (front : Nat) : Int :=
  (p.toList.take front).count .moveRight - (p.toList.take front).count .moveLeft

/-- How often an instruction stands in a front of the program where the displacement is a place. -/
def occurrences (p : Program) (i : Instruction) (place front : Nat) : Nat :=
  (List.range front).countP fun position =>
    p.fetch? position = some i ∧ p.displacement position = place

/-- How often a front of the program counts up at a place, less how often it counts down there. -/
def balance (p : Program) (place front : Nat) : Int :=
  p.occurrences .increment place front - p.occurrences .decrement place front

/-- A front of the program leads to a place on the tape. -/
def StaysInside (p : Program) (front : Nat) : Prop :=
  0 ≤ p.displacement front ∧ p.displacement front < tapeSize

/-- The program consists of moves and counts only. -/
def StraightLine (p : Program) : Prop :=
  ∀ i ∈ p.toList, i.isLocal = true

instance (p : Program) (front : Nat) : Decidable (p.StaysInside front) :=
  inferInstanceAs (Decidable (_ ∧ _))

instance (p : Program) : Decidable p.StraightLine :=
  inferInstanceAs (Decidable (∀ i ∈ p.toList, i.isLocal = true))

variable {p : Program} {i : Instruction} {front : Nat}

theorem StraightLine.fetch? (straight : p.StraightLine) (inside : front < p.size) :
    ∃ i, p.fetch? front = some i ∧ i.isLocal = true := by
  rw [← length_toList] at inside
  refine ⟨p.toList[front], ?_, straight _ (List.getElem_mem inside)⟩
  rw [fetch?_eq, List.getElem?_eq_getElem inside]

theorem displacement_zero (p : Program) : p.displacement 0 = 0 := rfl

theorem balance_zero (p : Program) (place : Nat) : p.balance place 0 = 0 := rfl

theorem displacement_succ (fetched : p.fetch? front = some i) :
    p.displacement (front + 1) = p.displacement front + i.offset := by
  rw [fetch?_eq] at fetched
  simp only [displacement, List.take_add_one, fetched, Option.toList_some, List.count_append]
  cases i <;> simp [Instruction.offset] <;> omega

theorem occurrences_succ (other : Instruction) (place : Nat) (fetched : p.fetch? front = some i) :
    p.occurrences other place (front + 1) = p.occurrences other place front +
      if i = other ∧ p.displacement front = place then 1 else 0 := by
  simp only [occurrences, List.range_succ, List.countP_append, List.countP_singleton, fetched,
    Option.some.injEq, decide_eq_true_eq]

theorem balance_succ (place : Nat) (fetched : p.fetch? front = some i) :
    p.balance place (front + 1) =
      p.balance place front + if p.displacement front = place then i.change else 0 := by
  simp only [balance, occurrences_succ _ place fetched]
  by_cases here : p.displacement front = place
  · cases i <;> simp [here, Instruction.change] <;> omega
  · simp [here]

end Program

namespace Machine
open Program

variable {p : Program} {i : Instruction} {front : Nat} {start m : Machine}

/-- The machine is where a front of the program leads to, and has computed what that computes. The
streams are those of the start. -/
structure Computed (p : Program) (front : Nat) (start m : Machine) : Prop where
  instCursor : m.instCursor = front
  dataCursor : (m.dataCursor : Int) = p.displacement front
  cells : ∀ place < tapeSize, ((m.tape.get place).toNat : Int) = p.balance place front % 256
  input : m.input = start.input
  output : m.output = start.output

theorem computed_fresh (p : Program) (input : Input) (output : Output) :
    Computed p 0 (fresh input output) (fresh input output) where
  instCursor := rfl
  dataCursor := rfl
  cells place _ := by
    rw [balance_zero, fresh, Tape.get_blank]
    rfl
  input := rfl
  output := rfl

theorem Computed.fetched (computed : Computed p front start m) (here : p.fetch? front = some i) :
    p.fetch? m.instCursor = some i := by
  rw [computed.instCursor, here]

theorem Computed.move {place : Nat} (computed : Computed p front start m)
    (here : p.fetch? front = some i) (moves : i.change = 0)
    (lands : p.displacement (front + 1) = place) :
    Computed p (front + 1) start
      { m.tick with dataCursor := place, instCursor := m.instCursor + 1 } where
  instCursor := congrArg (· + 1) computed.instCursor
  dataCursor := lands.symm
  cells other inside := by
    rw [balance_succ other here, moves, ite_self, Int.add_zero]
    exact computed.cells other inside
  input := computed.input
  output := computed.output

theorem Computed.count {value : UInt8} (computed : Computed p front start m)
    (here : p.fetch? front = some i) (onTape : m.dataCursor < tapeSize) (stands : i.offset = 0)
    (counted : (value.toNat : Int) = (m.cell.toNat + i.change) % 256) :
    Computed p (front + 1) start { m.tick.setCell value with instCursor := m.instCursor + 1 } where
  instCursor := congrArg (· + 1) computed.instCursor
  dataCursor := by
    rw [displacement_succ here, stands, Int.add_zero]
    exact computed.dataCursor
  cells place inside := by
    have before := computed.cells place inside
    show (((m.tape.set m.dataCursor value).get place).toNat : Int) = _
    rw [Tape.get_set _ onTape, balance_succ place here, ← computed.dataCursor]
    by_cases under : place = m.dataCursor
    · subst under
      rw [if_pos rfl, if_pos rfl, counted, cell, before, Int.emod_add_emod]
    · rw [if_neg under, if_neg (by omega), Int.add_zero, before]
  input := computed.input
  output := computed.output

/-! ## Steps -/

theorem toNat_add_one (value : UInt8) :
    ((value + 1).toNat : Int) = (value.toNat + 1) % 256 := by
  rw [UInt8.toNat_add]
  rfl

theorem toNat_sub_one (value : UInt8) :
    ((value - 1).toNat : Int) = (value.toNat + -1) % 256 := by
  have bound := value.toNat_lt
  rw [UInt8.toNat_sub]
  have one : (1 : UInt8).toNat = 1 := rfl
  omega

theorem moves_or_counts (m : Machine) (isLocal : i.isLocal = true) :
    (i.change = 0 ∧ m.act i = m.moveDataCursor i.offset) ∨
    i.offset = 0 ∧ ∃ value : UInt8, (value.toNat : Int) = (m.cell.toNat + i.change) % 256 ∧
      m.act i = ⟨m.setCell value, none⟩ := by
  cases i with
  | moveRight => exact .inl ⟨rfl, rfl⟩
  | moveLeft => exact .inl ⟨rfl, rfl⟩
  | increment => exact .inr ⟨rfl, _, toNat_add_one m.cell, rfl⟩
  | decrement => exact .inr ⟨rfl, _, toNat_sub_one m.cell, rfl⟩
  | _ => cases isLocal

theorem jumpStride?_of_isLocal (m : Machine) (isLocal : i.isLocal = true) :
    m.jumpStride? i = none := by
  cases i with
  | jumpForward => cases isLocal
  | jumpBackward => cases isLocal
  | _ => rfl

/-- An instruction that stays on the tape adds to what has been computed. -/
theorem step_inside (computed : Computed p front start m) (here : p.fetch? front = some i)
    (isLocal : i.isLocal = true) (inside : p.StaysInside (front + 1)) :
    ∃ next, m.step p = ⟨next, none⟩ ∧ Computed p (front + 1) start next := by
  have lands := displacement_succ here
  rw [step_of_act (computed.fetched here) (jumpStride?_of_isLocal m isLocal)]
  rcases moves_or_counts m.tick isLocal with ⟨moves, acts⟩ | ⟨stands, value, counted, acts⟩
  · obtain ⟨place, landed⟩ := Int.eq_ofNat_of_zero_le inside.1
    have onto : (m.tick.dataCursor : Int) + i.offset = place := by
      rw [← landed, lands, ← computed.dataCursor]
      rfl
    have bound : place < tapeSize := by
      have far := inside.2
      omega
    rw [acts, moveDataCursor_inside onto bound]
    exact ⟨_, rfl, computed.move here moves landed⟩
  · have onTape : m.dataCursor < tapeSize := by
      have far := inside.2
      rw [lands, stands, ← computed.dataCursor] at far
      omega
    rw [acts]
    exact ⟨_, rfl, computed.count here onTape stands counted⟩

/-- An instruction that leaves the tape fails and does nothing but be counted. It can only lead to
one of the two places next to the tape. -/
theorem step_leaves (computed : Computed p front start m) (here : p.fetch? front = some i)
    (isLocal : i.isLocal = true) (stayed : p.StaysInside front)
    (leaves : ¬p.StaysInside (front + 1)) :
    m.step p = ⟨m.tick, some (.fault (.offTape front (p.displacement (front + 1))))⟩ ∧
      (p.displacement (front + 1) = -1 ∨ p.displacement (front + 1) = 30000) := by
  have lands := displacement_succ here
  rw [step_of_act (computed.fetched here) (jumpStride?_of_isLocal m isLocal)]
  have size : tapeSize = 30000 := rfl
  rcases moves_or_counts m.tick isLocal with ⟨moves, acts⟩ | ⟨stands, _⟩
  · have next : p.displacement (front + 1) = -1 ∨ p.displacement (front + 1) = 30000 := by
      have single : i.offset = 1 ∨ i.offset = -1 ∨ i.offset = 0 := by cases i <;> decide
      unfold StaysInside at stayed leaves
      omega
    have onto : (m.tick.dataCursor : Int) + i.offset = p.displacement (front + 1) := by
      rw [lands, ← computed.dataCursor]
      rfl
    have near : (p.displacement (front + 1)).natAbs < 1000000 := by omega
    have position : m.tick.instCursor = front := computed.instCursor
    rw [acts, moveDataCursor_off onto leaves near, position]
    exact ⟨rfl, next⟩
  · rw [StaysInside, lands, stands, Int.add_zero] at leaves
    exact absurd stayed leaves

/-! ## Runs -/

/-- The induction is on the front: as long as it stays on the tape each instruction is one step. -/
theorem exists_steps (straight : p.StraightLine) (input : Input) (output : Output)
    (inProgram : front ≤ p.size) (inside : ∀ earlier ≤ front, p.StaysInside earlier) :
    ∃ last, Steps p front (fresh input output) last ∧ Computed p front (fresh input output) last := by
  induction front with
  | zero => exact ⟨_, .refl _, computed_fresh p input output⟩
  | succ front ih =>
    obtain ⟨last, steps, computed⟩ :=
      ih (Nat.le_of_succ_le inProgram) fun earlier within => inside earlier (Nat.le_succ_of_le within)
    obtain ⟨i, here, isLocal⟩ := straight.fetch? inProgram
    obtain ⟨next, stepped, more⟩ := step_inside computed here isLocal (inside _ (Nat.le_refl _))
    have running : last.halted p = false := halted_eq_false_iff.mpr ⟨i, computed.fetched here⟩
    exact ⟨next, steps.trans (.one running stepped), more⟩

/-- A program that stays on the tape is carried out to its end. -/
theorem ends_inside (straight : p.StraightLine) (input : Input) (output : Output)
    (inside : ∀ front ≤ p.size, p.StaysInside front) :
    ∃ after, Ends p p.size (fresh input output) ⟨after, none⟩ ∧
      Computed p p.size (fresh input output) after := by
  obtain ⟨last, steps, computed⟩ := exists_steps straight input output (Nat.le_refl _) inside
  have halted : last.halted p = true := by
    rw [Machine.halted, computed.instCursor, decide_eq_true_iff]
  exact ⟨last, ends_halted_iff.mpr ⟨steps, halted⟩, computed⟩

/-- A program that leaves the tape is carried out up to the first instruction that does. -/
theorem ends_leaving (straight : p.StraightLine) (input : Input) (output : Output)
    (inProgram : front < p.size) (inside : ∀ earlier ≤ front, p.StaysInside earlier)
    (leaves : ¬p.StaysInside (front + 1)) :
    (p.displacement (front + 1) = -1 ∨ p.displacement (front + 1) = 30000) ∧
    ∃ last, Ends p front (fresh input output)
        ⟨last.tick, some (.fault (.offTape front (p.displacement (front + 1))))⟩ ∧
      Steps p front (fresh input output) last ∧ Computed p front (fresh input output) last := by
  obtain ⟨last, steps, computed⟩ :=
    exists_steps straight input output (Nat.le_of_lt inProgram) inside
  obtain ⟨i, here, isLocal⟩ := straight.fetch? inProgram
  obtain ⟨failing, beside⟩ :=
    step_leaves computed here isLocal (inside front (Nat.le_refl front)) leaves
  exact ⟨beside, last, ends_failed_iff.mpr ⟨last, steps, failing⟩, steps, computed⟩

/-- A program that moves and counts, on a fresh machine: if every front of it leads to a place on the
tape, the run halts, with one step for each instruction, and has computed what the whole program
computes. Otherwise it ends at the first instruction that leads off the tape. It names the place next
to the tape that the instruction leads to, has counted this instruction as well, and has computed
what the front before it computes. -/
theorem run_of_straightLine (straight : p.StraightLine) (input : Input) (output : Output) :
    ((∀ front ≤ p.size, p.StaysInside front) →
      ∃ after, (fresh input output).run p (p.size + 1) = some ⟨after, none⟩ ∧
        after.steps = p.size ∧ Computed p p.size (fresh input output) after) ∧
    ∀ front < p.size, (∀ earlier ≤ front, p.StaysInside earlier) → ¬p.StaysInside (front + 1) →
      (p.displacement (front + 1) = -1 ∨ p.displacement (front + 1) = 30000) ∧
      ∃ after, (fresh input output).run p (p.size + 1) =
          some ⟨after, some (.fault (.offTape front (p.displacement (front + 1))))⟩ ∧
        after.steps = front + 1 ∧ Computed p front (fresh input output) after := by
  constructor
  · intro inside
    obtain ⟨after, ends, computed⟩ := ends_inside straight input output inside
    refine ⟨after, run_eq_some_iff.mpr ⟨p.size, Nat.lt_succ_self _, ends⟩, ?_, computed⟩
    rw [steps_of_steps (ends_halted_iff.mp ends).1]
    exact Nat.zero_add p.size
  · intro front inProgram inside leaves
    obtain ⟨beside, last, ends, steps, computed⟩ :=
      ends_leaving straight input output inProgram inside leaves
    refine ⟨beside, last.tick,
      run_eq_some_iff.mpr ⟨front, Nat.lt_succ_of_lt inProgram, ends⟩, ?_, ?_⟩
    · rw [tick, steps_of_steps steps]
      exact congrArg (· + 1) (Nat.zero_add front)
    · exact { computed with }

/-- As long as there are moves to the right, each front of them leads as far as it is long. -/
theorem displacement_replicate {count : Nat} (within : front ≤ count) :
    (ofList (List.replicate count .moveRight)).displacement front = front := by
  simp [displacement, List.take_replicate, List.count_replicate, within]

theorem staysInside_replicate {count : Nat} (within : front ≤ count) :
    (ofList (List.replicate count .moveRight)).StaysInside front ↔ front < tapeSize := by
  rw [StaysInside, displacement_replicate within]
  omega

theorem straightLine_replicate (count : Nat) :
    (ofList (List.replicate count .moveRight)).StraightLine := by
  intro i member
  rw [toList_ofList] at member
  rw [List.eq_of_mem_replicate member]
  rfl

/-- A cell that is counted down from zero wraps around, and the data cursor comes back to it. As many
moves to the right as there are cells lead off the tape with the last one. -/
theorem run_of_straightLine_moves :
    let start := fresh (.ofEvents []) (.empty none)
    let p := ofList [.decrement, .moveRight, .increment, .moveLeft]
    let q := ofList (List.replicate 30000 .moveRight)
    (p.StraightLine ∧ (∀ front ≤ 4, p.StaysInside front) ∧
      ∃ after, start.run p 5 = some ⟨after, none⟩ ∧ after.steps = 4 ∧ after.dataCursor = 0 ∧
        (after.tape.get 0).toNat = 255 ∧ (after.tape.get 1).toNat = 1) ∧
    q.StraightLine ∧ (∀ earlier ≤ 29999, q.StaysInside earlier) ∧ ¬q.StaysInside 30000 ∧
      ∃ after, start.run q 30001 = some ⟨after, some (.fault (.offTape 29999 30000))⟩ ∧
        after.steps = 30000 ∧ after.dataCursor = 29999 := by
  intro start p q
  have size : tapeSize = 30000 := rfl
  constructor
  · have straight : p.StraightLine := by decide
    have inside : ∀ front ≤ 4, p.StaysInside front := by decide
    obtain ⟨after, ran, steps, computed⟩ :=
      (run_of_straightLine straight (.ofEvents []) (.empty none)).1 inside
    have first := computed.cells 0 (by decide)
    have second := computed.cells 1 (by decide)
    have back := computed.dataCursor
    have balances : p.balance 0 p.size = -1 ∧ p.balance 1 p.size = 1 ∧ p.displacement p.size = 0 := by
      decide
    rw [balances.1] at first
    rw [balances.2.1] at second
    rw [balances.2.2] at back
    exact ⟨straight, inside, after, ran, steps, Int.natCast_eq_zero.mp back, by omega, by omega⟩
  · have straight : q.StraightLine := straightLine_replicate 30000
    have inside : ∀ earlier ≤ 29999, q.StaysInside earlier :=
      fun earlier within => (staysInside_replicate (by omega)).mpr (by omega)
    have leaves : ¬q.StaysInside 30000 := by
      rw [staysInside_replicate (Nat.le_refl _)]
      omega
    have long : q.size = 30000 := by
      rw [size_ofList, List.length_replicate]
    obtain ⟨_, after, ran, steps, computed⟩ :=
      (run_of_straightLine straight (.ofEvents []) (.empty none)).2 29999 (by omega) inside leaves
    rw [displacement_replicate (Nat.le_refl _), long] at ran
    have here := computed.dataCursor
    rw [displacement_replicate (by omega)] at here
    exact ⟨straight, inside, leaves, after, ran, steps, Int.ofNat_inj.mp here⟩

end Machine

end TapeMachine

import TapeMachine.Proofs.Machine.Effects
import TapeMachine.Proofs.Machine.Streams

/-!
# Limited outputs

An output that takes only so many bytes makes no difference until the step that writes one more. That
step fails, and it has done nothing but been counted. So the run on a limited output is the front of
the run on an unlimited one: it has written the same bytes, as many as the limit allows.

Results:
1. `output_step`: a step writes a byte and flushes it, or leaves the output alone.
2. `step_limited`, `step_full`: a step on a limited output, below the limit and beyond it.
3. `run_limited`: a run that stays below the limit.
4. `Steps.truncated`: a run that goes beyond it.
-/

namespace TapeMachine

/-- The machine with a limit on its output. -/
def Machine.limited (limit : OutputLimit) (m : Machine) : Machine :=
  m.withStreams m.steps m.input { m.output with limit? := some limit }

/-- The outcome with a limit on the output. -/
def Outcome.limited (limit : OutputLimit) (o : Outcome) : Outcome :=
  ⟨o.machine.limited limit, o.failure?⟩

namespace Machine

variable {p : Program} {m : Machine} {limit : OutputLimit}

/-! ## What a step writes -/

theorem size_written_write (output : Output) (value : UInt8) :
    (output.append [value]).flush.written.size = output.written.size + 1 := by
  simp [Output.append, Output.flush]

theorem output_step (unlimited : m.output.limit? = none) (p : Program) :
    (m.step p).machine.output = m.output ∨
      p.fetch? m.instCursor = some .output ∧
        (m.step p).machine.output = (m.output.append [m.cell]).flush := by
  cases fetched : p.fetch? m.instCursor with
  | none =>
    rw [step, fetched]
    exact .inl rfl
  | some i =>
    rw [(streams_step fetched).2]
    cases i with
    | output => exact .inr ⟨rfl, Output.after_of_room (Output.refusal?_unlimited unlimited 1) m.cell⟩
    | _ => exact .inl rfl

theorem limit?_step (unlimited : m.output.limit? = none) (p : Program) :
    (m.step p).machine.output.limit? = none := by
  rcases output_step unlimited p with same | ⟨_, same⟩ <;> rw [same] <;> exact unlimited

/-- The output is not limited, it has been flushed after each byte, and it begins with some bytes. -/
structure Wrote (bytes : List UInt8) (m : Machine) : Prop where
  unlimited : m.output.limit? = none
  flushes : m.output.flushes = m.output.written.size
  begins : bytes <+: m.output.written.toList

/-- What has been written stays, and each byte that is written is flushed. -/
theorem wrote_step {bytes : List UInt8} (p : Program) (m : Machine) (wrote : Wrote bytes m) :
    Wrote bytes (m.step p).machine := by
  have unlimited := limit?_step wrote.unlimited p
  rcases output_step wrote.unlimited p with same | ⟨_, same⟩
  · exact ⟨unlimited, same ▸ wrote.flushes, same ▸ wrote.begins⟩
  · refine ⟨unlimited, ?_, ?_⟩
    · rw [same, size_written_write, ← wrote.flushes]
      rfl
    · rw [same]
      show bytes <+: (m.output.append [m.cell]).written.toList
      rw [Output.written_append]
      exact wrote.begins.trans (List.prefix_append ..)

/-! ## One step on a limited output -/

theorem step_limited (unlimited : m.output.limit? = none)
    (fits : (m.step p).machine.output.written.size ≤ limit.capacity) :
    (m.limited limit).step p = (m.step p).limited limit := by
  cases fetched : p.fetch? m.instCursor with
  | none =>
    have same : p.fetch? (m.limited limit).instCursor = none := fetched
    rw [step, step, fetched, same]
    rfl
  | some i =>
    obtain ⟨input, output⟩ := streams_step fetched
    have counted := steps_step (halted_eq_false_iff.mpr ⟨i, fetched⟩)
    let narrow : Output := { m.output with limit? := some limit }
    have free : m.output.refusal? 1 = none := Output.refusal?_unlimited unlimited 1
    have room : i = .output → narrow.refusal? 1 = none := by
      rintro rfl
      rw [output, Output.after_of_room free, size_written_write] at fits
      exact (Output.refusal?_eq_none_iff rfl).mpr fits
    have alike : m.Alike i m.input narrow :=
      ⟨fun _ => rfl, fun writes => (room writes).trans free.symm⟩
    have written : narrow.after i m.cell =
        { m.output.after i m.cell with limit? := some limit } := by
      cases i with
      | output =>
        rw [Output.after_of_room (room rfl), Output.after_of_room free]
        rfl
      | _ => rfl
    rw [Outcome.limited, limited, limited, step_withStreams fetched alike, written, counted, input,
      output]
    rfl

/-- The step that would write beyond the limit fails and does nothing but be counted. -/
theorem step_full (unlimited : m.output.limit? = none)
    (below : m.output.written.size ≤ limit.capacity)
    (beyond : limit.capacity < (m.step p).machine.output.written.size) :
    m.output.written.size = limit.capacity ∧
      (m.limited limit).step p = ⟨(m.limited limit).tick, some (.system limit.error)⟩ := by
  rcases output_step unlimited p with same | ⟨fetched, same⟩
  · rw [same] at beyond
    exact absurd below (Nat.not_le.mpr beyond)
  · rw [same, size_written_write] at beyond
    have full : m.output.written.size = limit.capacity :=
      Nat.le_antisymm below (Nat.le_of_lt_succ beyond)
    have fetchedSame : p.fetch? (m.limited limit).instCursor = some .output := fetched
    have refused : (m.limited limit).tick.output.refusal? 1 = some limit.error := by
      show (if m.output.written.size + 1 ≤ limit.capacity then none else some limit.error) = _
      rw [if_neg (Nat.not_le.mpr beyond)]
    refine ⟨full, ?_⟩
    rw [step_of_act fetchedSame rfl, act, writeCell, refused]
    rfl

/-! ## Runs on a limited output -/

/-- A run that never writes more than the limit allows is the same on a limited output. -/
theorem run_limited (unlimited : m.output.limit? = none)
    (below : ∀ {n later}, Steps p n m later → later.output.written.size ≤ limit.capacity)
    (fuel : Nat) :
    (m.limited limit).run p fuel = (m.run p fuel).map (Outcome.limited limit) := by
  induction fuel generalizing m with
  | zero => rfl
  | succ fuel ih =>
    have halts : (m.limited limit).halted p = m.halted p := rfl
    rw [run, run, halts]
    cases running : m.halted p with
    | true => rfl
    | false =>
      rcases stepped : m.step p with ⟨next, _ | failure⟩
      · have front := Steps.one running stepped
        have fits : (m.step p).machine.output.written.size ≤ limit.capacity := by
          rw [stepped]
          exact below front
        have unlimitedNext := limit?_step unlimited p
        rw [stepped] at unlimitedNext
        rw [step_limited unlimited fits, stepped]
        exact ih unlimitedNext fun steps => below (front.trans steps)
      · have fits : (m.step p).machine.output.written.size ≤ limit.capacity := by
          rw [stepped, show next.output = m.output from (intact_step stepped).output]
          exact below (.refl m)
        rw [step_limited unlimited fits, stepped]
        rfl

/-- In the last state before a run writes beyond a limit, exactly as many bytes have been written as
the limit allows, each with a flush. They are the first ones of those written in a later state. -/
structure Truncated (p : Program) (limit : OutputLimit) (m later last : Machine) : Prop where
  reached : ∃ n, Steps p n m last
  crosses : ∃ next, last.step p = ⟨next, none⟩ ∧
    next.output.written.size = limit.capacity + 1
  written : last.output.written.toList = later.output.written.toList.take limit.capacity
  size : last.output.written.size = limit.capacity
  flushes : last.output.flushes = limit.capacity

/-- The induction is on the steps: the first of them that writes beyond the limit is where the run on
the limited output ends. -/
theorem Steps.truncated {n : Nat} {later : Machine} (steps : Steps p n m later)
    (wrote : Wrote [] m) (below : m.output.written.size ≤ limit.capacity)
    (beyond : limit.capacity < later.output.written.size) :
    ∃ k last, Truncated p limit m later last ∧
      Ends p k (m.limited limit) ⟨(last.limited limit).tick, some (.system limit.error)⟩ := by
  induction steps with
  | refl => exact absurd beyond (Nat.not_lt.mpr below)
  | @more n m next later running stepped rest ih =>
    by_cases fits : next.output.written.size ≤ limit.capacity
    · have wroteNext := wrote_step p m wrote
      rw [stepped] at wroteNext
      obtain ⟨k, last, truncated, ends⟩ := ih wroteNext fits beyond
      obtain ⟨k', reached⟩ := truncated.reached
      have same : (m.limited limit).step p = ⟨next.limited limit, none⟩ := by
        rw [step_limited wrote.unlimited (by rwa [stepped]), stepped]
        rfl
      exact ⟨k + 1, last, { truncated with reached := ⟨k' + 1, .more running stepped reached⟩ },
        .more running same ends⟩
    · have crosses : limit.capacity < (m.step p).machine.output.written.size := by
        rw [stepped]
        exact Nat.not_le.mp fits
      obtain ⟨full, failing⟩ := step_full wrote.unlimited below crosses
      have grown : next.output.written.size = limit.capacity + 1 := by
        rcases output_step wrote.unlimited p with same | ⟨_, same⟩ <;> rw [stepped] at same
        · exact absurd (same ▸ below) fits
        · rw [same, size_written_write, full]
      have begins : m.output.written.toList <+: later.output.written.toList :=
        (Steps.keeps (wrote_step p) (.more running stepped rest)
          ⟨wrote.unlimited, wrote.flushes, List.prefix_rfl⟩).begins
      refine ⟨0, m, ⟨⟨0, .refl m⟩, ⟨next, stepped, grown⟩, ?_, full, ?_⟩, .failed failing⟩
      · rw [← full, ← Array.length_toList]
        exact List.prefix_iff_eq_take.mp begins
      · rw [wrote.flushes, full]

end Machine

end TapeMachine

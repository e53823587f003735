import TapeMachine.Machine

/-!
# What a step does

A step is one of three things: it finds that the machine has halted, it makes a jump, or it does
what its instruction says and moves on to the next one. Only a bracket jumps, an opening one forward
and a closing one backward.

Results:
1. `step_of_jump`, `step_of_act`: the two kinds of steps of a machine that has not halted.
2. `jump_of_fetch?`: where a jump leads, and how it fails.
3. `moveDataCursor_inside`, `moveDataCursor_off`: a move of the data cursor stays on the tape or
   faults.
-/

namespace TapeMachine.Machine

theorem halted_eq_false_iff {p : Program} {m : Machine} :
    m.halted p = false ↔ ∃ i, p.fetch? m.instCursor = some i := by
  rw [← Option.ne_none_iff_exists', Ne, Program.fetch?_eq_none_iff]
  simp [halted]

/-- An instruction that jumps is a bracket, and the stride is its direction. -/
theorem jumpStride?_eq_some {m : Machine} {i : Instruction} {stride : Int}
    (jumps : m.jumpStride? i = some stride) :
    i = .jumpForward ∧ stride = 1 ∨ i = .jumpBackward ∧ stride = -1 := by
  cases i with
  | jumpForward =>
    simp only [jumpStride?] at jumps
    split at jumps <;> cases jumps
    exact .inl ⟨rfl, rfl⟩
  | jumpBackward =>
    simp only [jumpStride?] at jumps
    split at jumps <;> cases jumps
    exact .inr ⟨rfl, rfl⟩
  | _ => cases jumps

theorem jump_of_fetch? {p : Program} {m : Machine} {i : Instruction}
    (fetched : p.fetch? m.instCursor = some i) (stride : Int) :
    m.jump p stride =
      match p.partner? i m.instCursor stride with
      | some partner => ⟨{ m with instCursor := partner + 1 }, none⟩
      | none => ⟨m, some (.fault (.unmatchedBracket i m.instCursor))⟩ := by
  rw [jump, findMatch, fetched]
  simp only
  cases p.partner? i m.instCursor stride <;> rfl

theorem step_of_jump {p : Program} {m : Machine} {i : Instruction} {stride : Int}
    (fetched : p.fetch? m.instCursor = some i) (jumps : m.jumpStride? i = some stride) :
    m.step p = m.tick.jump p stride := by
  have same : m.tick.jumpStride? i = some stride := jumps
  simp [step, fetched, execute, same]

theorem step_of_partner {p : Program} {m : Machine} {i : Instruction} {stride : Int} {partner : Nat}
    (fetched : p.fetch? m.instCursor = some i) (jumps : m.jumpStride? i = some stride)
    (found : p.partner? i m.instCursor stride = some partner) :
    m.step p = ⟨{ m.tick with instCursor := partner + 1 }, none⟩ := by
  have same : p.fetch? m.tick.instCursor = some i := fetched
  have paired : p.partner? i m.tick.instCursor stride = some partner := found
  rw [step_of_jump fetched jumps, jump_of_fetch? same, paired]

theorem step_of_act {p : Program} {m : Machine} {i : Instruction}
    (fetched : p.fetch? m.instCursor = some i) (stays : m.jumpStride? i = none) :
    m.step p = (m.tick.act i).next := by
  have same : m.tick.jumpStride? i = none := stays
  simp [step, fetched, execute, same]

/-! ## Moves of the data cursor -/

theorem moveDataCursor_inside {m : Machine} {offset : Int} {place : Nat}
    (lands : m.dataCursor + offset = place) (inside : place < tapeSize) :
    m.moveDataCursor offset = ⟨{ m with dataCursor := place }, none⟩ := by
  unfold moveDataCursor
  simp only [lands]
  rw [if_pos ⟨Int.natCast_nonneg place, Int.ofNat_lt.mpr inside⟩, Int.toNat_natCast]

/-- A place that is off the tape is written in the fault if it is not too far away. -/
theorem moveDataCursor_off {m : Machine} {offset cursor : Int} (lands : m.dataCursor + offset = cursor)
    (outside : ¬(0 ≤ cursor ∧ cursor < tapeSize)) (near : cursor.natAbs < 1000000) :
    m.moveDataCursor offset = ⟨m, some (.fault (.offTape m.instCursor cursor))⟩ := by
  unfold moveDataCursor
  simp only [lands]
  rw [if_neg outside, if_pos (Numeral.writable_of_natAbs_lt near)]

end TapeMachine.Machine

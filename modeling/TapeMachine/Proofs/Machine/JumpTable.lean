import TapeMachine.Proofs.Brackets.Table
import TapeMachine.Proofs.Machine.Step

/-!
# Jumps from a table

The machine searches for the partner of a bracket each time it jumps. It could as well take its
jumps from the table of partners that one pass over the program fills beforehand: both machines do
the same, call by call, also on programs whose brackets are not balanced and after failures.

Results:
1. `jumpBy_pass`: a jump from the table is the jump that the search makes.
2. `calls_stepBy_pass`: so the two machines agree in every call.
-/

namespace TapeMachine.Machine

/-- Moves the instruction cursor just behind the partner that a table has for the bracket under
it. -/
def jumpBy (t : Pairing) (m : Machine) (i : Instruction) : Outcome :=
  match t.partner? m.instCursor with
  | some partner => ⟨{ m with instCursor := partner + 1 }, none⟩
  | none => ⟨m, some (.fault (.unmatchedBracket i m.instCursor))⟩

/-- Carries out the instruction under the instruction cursor, with a jump taken from a table. -/
def stepBy (t : Pairing) (p : Program) (m : Machine) : Outcome :=
  match p.fetch? m.instCursor with
  | none => ⟨m, none⟩
  | some i =>
    match m.tick.jumpStride? i with
    | some _ => m.tick.jumpBy t i
    | none => (m.tick.act i).next

/-- What a number of calls of an operation give, each on the machine that the one before it left,
whether that one failed or not. -/
def calls (operate : Machine → Outcome) : Nat → Machine → List Outcome
  | 0, _ => []
  | count + 1, m => operate m :: calls operate count (operate m).machine

theorem jumpBy_pass {p : Program} {m : Machine} {i : Instruction} {stride : Int}
    (fetched : p.fetch? m.instCursor = some i) (jumps : m.jumpStride? i = some stride) :
    m.jumpBy (Pairing.pass p) i = m.jump p stride := by
  have looked : (Pairing.pass p).partner? m.instCursor = p.partner? i m.instCursor stride := by
    rcases jumpStride?_eq_some jumps with ⟨rfl, rfl⟩ | ⟨rfl, rfl⟩
    · exact Pairing.partner?_pass_forward fetched
    · exact Pairing.partner?_pass_backward fetched
  have jumped := jump_of_fetch? fetched stride
  rw [← looked] at jumped
  exact jumped.symm

theorem stepBy_pass (p : Program) (m : Machine) : m.stepBy (Pairing.pass p) p = m.step p := by
  unfold stepBy
  cases fetched : p.fetch? m.instCursor with
  | none => simp [step, fetched]
  | some i =>
    -- Counting the step changes neither the cell nor the cursor, so the jump is decided as before.
    cases jumps : m.jumpStride? i with
    | none =>
      have same : m.tick.jumpStride? i = none := jumps
      simp only [same]
      exact (step_of_act fetched jumps).symm
    | some stride =>
      have same : m.tick.jumpStride? i = some stride := jumps
      simp only [same]
      rw [step_of_jump fetched jumps]
      exact jumpBy_pass fetched same

/-- The machine that searches for partners and the machine that takes them from the table go through
the same states, with the same output, the same reads and the same failures, in any number of calls
and from any state. -/
theorem calls_stepBy_pass (p : Program) (m : Machine) (count : Nat) :
    calls (stepBy (Pairing.pass p) p) count m = calls (step p) count m := by
  induction count generalizing m with
  | zero => rfl
  | succ count ih => rw [calls, calls, stepBy_pass, ih]

end TapeMachine.Machine

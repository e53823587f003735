import TapeMachine.Proofs.Machine.Step

/-!
# Runs as steps

A run is given with fuel. Without fuel it is a number of steps that succeed, followed by the halt or
by a step that fails. Steps can be put together and taken off the front of a run, and a run ends in
at most one way.

Results:
1. `run_eq_some_iff`, `exists_run_iff`: the run with fuel is the run as steps.
2. `Ends.of_steps`, `Ends.after_steps`, `exists_run_iff_of_steps`: steps in front of a run can be
   added and removed.
3. `Ends.unique`: the steps of a run and its outcome are determined.
4. `ends_halted_iff`, `ends_failed_iff`: the last state of a run, and the step that fails there.
5. `Steps.keeps`, `Ends.keeps`: what every step keeps, a run keeps.
-/

namespace TapeMachine.Machine

/-- A number of steps that succeed lead from one machine to another, and none of them finds the
machine halted. -/
inductive Steps (p : Program) : Nat → Machine → Machine → Prop
  | refl (m : Machine) : Steps p 0 m m
  | more {n : Nat} {m next after : Machine} :
      m.halted p = false → m.step p = ⟨next, none⟩ → Steps p n next after → Steps p (n + 1) m after

/-- After a number of steps that succeed a run finds the machine halted, or the next step fails. -/
inductive Ends (p : Program) : Nat → Machine → Outcome → Prop
  | halted {m : Machine} : m.halted p = true → Ends p 0 m ⟨m, none⟩
  | failed {m after : Machine} {failure : Failure} :
      m.step p = ⟨after, some failure⟩ → Ends p 0 m ⟨after, some failure⟩
  | more {n : Nat} {m next : Machine} {o : Outcome} :
      m.halted p = false → m.step p = ⟨next, none⟩ → Ends p n next o → Ends p (n + 1) m o

theorem run_eq_some_iff {p : Program} {fuel : Nat} {m : Machine} {o : Outcome} :
    m.run p fuel = some o ↔ ∃ n, n < fuel ∧ Ends p n m o := by
  -- A step takes one unit of fuel, and finding the end of the run takes one as well.
  induction fuel generalizing m with
  | zero => simp [run]
  | succ fuel ih =>
    unfold run
    cases ended : m.halted p with
    | true =>
      rw [if_pos rfl]
      constructor
      · intro same
        cases same
        exact ⟨0, Nat.succ_pos fuel, .halted ended⟩
      · rintro ⟨n, _, ends⟩
        cases ends with
        | halted _ => rfl
        | failed failing => rw [step_of_halted ended] at failing; cases failing
        | more running _ _ => rw [ended] at running; cases running
    | false =>
      simp only [Bool.false_eq_true, if_false]
      rcases stepped : m.step p with ⟨next, _ | failure⟩
      · simp only
        rw [ih]
        constructor
        · rintro ⟨n, bound, ends⟩
          exact ⟨n + 1, Nat.succ_lt_succ bound, .more ended stepped ends⟩
        · rintro ⟨n, bound, ends⟩
          cases ends with
          | halted halted => rw [ended] at halted; cases halted
          | failed failing => rw [stepped] at failing; cases failing
          | more _ same ends =>
            rw [stepped] at same
            cases same
            exact ⟨_, Nat.lt_of_succ_lt_succ bound, ends⟩
      · simp only [Option.some.injEq]
        constructor
        · rintro rfl
          exact ⟨0, Nat.succ_pos fuel, .failed stepped⟩
        · rintro ⟨n, _, ends⟩
          cases ends with
          | halted halted => rw [ended] at halted; cases halted
          | failed failing => rw [← stepped, failing]
          | more _ same _ => rw [stepped] at same; cases same

theorem exists_run_iff {p : Program} {m : Machine} {o : Outcome} :
    (∃ fuel, m.run p fuel = some o) ↔ ∃ n, Ends p n m o := by
  constructor
  · rintro ⟨fuel, ran⟩
    obtain ⟨n, _, ends⟩ := run_eq_some_iff.mp ran
    exact ⟨n, ends⟩
  · rintro ⟨n, ends⟩
    exact ⟨n + 1, run_eq_some_iff.mpr ⟨n, Nat.lt_succ_self n, ends⟩⟩

theorem Steps.one {p : Program} {m next : Machine} (running : m.halted p = false)
    (stepped : m.step p = ⟨next, none⟩) : Steps p 1 m next :=
  .more running stepped (.refl next)

theorem Steps.trans {p : Program} {n k : Nat} {m middle after : Machine}
    (first : Steps p n m middle) (second : Steps p k middle after) : Steps p (n + k) m after := by
  induction first with
  | refl => rwa [Nat.zero_add]
  | @more n m next middle running stepped _ ih =>
    rw [Nat.add_right_comm]
    exact .more running stepped (ih second)

theorem Ends.of_steps {p : Program} {n k : Nat} {m after : Machine} {o : Outcome}
    (steps : Steps p n m after) (ends : Ends p k after o) : Ends p (n + k) m o := by
  induction steps with
  | refl => rwa [Nat.zero_add]
  | @more n m next after running stepped _ ih =>
    rw [Nat.add_right_comm]
    exact .more running stepped (ih ends)

theorem Ends.after_steps {p : Program} {n k : Nat} {m after : Machine} {o : Outcome}
    (steps : Steps p n m after) (ends : Ends p k m o) :
    ∃ rest, k = n + rest ∧ Ends p rest after o := by
  induction steps generalizing k with
  | refl => exact ⟨k, (Nat.zero_add k).symm, ends⟩
  | @more n m next after running stepped _ ih =>
    cases ends with
    | halted halted => rw [running] at halted; cases halted
    | failed failing => rw [stepped] at failing; cases failing
    | more _ same ends =>
      rw [stepped] at same
      cases same
      obtain ⟨rest, rfl, remaining⟩ := ih ends
      exact ⟨rest, Nat.add_right_comm n rest 1, remaining⟩

/-- Steps in front of a run do not change how it ends. -/
theorem exists_run_iff_of_steps {p : Program} {n : Nat} {m after : Machine} {o : Outcome}
    (steps : Steps p n m after) :
    (∃ fuel, m.run p fuel = some o) ↔ ∃ fuel, after.run p fuel = some o := by
  rw [exists_run_iff, exists_run_iff]
  constructor
  · rintro ⟨k, ends⟩
    obtain ⟨rest, _, remaining⟩ := ends.after_steps steps
    exact ⟨rest, remaining⟩
  · rintro ⟨rest, remaining⟩
    exact ⟨n + rest, remaining.of_steps steps⟩

theorem Ends.unique {p : Program} {n k : Nat} {m : Machine} {o other : Outcome}
    (first : Ends p n m o) (second : Ends p k m other) : n = k ∧ o = other := by
  induction first generalizing k with
  | halted halted =>
    cases second with
    | halted _ => exact ⟨rfl, rfl⟩
    | failed failing => rw [step_of_halted halted] at failing; cases failing
    | more running _ _ => rw [halted] at running; cases running
  | failed failing =>
    cases second with
    | halted halted => rw [step_of_halted halted] at failing; cases failing
    | failed same => exact ⟨rfl, failing.symm.trans same⟩
    | more _ stepped _ => rw [failing] at stepped; cases stepped
  | more running stepped _ ih =>
    cases second with
    | halted halted => rw [running] at halted; cases halted
    | failed failing => rw [stepped] at failing; cases failing
    | more _ same ends =>
      rw [stepped] at same
      cases same
      obtain ⟨rfl, rfl⟩ := ih ends
      exact ⟨rfl, rfl⟩

/-! ## The last state of a run -/

theorem steps_of_steps {p : Program} {n : Nat} {m after : Machine} (steps : Steps p n m after) :
    after.steps = m.steps + n := by
  induction steps with
  | refl => rfl
  | @more n m next after running stepped _ ih =>
    have counted := steps_step running
    rw [stepped] at counted
    rw [ih, counted, Nat.add_assoc, Nat.add_comm 1]

theorem running_of_failed {p : Program} {m after : Machine} {failure : Failure}
    (failing : m.step p = ⟨after, some failure⟩) : m.halted p = false := by
  rw [← Bool.not_eq_true]
  intro halted
  rw [step_of_halted halted] at failing
  cases failing

theorem ends_halted_iff {p : Program} {n : Nat} {m after : Machine} :
    Ends p n m ⟨after, none⟩ ↔ Steps p n m after ∧ after.halted p = true := by
  constructor
  · generalize same : Outcome.mk after none = o
    intro ends
    induction ends with
    | halted halted =>
      cases same
      exact ⟨.refl after, halted⟩
    | failed failing => cases same
    | more running stepped _ ih =>
      obtain ⟨steps, halted⟩ := ih same
      exact ⟨.more running stepped steps, halted⟩
  · rintro ⟨steps, halted⟩
    exact Ends.of_steps steps (.halted halted)

theorem ends_failed_iff {p : Program} {n : Nat} {m after : Machine} {failure : Failure} :
    Ends p n m ⟨after, some failure⟩ ↔
      ∃ last, Steps p n m last ∧ last.step p = ⟨after, some failure⟩ := by
  constructor
  · generalize same : Outcome.mk after (some failure) = o
    intro ends
    induction ends with
    | halted halted => cases same
    | @failed m _ _ failing =>
      cases same
      exact ⟨m, .refl m, failing⟩
    | more running stepped _ ih =>
      obtain ⟨last, steps, failing⟩ := ih same
      exact ⟨last, .more running stepped steps, failing⟩
  · rintro ⟨last, steps, failing⟩
    exact Ends.of_steps steps (.failed failing)

/-! ## What a run keeps -/

theorem Steps.keeps {p : Program} {Holds : Machine → Prop}
    (step : ∀ m, Holds m → Holds (m.step p).machine) {n : Nat} {m after : Machine}
    (steps : Steps p n m after) (holds : Holds m) : Holds after := by
  induction steps with
  | refl => exact holds
  | @more n m next after _ stepped _ ih =>
    have kept := step m holds
    rw [stepped] at kept
    exact ih kept

theorem Ends.keeps {p : Program} {Holds : Machine → Prop}
    (step : ∀ m, Holds m → Holds (m.step p).machine) {n : Nat} {m : Machine} {o : Outcome}
    (ends : Ends p n m o) (holds : Holds m) : Holds o.machine := by
  obtain ⟨after, failure?⟩ := o
  cases failure? with
  | none => exact (ends_halted_iff.mp ends).1.keeps step holds
  | some failure =>
    obtain ⟨last, steps, failing⟩ := ends_failed_iff.mp ends
    have kept := step last (steps.keeps step holds)
    rw [failing] at kept
    exact kept

end TapeMachine.Machine

import TapeMachine.Proofs.Brackets.Balance

/-!
# Structured code

A well-bracketed program is a sequence of basic instructions and loops, and a loop has a body that
is such a sequence again. The tree is written out in exactly one way, and exactly the balanced lists
of instructions are written out from a tree.

Results:
1. `balanced_instructions`: what is written out is balanced.
2. `instructions_inj`: two trees that are written out alike are the same.
3. `exists_code`: every well-bracketed program has its tree, and no other.
-/

namespace TapeMachine

/-- An instruction that is not a bracket. -/
inductive Basic
  | moveRight
  | moveLeft
  | increment
  | decrement
  | output
  | input
deriving DecidableEq, Repr

/-- The basic instruction among all instructions. -/
def Basic.instruction : Basic → Instruction
  | .moveRight => .moveRight
  | .moveLeft => .moveLeft
  | .increment => .increment
  | .decrement => .decrement
  | .output => .output
  | .input => .input

/-- A sequence of basic instructions and loops. -/
inductive Code
  | done
  | basic (b : Basic) (rest : Code)
  | loop (body rest : Code)
deriving DecidableEq, Repr

namespace Code

/-- The sequence written out, with each loop between its brackets. -/
def instructions : Code → List Instruction
  | .done => []
  | .basic b rest => b.instruction :: rest.instructions
  | .loop body rest =>
    .jumpForward :: (body.instructions ++ .jumpBackward :: rest.instructions)

/-- How many instructions are written out. -/
def size (c : Code) : Nat :=
  c.instructions.length

@[simp] theorem size_done : done.size = 0 := rfl

@[simp] theorem size_basic (b : Basic) (rest : Code) : (basic b rest).size = rest.size + 1 := rfl

@[simp] theorem size_loop (body rest : Code) :
    (loop body rest).size = body.size + rest.size + 2 := by
  simp only [size, instructions, List.length_cons, List.length_append]
  omega

end Code

/-! ## What is written out is balanced -/

theorem Basic.cases_instruction (i : Instruction) :
    i = .jumpForward ∨ i = .jumpBackward ∨ ∃ b : Basic, i = b.instruction := by
  cases i with
  | jumpForward => exact .inl rfl
  | jumpBackward => exact .inr (.inl rfl)
  | moveRight => exact .inr (.inr ⟨.moveRight, rfl⟩)
  | moveLeft => exact .inr (.inr ⟨.moveLeft, rfl⟩)
  | increment => exact .inr (.inr ⟨.increment, rfl⟩)
  | decrement => exact .inr (.inr ⟨.decrement, rfl⟩)
  | output => exact .inr (.inr ⟨.output, rfl⟩)
  | input => exact .inr (.inr ⟨.input, rfl⟩)

theorem Basic.instruction_injective {b c : Basic} (same : b.instruction = c.instruction) :
    b = c := by
  cases b <;> cases c <;> first | rfl | cases same

theorem Basic.weight_instruction (b : Basic) :
    Instruction.weight .jumpForward b.instruction = 0 := by
  cases b <;> decide

theorem balanced_nil (opener : Instruction) : Balanced opener [] := by
  refine ⟨rfl, ?_⟩
  intro j _
  rw [List.take_nil]
  exact Int.le_refl 0

theorem balanced_append {opener : Instruction} {a b : List Instruction}
    (first : Balanced opener a) (second : Balanced opener b) : Balanced opener (a ++ b) := by
  refine ⟨by rw [net_append, first.closed, second.closed]; rfl, ?_⟩
  intro j reached
  rw [List.length_append] at reached
  rw [List.take_append, net_append]
  by_cases inside : j ≤ a.length
  · rw [Nat.sub_eq_zero_of_le inside, List.take_zero, net_nil, Int.add_zero]
    exact first.sound j inside
  · rw [List.take_of_length_le (by omega), first.closed, Int.zero_add]
    exact second.sound _ (by omega)

theorem balanced_singleton {opener i : Instruction} (plain : opener.weight i = 0) :
    Balanced opener [i] := by
  refine ⟨by simp [plain], ?_⟩
  intro j _
  cases j with
  | zero => simp
  | succ j => simp [plain]

theorem balanced_enclose {inner : List Instruction} (balanced : Balanced .jumpForward inner) :
    Balanced .jumpForward (.jumpForward :: (inner ++ [.jumpBackward])) := by
  have down : Instruction.weight .jumpForward .jumpBackward = -1 := by decide
  refine ⟨by rw [net_cons, net_append, balanced.closed, net_cons, net_nil, down]; decide, ?_⟩
  intro j reached
  cases j with
  | zero => simp
  | succ j =>
    rw [List.take_succ_cons, net_cons, Instruction.weight_self, List.take_append, net_append]
    by_cases inside : j ≤ inner.length
    · rw [Nat.sub_eq_zero_of_le inside, List.take_zero, net_nil, Int.add_zero]
      have level := balanced.sound j inside
      omega
    · rw [List.take_of_length_le (by omega), balanced.closed,
        List.take_of_length_le (by rw [List.length_singleton]; omega), net_cons, net_nil, down]
      decide

theorem Code.balanced_instructions (c : Code) : Balanced .jumpForward c.instructions := by
  induction c with
  | done => exact balanced_nil _
  | basic b rest ih =>
    exact balanced_append (balanced_singleton b.weight_instruction) ih
  | loop body rest bodyBalanced restBalanced =>
    have split : (loop body rest).instructions =
        (.jumpForward :: (body.instructions ++ [.jumpBackward])) ++ rest.instructions := by
      simp [instructions]
    rw [split]
    exact balanced_append (balanced_enclose bodyBalanced) restBalanced

/-! ## The tree is determined by what is written out -/

/-- A list does not go on with an instruction of the same sequence: it has ended, or it closes the
loop around it. -/
def EndsSequence (l : List Instruction) : Prop :=
  ∀ i ∈ l.head?, i = .jumpBackward

theorem EndsSequence.head_eq {i : Instruction} {l : List Instruction}
    (ended : EndsSequence (i :: l)) : i = .jumpBackward :=
  ended i rfl

theorem Basic.ne_closing (b : Basic) : b.instruction ≠ .jumpBackward := by
  cases b <;> decide

theorem Code.append_inj {c other : Code} {a b : List Instruction} (aEnds : EndsSequence a)
    (bEnds : EndsSequence b) (same : c.instructions ++ a = other.instructions ++ b) :
    c = other ∧ a = b := by
  -- What follows the trees is kept along, because a body is followed by its closing bracket.
  induction c generalizing other a b with
  | done =>
    cases other with
    | done => exact ⟨rfl, same⟩
    | basic d rest =>
      simp only [instructions, List.nil_append, List.cons_append] at same
      subst same
      exact absurd aEnds.head_eq d.ne_closing
    | loop body rest =>
      simp only [instructions, List.nil_append, List.cons_append] at same
      subst same
      cases aEnds.head_eq
  | basic d rest ih =>
    cases other with
    | done =>
      simp only [instructions, List.nil_append, List.cons_append] at same
      subst same
      exact absurd bEnds.head_eq d.ne_closing
    | basic e others =>
      simp only [instructions, List.cons_append, List.cons.injEq] at same
      obtain ⟨rfl, rest⟩ := ih aEnds bEnds same.2
      exact ⟨by rw [Basic.instruction_injective same.1], rest⟩
    | loop body others =>
      simp only [instructions, List.cons_append, List.cons.injEq] at same
      cases d <;> cases same.1
  | loop body rest bodyIh restIh =>
    cases other with
    | done =>
      simp only [instructions, List.nil_append, List.cons_append] at same
      subst same
      cases bEnds.head_eq
    | basic e others =>
      simp only [instructions, List.cons_append, List.cons.injEq] at same
      cases e <;> cases same.1
    | loop bodies others =>
      simp only [instructions, List.cons_append, List.append_assoc, List.cons.injEq,
        true_and] at same
      have closing : ∀ l, EndsSequence (.jumpBackward :: l) := by
        intro l i first
        cases first
        rfl
      obtain ⟨rfl, behind⟩ := bodyIh (closing _) (closing _) same
      simp only [List.cons.injEq, true_and] at behind
      obtain ⟨rfl, rfl⟩ := restIh aEnds bEnds behind
      exact ⟨rfl, rfl⟩

theorem Code.instructions_inj {c other : Code} :
    c.instructions = other.instructions ↔ c = other := by
  constructor
  · intro same
    have ended : EndsSequence [] := by
      intro i first
      cases first
    exact (append_inj ended ended (by rw [same])).1
  · rintro rfl
    rfl

/-! ## Every balanced list has a tree -/

/-- A list none of whose ends opens more levels than it closes is a tree, followed by one more tree
for each level that it closes. -/
theorem exists_codes {l : List Instruction} (sound : ∀ j, net .jumpForward (l.drop j) ≤ 0) :
    ∃ (c : Code) (outer : List Code),
      l = c.instructions ++ outer.flatMap (fun d => .jumpBackward :: d.instructions) ∧
        (outer.length : Int) = -net .jumpForward l := by
  induction l with
  | nil => exact ⟨.done, [], rfl, rfl⟩
  | cons i rest ih =>
    obtain ⟨c, outer, rfl, levels⟩ := ih fun j => by simpa using sound (j + 1)
    rcases Basic.cases_instruction i with rfl | rfl | ⟨b, rfl⟩
    · -- A loop is put together from the two trees behind its opening bracket.
      have open' := sound 0
      rw [List.drop_zero, net_cons, Instruction.weight_self] at open'
      cases outer with
      | nil =>
        rw [List.length_nil] at levels
        omega
      | cons d outer =>
        refine ⟨.loop c d, outer, by simp [Code.instructions], ?_⟩
        rw [net_cons, Instruction.weight_self]
        rw [List.length_cons, Nat.cast_add, Nat.cast_one] at levels
        omega
    · -- A closing bracket leaves the sequence in front of it open to the left.
      refine ⟨.done, c :: outer, by simp [Code.instructions], ?_⟩
      rw [net_cons, Instruction.weight_closer rfl (by decide), List.length_cons, Nat.cast_add,
        Nat.cast_one, levels]
      omega
    · refine ⟨.basic b c, outer, by simp [Code.instructions], ?_⟩
      rw [net_cons, b.weight_instruction, levels]
      omega

theorem exists_code {p : Program} (balanced : p.WellBracketed) :
    ∃ c : Code, ∀ other : Code, other.instructions = p.toList ↔ other = c := by
  have sound : ∀ j, net .jumpForward (p.toList.drop j) ≤ 0 := by
    intro j
    have whole := balanced.closed
    rw [← List.take_append_drop j p.toList, net_append] at whole
    have front : 0 ≤ net .jumpForward (p.toList.take j) := by
      rcases Nat.le_total j p.toList.length with inside | beyond
      · exact balanced.sound j inside
      · rw [List.take_of_length_le beyond, balanced.closed]
    omega
  obtain ⟨c, outer, written, levels⟩ := exists_codes sound
  rw [balanced.closed] at levels
  have none : outer = [] := by
    apply List.eq_nil_of_length_eq_zero
    omega
  rw [none, List.flatMap_nil, List.append_nil] at written
  refine ⟨c, fun other => ?_⟩
  rw [written, Code.instructions_inj]

end TapeMachine

import TapeMachine.Proofs.Brackets.Balance

/-!
# Brackets of two programs in a row

Two programs are put in a row by writing the second one behind the first. If each loop that the
first one opens is closed in it, no pair of matching brackets reaches from one program into the
other. The second program may be unbalanced, and so may the first in its closing brackets: a search
back from the second one finds no partner in the first, because every opening bracket there is taken.

Results:
1. `matched_append_left`, `matched_append_right`: inside either program the same brackets match.
2. `matched_append_opening`, `matched_append_closing`: no pair reaches across.
3. `partner?_append_left`, `partner?_append_right`: so the searches find the partners of before.
-/

namespace TapeMachine.Program

/-- One program behind another. -/
instance : Append Program where
  append p q := .ofList (p.toList ++ q.toList)

@[simp] theorem toList_append (p q : Program) : (p ++ q).toList = p.toList ++ q.toList :=
  toList_ofList _

@[simp] theorem size_append (p q : Program) : (p ++ q).size = p.size + q.size := by
  rw [← length_toList, toList_append, List.length_append, length_toList, length_toList]

theorem fetch?_append_left {p : Program} {position : Nat} (inside : position < p.size)
    (q : Program) : (p ++ q).fetch? position = p.fetch? position := by
  rw [← length_toList] at inside
  rw [fetch?_eq, fetch?_eq, toList_append, List.getElem?_append_left inside]

theorem fetch?_append_right (p q : Program) (position : Nat) :
    (p ++ q).fetch? (p.size + position) = q.fetch? position := by
  rw [fetch?_eq, fetch?_eq, toList_append, ← length_toList,
    List.getElem?_append_right (Nat.le_add_right _ _), Nat.add_sub_cancel_left]

/-! ## Pairs inside either program -/

theorem matched_append_left {p : Program} {opening closing : Nat} (inside : closing < p.size)
    (q : Program) : (p ++ q).Matched opening closing ↔ p.Matched opening closing := by
  have front : (p ++ q).toList.take closing = p.toList.take closing := by
    rw [toList_append, List.take_append_of_le_length]
    rw [length_toList]
    exact Nat.le_of_lt inside
  constructor
  · rintro ⟨opens, closes, ordered, balanced⟩
    rw [fetch?_append_left (ordered.trans inside)] at opens
    rw [fetch?_append_left inside] at closes
    rw [front] at balanced
    exact ⟨opens, closes, ordered, balanced⟩
  · rintro ⟨opens, closes, ordered, balanced⟩
    rw [← fetch?_append_left (ordered.trans inside) q] at opens
    rw [← fetch?_append_left inside q] at closes
    rw [← front] at balanced
    exact ⟨opens, closes, ordered, balanced⟩

theorem matched_append_right (p q : Program) (opening closing : Nat) :
    (p ++ q).Matched (p.size + opening) (p.size + closing) ↔ q.Matched opening closing := by
  have between : ((p ++ q).toList.take (p.size + closing)).drop (p.size + opening + 1) =
      (q.toList.take closing).drop (opening + 1) := by
    rw [toList_append, ← length_toList, List.take_length_add_append, Nat.add_assoc,
      List.drop_length_add_append]
  constructor
  · rintro ⟨opens, closes, ordered, balanced⟩
    rw [fetch?_append_right] at opens closes
    rw [between] at balanced
    exact ⟨opens, closes, Nat.lt_of_add_lt_add_left ordered, balanced⟩
  · rintro ⟨opens, closes, ordered, balanced⟩
    rw [← fetch?_append_right p] at opens closes
    rw [← between] at balanced
    exact ⟨opens, closes, Nat.add_lt_add_left ordered p.size, balanced⟩

/-! ## No pair reaches across -/

theorem Matched.closing_unique {p : Program} {opening closing other : Nat}
    (first : p.Matched opening closing) (second : p.Matched opening other) : closing = other := by
  have found := (partner?_forward_eq_some_iff first.opens).mpr first
  rw [(partner?_forward_eq_some_iff first.opens).mpr second] at found
  exact (Option.some.inj found).symm

/-- Every opening bracket has its partner in the program. Closing brackets may lack theirs. -/
def ClosesLoops (p : Program) : Prop :=
  ∀ opening, p.fetch? opening = some .jumpForward → ∃ closing, p.Matched opening closing

instance (p : Program) (opening closing : Nat) : Decidable (p.Matched opening closing) :=
  decidable_of_iff
    (p.fetch? opening = some .jumpForward ∧ p.fetch? closing = some .jumpBackward ∧
      opening < closing ∧ Balanced .jumpForward ((p.toList.take closing).drop (opening + 1)))
    ⟨fun ⟨opens, closes, ordered, balanced⟩ => ⟨opens, closes, ordered, balanced⟩,
      fun ⟨opens, closes, ordered, balanced⟩ => ⟨opens, closes, ordered, balanced⟩⟩

instance (p : Program) : Decidable p.ClosesLoops :=
  decidable_of_iff (∀ opening < p.size, p.fetch? opening = some .jumpForward →
      ∃ closing < p.size, p.Matched opening closing)
    ⟨fun closed opening opens =>
        let ⟨closing, _, matched⟩ := closed opening (lt_size_of_fetch? opens) opens
        ⟨closing, matched⟩,
      fun closed opening _ opens =>
        let ⟨closing, matched⟩ := closed opening opens
        ⟨closing, lt_size_of_fetch? matched.closes, matched⟩⟩

/-- A pair that is opened in the second program is closed there as well. -/
theorem matched_append_opening (p q : Program) (opening closing : Nat) :
    (p ++ q).Matched (p.size + opening) closing ↔
      ∃ place, q.Matched opening place ∧ p.size + place = closing := by
  constructor
  · intro matched
    have behind : p.size ≤ closing :=
      Nat.le_trans (Nat.le_add_right _ _) (Nat.le_of_lt matched.ordered)
    obtain ⟨place, rfl⟩ := Nat.exists_eq_add_of_le behind
    exact ⟨place, (matched_append_right p q opening place).mp matched, rfl⟩
  · rintro ⟨place, matched, rfl⟩
    exact (matched_append_right p q opening place).mpr matched

/-- A pair that is closed in the second program is opened there as well. -/
theorem matched_append_closing {p : Program} (closed : p.ClosesLoops) (q : Program)
    (opening closing : Nat) : (p ++ q).Matched opening (p.size + closing) ↔
      ∃ place, q.Matched place closing ∧ p.size + place = opening := by
  constructor
  · intro matched
    have behind : p.size ≤ opening := by
      apply Decidable.byContradiction
      intro before
      have opens := matched.opens
      rw [fetch?_append_left (Nat.not_le.mp before)] at opens
      -- The bracket has a partner in the first program already, and it has only one.
      obtain ⟨other, own⟩ := closed opening opens
      have inside : other < p.size := lt_size_of_fetch? own.closes
      have same := matched.closing_unique ((matched_append_left inside q).mpr own)
      omega
    obtain ⟨place, rfl⟩ := Nat.exists_eq_add_of_le behind
    exact ⟨place, (matched_append_right p q place closing).mp matched, rfl⟩
  · rintro ⟨place, matched, rfl⟩
    exact (matched_append_right p q place closing).mpr matched

/-! ## Searches -/

/-- The stride with which a bracket searches when it jumps. -/
def Directed (i : Instruction) (stride : Int) : Prop :=
  i = .jumpForward ∧ stride = 1 ∨ i = .jumpBackward ∧ stride = -1

theorem partner?_append_left {p : Program} (closed : p.ClosesLoops) {i : Instruction} {stride : Int}
    (directed : Directed i stride) {position : Nat} (fetched : p.fetch? position = some i)
    (q : Program) : (p ++ q).partner? i position stride = p.partner? i position stride := by
  have inside : position < p.size := lt_size_of_fetch? fetched
  have same : (p ++ q).fetch? position = some i := by rw [fetch?_append_left inside, fetched]
  rcases directed with ⟨rfl, rfl⟩ | ⟨rfl, rfl⟩
  · obtain ⟨closing, matched⟩ := closed position fetched
    have longer := (matched_append_left (lt_size_of_fetch? matched.closes) q).mpr matched
    rw [(partner?_forward_eq_some_iff fetched).mpr matched,
      (partner?_forward_eq_some_iff same).mpr longer]
  · apply Option.ext
    intro opening
    rw [partner?_backward_eq_some_iff same, partner?_backward_eq_some_iff fetched,
      matched_append_left inside]

theorem partner?_append_right {p : Program} (closed : p.ClosesLoops) {q : Program} {i : Instruction}
    {stride : Int} (directed : Directed i stride) {position : Nat}
    (fetched : q.fetch? position = some i) :
    (p ++ q).partner? i (p.size + position) stride =
      (q.partner? i position stride).map (p.size + ·) := by
  have same : (p ++ q).fetch? (p.size + position) = some i := by rw [fetch?_append_right, fetched]
  apply Option.ext
  intro partner
  rcases directed with ⟨rfl, rfl⟩ | ⟨rfl, rfl⟩
  · simp only [Option.map_eq_some_iff, partner?_forward_eq_some_iff same,
      partner?_forward_eq_some_iff fetched, matched_append_opening]
  · simp only [Option.map_eq_some_iff, partner?_backward_eq_some_iff same,
      partner?_backward_eq_some_iff fetched, matched_append_closing closed]

end TapeMachine.Program

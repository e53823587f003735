import TapeMachine.Proofs.Brackets.Scan

/-!
# Balanced brackets

A list of instructions is balanced if each level that it opens is closed, and no level is closed
that it did not open. Two brackets of a program match if the instructions between them are
balanced. Whether a list is balanced does not depend on the end from which it is read, so the
search ahead from an opening bracket and the search back from a closing one find the same pairs.

Results:
1. `scan_forward_eq_some_iff`, `scan_backward_eq_some_iff`: a scan ends at a bracket behind a
   balanced list.
2. `balanced_reverse_iff`: a balanced list is balanced backwards.
3. `partner?_forward_eq_some_iff`, `partner?_backward_eq_some_iff`: both searches find the matching
   bracket, and nothing else.
-/

namespace TapeMachine

/-- Each level is closed, and no level is closed that is not open, where `opener` opens them. -/
structure Balanced (opener : Instruction) (l : List Instruction) : Prop where
  closed : net opener l = 0
  sound : ∀ j ≤ l.length, 0 ≤ net opener (l.take j)

instance (opener : Instruction) (l : List Instruction) : Decidable (Balanced opener l) :=
  decidable_of_iff (net opener l = 0 ∧ ∀ j ≤ l.length, 0 ≤ net opener (l.take j))
    ⟨fun ⟨closed, sound⟩ => ⟨closed, sound⟩, fun ⟨closed, sound⟩ => ⟨closed, sound⟩⟩

/-! ## Balanced lists and scans -/

theorem scan_zero_eq_some_iff {opener : Instruction} {l : List Instruction} {k : Nat} :
    scan opener 0 l = some k ↔ Balanced opener (l.take k) ∧
      ∃ i, l[k]? = some i ∧ i.isBracket = true ∧ i ≠ opener := by
  rw [scan_eq_some_iff (Int.le_refl 0)]
  simp only [Int.zero_add]
  constructor
  · rintro ⟨inside, below, above⟩
    rw [List.take_succ_eq_append_getElem inside, net_append, net_cons, net_nil] at below
    have level := above k (Nat.le_refl k)
    -- The level is sound in front of the instruction and not behind it, so the instruction closes,
    -- and nothing is open in front of it.
    have bracket : l[k].isBracket = true := by
      apply Decidable.byContradiction
      intro plain
      by_cases opens : l[k] = opener
      · rw [opens, Instruction.weight_self] at below
        omega
      · rw [Instruction.weight_other plain opens] at below
        omega
    have differs : l[k] ≠ opener := by
      intro opens
      rw [opens, Instruction.weight_self] at below
      omega
    rw [Instruction.weight_closer bracket differs] at below
    refine ⟨⟨by omega, ?_⟩, l[k], List.getElem?_eq_getElem inside, bracket, differs⟩
    intro j _
    rw [List.take_take]
    exact above _ (Nat.min_le_right j k)
  · rintro ⟨⟨closed, sound⟩, i, here, bracket, differs⟩
    obtain ⟨inside, rfl⟩ := List.getElem?_eq_some_iff.mp here
    refine ⟨inside, ?_, ?_⟩
    · rw [List.take_succ_eq_append_getElem inside, net_append, closed, net_cons, net_nil,
        Instruction.weight_closer bracket differs]
      decide
    · intro j reached
      have level := sound j (by rw [List.length_take]; omega)
      rwa [List.take_take, Nat.min_eq_left reached] at level

/-- Levels that opening brackets open are closed by closing ones. -/
theorem scan_forward_eq_some_iff {l : List Instruction} {k : Nat} :
    scan .jumpForward 0 l = some k ↔
      Balanced .jumpForward (l.take k) ∧ l[k]? = some .jumpBackward := by
  rw [scan_zero_eq_some_iff]
  constructor
  · rintro ⟨balanced, i, here, bracket, differs⟩
    have closes : i = .jumpBackward := by
      cases i <;> simp_all [Instruction.isBracket]
    rw [closes] at here
    exact ⟨balanced, here⟩
  · rintro ⟨balanced, here⟩
    exact ⟨balanced, _, here, rfl, by decide⟩

/-- Read backwards, levels are opened by closing brackets and closed by opening ones. -/
theorem scan_backward_eq_some_iff {l : List Instruction} {k : Nat} :
    scan .jumpBackward 0 l = some k ↔
      Balanced .jumpBackward (l.take k) ∧ l[k]? = some .jumpForward := by
  rw [scan_zero_eq_some_iff]
  constructor
  · rintro ⟨balanced, i, here, bracket, differs⟩
    have opens : i = .jumpForward := by
      cases i <;> simp_all [Instruction.isBracket]
    rw [opens] at here
    exact ⟨balanced, here⟩
  · rintro ⟨balanced, here⟩
    exact ⟨balanced, _, here, rfl, by decide⟩

/-! ## Reading from the other end -/

theorem weight_jumpBackward (i : Instruction) :
    Instruction.weight .jumpBackward i = -Instruction.weight .jumpForward i := by
  cases i <;> decide

theorem net_jumpBackward (l : List Instruction) : net .jumpBackward l = -net .jumpForward l := by
  induction l with
  | nil => rfl
  | cons i rest ih =>
    rw [net_cons, net_cons, ih, weight_jumpBackward]
    omega

theorem balanced_reverse_iff {l : List Instruction} :
    Balanced .jumpBackward l.reverse ↔ Balanced .jumpForward l := by
  -- What a front leaves open, the part behind it closes.
  have split : ∀ j, net .jumpForward (l.take j) + net .jumpForward (l.drop j) =
      net .jumpForward l := by
    intro j
    rw [← net_append, List.take_append_drop]
  constructor
  · rintro ⟨closed, sound⟩
    rw [net_reverse, net_jumpBackward] at closed
    refine ⟨by omega, ?_⟩
    intro j inside
    have level := sound (l.length - j) (by rw [List.length_reverse]; omega)
    rw [List.take_reverse, net_reverse, net_jumpBackward, Nat.sub_sub_self inside] at level
    have := split j
    omega
  · rintro ⟨closed, sound⟩
    refine ⟨by rw [net_reverse, net_jumpBackward, closed]; rfl, ?_⟩
    intro j _
    rw [List.take_reverse, net_reverse, net_jumpBackward]
    have level := sound (l.length - j) (Nat.sub_le _ _)
    have := split (l.length - j)
    omega

/-! ## Matching brackets -/

namespace Program

/-- The brackets of a program are balanced. -/
def WellBracketed (p : Program) : Prop :=
  Balanced .jumpForward p.toList

instance (p : Program) : Decidable p.WellBracketed :=
  inferInstanceAs (Decidable (Balanced .jumpForward p.toList))

/-- The brackets at two positions match. -/
structure Matched (p : Program) (opening closing : Nat) : Prop where
  opens : p.fetch? opening = some .jumpForward
  closes : p.fetch? closing = some .jumpBackward
  ordered : opening < closing
  balanced : Balanced .jumpForward ((p.toList.take closing).drop (opening + 1))

theorem partner?_forward_eq_some_iff {p : Program} {opening closing : Nat}
    (opens : p.fetch? opening = some .jumpForward) :
    p.partner? .jumpForward opening 1 = some closing ↔ p.Matched opening closing := by
  rw [partner?_forward, Option.map_eq_some_iff]
  constructor
  · rintro ⟨k, found, rfl⟩
    obtain ⟨balanced, here⟩ := scan_forward_eq_some_iff.mp found
    rw [List.getElem?_drop, ← fetch?_eq] at here
    refine ⟨opens, here, by omega, ?_⟩
    rwa [List.drop_take, Nat.add_sub_cancel_left]
  · rintro ⟨_, closes, ordered, balanced⟩
    refine ⟨closing - (opening + 1), ?_, by omega⟩
    rw [scan_forward_eq_some_iff, ← List.drop_take]
    refine ⟨balanced, ?_⟩
    rw [List.getElem?_drop, ← fetch?_eq, Nat.add_sub_cancel' ordered, closes]

theorem partner?_backward_eq_some_iff {p : Program} {opening closing : Nat}
    (closes : p.fetch? closing = some .jumpBackward) :
    p.partner? .jumpBackward closing (-1) = some opening ↔ p.Matched opening closing := by
  have inside : closing < p.size := lt_size_of_fetch? closes
  have length : (p.toList.take closing).length = closing := by
    rw [List.length_take, length_toList]
    omega
  -- Read from its end, the front of the program has the bracket at `opening` in this place.
  have place : ∀ {k}, k < closing → (p.toList.take closing).reverse[k]? =
      p.fetch? (closing - 1 - k) := by
    intro k reached
    rw [List.getElem?_reverse (by omega), length, List.getElem?_take_of_lt (by omega), fetch?_eq]
  -- The first instructions of what is read are the last ones of the front.
  have between : ∀ {k}, k < closing → (p.toList.take closing).reverse.take k =
      ((p.toList.take closing).drop (closing - 1 - k + 1)).reverse := by
    intro k reached
    rw [List.take_reverse, length]
    congr 2
    omega
  rw [partner?_backward _ (Nat.le_of_lt inside), Option.map_eq_some_iff]
  constructor
  · rintro ⟨k, found, rfl⟩
    obtain ⟨balanced, here⟩ := scan_backward_eq_some_iff.mp found
    have reached : k < closing := by
      have := (List.getElem?_eq_some_iff.mp here).1
      rwa [List.length_reverse, length] at this
    rw [place reached] at here
    rw [between reached, balanced_reverse_iff] at balanced
    exact ⟨here, closes, by omega, balanced⟩
  · rintro ⟨opens, _, ordered, balanced⟩
    have reached : closing - 1 - opening < closing := by omega
    have back : closing - 1 - (closing - 1 - opening) = opening := by omega
    refine ⟨closing - 1 - opening, ?_, back⟩
    rw [scan_backward_eq_some_iff, between reached, back, place reached, back]
    exact ⟨balanced_reverse_iff.mpr balanced, opens⟩

end Program

end TapeMachine

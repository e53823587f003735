import TapeMachine.Proofs.Brackets.Append

/-!
# Nesting

Reading a program from its front, each position has a depth: how many loops have been opened in
front of it and not been closed. Two matching brackets are told from the depths alone: the closing
one is one deeper than the opening one, and nothing between them is less deep. So two pairs of
brackets cannot cross, whatever stray brackets stand around them.

A scan that never ends has found no level closed that is not open. Two scans, of the whole program
from either end, tell whether it is balanced, and the bracket at which one of them ends is one that
has no partner.

Results:
1. `matched_iff_depth`: matching brackets by their depths.
2. `Matched.nested_or_disjoint`: two pairs are disjoint, or one lies inside the other.
3. `wellBracketed_iff_partner?`: a program is balanced exactly if each bracket has a partner.
-/

namespace TapeMachine

namespace Program

/-! ## Depth -/

/-- How many more levels are opened than closed in front of a position. -/
def depth (p : Program) (position : Nat) : Int :=
  net .jumpForward (p.toList.take position)

theorem depth_succ {p : Program} {position : Nat} {i : Instruction}
    (fetched : p.fetch? position = some i) :
    p.depth (position + 1) = p.depth position + Instruction.weight .jumpForward i := by
  rw [fetch?_eq] at fetched
  obtain ⟨inside, rfl⟩ := List.getElem?_eq_some_iff.mp fetched
  rw [depth, depth, List.take_succ_eq_append_getElem inside, net_append, net_cons, net_nil,
    Int.add_zero]

theorem depth_succ_opening {p : Program} {position : Nat}
    (opens : p.fetch? position = some .jumpForward) :
    p.depth (position + 1) = p.depth position + 1 := by
  rw [depth_succ opens, Instruction.weight_self]

theorem depth_succ_closing {p : Program} {position : Nat}
    (closes : p.fetch? position = some .jumpBackward) :
    p.depth (position + 1) = p.depth position - 1 := by
  rw [depth_succ closes, Instruction.weight_closer rfl (by decide)]
  rfl

theorem depth_add (p : Program) (position distance : Nat) :
    p.depth (position + distance) =
      p.depth position + net .jumpForward ((p.toList.drop position).take distance) := by
  rw [depth, depth, List.take_add, net_append]

theorem wellBracketed_iff_depth {p : Program} :
    p.WellBracketed ↔ p.depth p.size = 0 ∧ ∀ position ≤ p.size, 0 ≤ p.depth position := by
  have whole : p.depth p.size = net .jumpForward p.toList := by
    rw [depth, List.take_of_length_le (Nat.le_of_eq p.length_toList)]
  rw [whole, ← length_toList]
  exact ⟨fun balanced => ⟨balanced.closed, balanced.sound⟩,
    fun ⟨closed, sound⟩ => ⟨closed, sound⟩⟩

/-! ## Pairs by their depths -/

theorem matched_iff_depth {p : Program} {opening closing : Nat}
    (opens : p.fetch? opening = some .jumpForward)
    (closes : p.fetch? closing = some .jumpBackward) (ordered : opening < closing) :
    p.Matched opening closing ↔ p.depth closing = p.depth opening + 1 ∧
      ∀ between, opening < between → between ≤ closing → p.depth opening < p.depth between := by
  have behind : opening + 1 ≤ closing := ordered
  obtain ⟨distance, rfl⟩ := Nat.exists_eq_add_of_le behind
  have inside : opening + 1 + distance ≤ p.toList.length := by
    rw [length_toList]
    exact Nat.le_of_lt (lt_size_of_fetch? closes)
  have length : ((p.toList.drop (opening + 1)).take distance).length = distance := by
    rw [List.length_take, List.length_drop]
    omega
  -- What is open behind the opening bracket and in front of a place between the two.
  have level : ∀ j ≤ distance, p.depth (opening + 1 + j) = p.depth opening + 1 +
      net .jumpForward (((p.toList.drop (opening + 1)).take distance).take j) := by
    intro j reached
    rw [depth_add, depth_succ_opening opens, List.take_take, Nat.min_eq_left reached]
  have slice : (p.toList.take (opening + 1 + distance)).drop (opening + 1) =
      (p.toList.drop (opening + 1)).take distance := by
    rw [List.drop_take, Nat.add_sub_cancel_left]
  have last := level distance (Nat.le_refl distance)
  rw [List.take_of_length_le (Nat.le_of_eq length)] at last
  constructor
  · rintro ⟨_, _, _, balanced⟩
    rw [slice] at balanced
    refine ⟨by rw [last, balanced.closed, Int.add_zero], ?_⟩
    intro between behind before
    have next : opening + 1 ≤ between := behind
    obtain ⟨j, rfl⟩ := Nat.exists_eq_add_of_le next
    have reached : j ≤ distance := Nat.le_of_add_le_add_left before
    have sound := balanced.sound j (by rw [length]; exact reached)
    rw [level j reached]
    omega
  · rintro ⟨closed, above⟩
    refine ⟨opens, closes, ordered, ?_⟩
    rw [slice]
    refine ⟨by omega, ?_⟩
    intro j reached
    rw [length] at reached
    have sound := above (opening + 1 + j) (by omega) (by omega)
    rw [level j reached] at sound
    omega

theorem Matched.depth_closing {p : Program} {opening closing : Nat}
    (matched : p.Matched opening closing) : p.depth closing = p.depth opening + 1 :=
  ((matched_iff_depth matched.opens matched.closes matched.ordered).mp matched).1

theorem Matched.depth_between {p : Program} {opening closing between : Nat}
    (matched : p.Matched opening closing) (behind : opening < between)
    (before : between ≤ closing) : p.depth opening < p.depth between :=
  ((matched_iff_depth matched.opens matched.closes matched.ordered).mp matched).2 between behind
    before

theorem Matched.opening_unique {p : Program} {opening other closing : Nat}
    (first : p.Matched opening closing) (second : p.Matched other closing) : opening = other := by
  have found := (partner?_backward_eq_some_iff first.closes).mpr first
  rw [(partner?_backward_eq_some_iff first.closes).mpr second] at found
  exact (Option.some.inj found).symm

/-- A pair that begins inside another one ends inside it. -/
theorem Matched.nested_or_disjoint {p : Program} {opening closing inner closer : Nat}
    (outer : p.Matched opening closing) (matched : p.Matched inner closer)
    (ordered : opening < inner) : closing < inner ∨ closer < closing := by
  rcases Nat.lt_trichotomy closing inner with before | rfl | inside
  · exact .inl before
  · have closes := outer.closes
    rw [matched.opens] at closes
    cases closes
  · refine .inr (Nat.lt_of_not_le fun beyond => ?_)
    rcases Nat.eq_or_lt_of_le beyond with rfl | crossing
    · exact absurd (outer.opening_unique matched) (Nat.ne_of_lt ordered)
    · -- Behind its closing bracket the outer pair is as deep as in front of it, which is less than
      -- the inner pair may get in front of its own closing bracket.
      have deep := outer.depth_between ordered (Nat.le_of_lt inside)
      have above := matched.depth_between (Nat.lt_succ_of_lt inside) crossing
      rw [Nat.succ_eq_add_one, depth_succ_closing outer.closes, outer.depth_closing] at above
      omega

end Program

/-! ## Scans without an end -/

/-- A scan has no end exactly if the number of open levels never gets negative. -/
theorem scan_eq_none_iff {opener : Instruction} {level : Int} {l : List Instruction}
    (sound : 0 ≤ level) :
    scan opener level l = none ↔ ∀ j ≤ l.length, 0 ≤ level + net opener (l.take j) := by
  constructor
  · intro endless j inside
    induction l generalizing level j with
    | nil => simpa using sound
    | cons i rest ih =>
      unfold scan at endless
      split at endless
      · cases endless
      · next above =>
        cases j with
        | zero => simpa using sound
        | succ j =>
          rw [List.take_succ_cons, net_cons, ← Int.add_assoc]
          exact ih (Int.not_lt.mp above) (Option.map_eq_none_iff.mp endless) j
            (Nat.le_of_succ_le_succ inside)
  · intro above
    rw [Option.eq_none_iff_forall_ne_some]
    intro k found
    obtain ⟨inside, below, _⟩ := (scan_eq_some_iff sound).mp found
    have := above (k + 1) inside
    omega

theorem Balanced.scan_eq_none {opener : Instruction} {l : List Instruction}
    (balanced : Balanced opener l) : scan opener 0 l = none :=
  (scan_eq_none_iff (Int.le_refl 0)).mpr fun j inside => by
    rw [Int.zero_add]
    exact balanced.sound j inside

/-- What an endless scan passes opens at least as much as it closes. -/
theorem net_of_scan_eq_none {opener : Instruction} {l : List Instruction}
    (endless : scan opener 0 l = none) : 0 ≤ net opener l := by
  have whole := (scan_eq_none_iff (Int.le_refl 0)).mp endless l.length (Nat.le_refl _)
  rwa [List.take_length, Int.zero_add] at whole

namespace Program

/-! ## Balance and partners -/

theorem wellBracketed_iff_scan {p : Program} :
    p.WellBracketed ↔ scan .jumpForward 0 p.toList = none ∧
      scan .jumpBackward 0 p.toList.reverse = none := by
  constructor
  · intro balanced
    exact ⟨Balanced.scan_eq_none balanced,
      Balanced.scan_eq_none (balanced_reverse_iff.mpr balanced)⟩
  · rintro ⟨ahead, back⟩
    have opened := net_of_scan_eq_none ahead
    have closed := net_of_scan_eq_none back
    rw [net_reverse, net_jumpBackward] at closed
    refine ⟨by omega, fun j inside => ?_⟩
    have sound := (scan_eq_none_iff (Int.le_refl 0)).mp ahead j inside
    rwa [Int.zero_add] at sound

/-- A scan of the program ends at a closing bracket without a partner: what stands in front of it is
balanced. -/
theorem unopened_of_scan {p : Program} {closing : Nat}
    (found : scan .jumpForward 0 p.toList = some closing) :
    p.fetch? closing = some .jumpBackward ∧ p.partner? .jumpBackward closing (-1) = none := by
  obtain ⟨balanced, here⟩ := scan_forward_eq_some_iff.mp found
  rw [← fetch?_eq] at here
  refine ⟨here, ?_⟩
  rw [partner?_backward _ (Nat.le_of_lt (lt_size_of_fetch? here)),
    (balanced_reverse_iff.mpr balanced).scan_eq_none]
  rfl

/-- A scan of the program from its end ends at an opening bracket without a partner. -/
theorem unclosed_of_scan {p : Program} {k : Nat}
    (found : scan .jumpBackward 0 p.toList.reverse = some k) :
    ∃ opening, p.fetch? opening = some .jumpForward ∧
      p.partner? .jumpForward opening 1 = none := by
  obtain ⟨balanced, here⟩ := scan_backward_eq_some_iff.mp found
  have inside : k < p.toList.length := by
    have := (List.getElem?_eq_some_iff.mp here).1
    rwa [List.length_reverse] at this
  rw [List.getElem?_reverse inside, ← fetch?_eq] at here
  refine ⟨_, here, ?_⟩
  have behind : p.toList.length - 1 - k + 1 = p.toList.length - k := by omega
  rw [List.take_reverse, balanced_reverse_iff] at balanced
  rw [partner?_forward, behind, balanced.scan_eq_none]
  rfl

theorem exists_partner_of_wellBracketed {p : Program} (balanced : p.WellBracketed)
    {i : Instruction} {stride : Int} {position : Nat} (directed : Directed i stride)
    (fetched : p.fetch? position = some i) : p.partner? i position stride ≠ none := by
  have inside : position < p.size := lt_size_of_fetch? fetched
  obtain ⟨closed, sound⟩ := wellBracketed_iff_depth.mp balanced
  have here := sound position (Nat.le_of_lt inside)
  have next := sound (position + 1) inside
  rcases directed with ⟨rfl, rfl⟩ | ⟨rfl, rfl⟩
  · -- An opening bracket without a partner would leave a level open at the end.
    rw [partner?_forward, Ne, Option.map_eq_none_iff]
    intro endless
    have rest := net_of_scan_eq_none endless
    have whole := depth_add p (position + 1) (p.size - (position + 1))
    rw [Nat.add_sub_cancel' inside, closed, depth_succ_opening fetched,
      List.take_of_length_le (by rw [List.length_drop, length_toList])] at whole
    omega
  · -- A closing bracket without a partner would close a level that is not open.
    rw [partner?_backward _ (Nat.le_of_lt inside), Ne, Option.map_eq_none_iff]
    intro endless
    have front := net_of_scan_eq_none endless
    rw [net_reverse, net_jumpBackward, ← depth] at front
    rw [depth_succ_closing fetched] at next
    omega

theorem exists_unmatched {p : Program} (unbalanced : ¬p.WellBracketed) :
    ∃ i stride position, Directed i stride ∧ p.fetch? position = some i ∧
      p.partner? i position stride = none := by
  cases ahead : scan .jumpForward 0 p.toList with
  | some closing =>
    obtain ⟨closes, alone⟩ := unopened_of_scan ahead
    exact ⟨.jumpBackward, -1, closing, .inr ⟨rfl, rfl⟩, closes, alone⟩
  | none =>
    cases back : scan .jumpBackward 0 p.toList.reverse with
    | some k =>
      obtain ⟨opening, opens, alone⟩ := unclosed_of_scan back
      exact ⟨.jumpForward, 1, opening, .inl ⟨rfl, rfl⟩, opens, alone⟩
    | none => exact absurd (wellBracketed_iff_scan.mpr ⟨ahead, back⟩) unbalanced

theorem wellBracketed_iff_partner? {p : Program} :
    p.WellBracketed ↔ ∀ i stride position, Directed i stride → p.fetch? position = some i →
      p.partner? i position stride ≠ none := by
  constructor
  · intro balanced i stride position directed fetched
    exact exists_partner_of_wellBracketed balanced directed fetched
  · intro partnered
    apply Decidable.byContradiction
    intro unbalanced
    obtain ⟨i, stride, position, directed, fetched, alone⟩ := exists_unmatched unbalanced
    exact partnered i stride position directed fetched alone

end Program

end TapeMachine

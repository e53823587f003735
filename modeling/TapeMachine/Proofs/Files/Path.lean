import TapeMachine.Files.Path

/-!
# Paths and their texts

The path that a text names is in normal form, and a path in normal form is named by its own text.
So a path may be printed and be given back as it was printed. A longer last name makes the text
longer by as much.

Results:
1. `pieces_eq_splitOn`: cutting a list is the splitting of the library.
2. `pieces_append`: what is put behind a list without a separator gets to its last piece.
3. `canonical_ofText`, `Canonical.extend`: paths of texts are in normal form, also when they are
   extended.
4. `ofText_text`: the text of a path in normal form names it.
-/

namespace TapeMachine

/-! ## Cutting at a separator -/

section Pieces

variable {α : Type} [DecidableEq α] {separator : α}

theorem pieces_eq_splitOn (s : List α) : pieces separator s = s.splitOn separator := by
  induction s with
  | nil => rw [pieces, List.splitOn_nil]
  | cons a rest ih =>
    rw [List.splitOn_cons_eq_if_modifyHead, ← ih, pieces]
    by_cases same : a = separator
    · rw [if_pos same, if_pos (beq_iff_eq.mpr same)]
    · rw [if_neg same, if_neg (fun equal => same (beq_iff_eq.mp equal))]
      cases cut : pieces separator rest with
      | nil => exact absurd cut (pieces_ne_nil separator rest)
      | cons piece later => rfl

theorem pieces_of_not_mem {s : List α} (clean : separator ∉ s) : pieces separator s = [s] := by
  rw [pieces_eq_splitOn, List.splitOn_eq_singleton clean]

/-- What is put behind a list gets to its last piece. That piece is empty only if there is nothing
else or the list ends in a separator. -/
theorem pieces_append {t : List α} (clean : separator ∉ t) (s : List α) :
    ∃ front last, pieces separator s = front ++ [last] ∧
      pieces separator (s ++ t) = front ++ [last ++ t] ∧
      (last = [] → s = [] ∨ s.getLast? = some separator) := by
  induction s with
  | nil => exact ⟨[], [], rfl, pieces_of_not_mem clean, fun _ => .inl rfl⟩
  | cons a rest ih =>
    obtain ⟨front, last, cut, longer, empty⟩ := ih
    by_cases same : a = separator
    -- A separator begins a piece; what is none goes to the first piece, which may be the last one.
    · refine ⟨[] :: front, last, ?_, ?_, ?_⟩
      · rw [pieces, if_pos same, cut]
        rfl
      · rw [List.cons_append, pieces, if_pos same, longer]
        rfl
      · intro none
        rcases empty none with rfl | ends
        · exact .inr (by rw [same]; rfl)
        · exact .inr (by rw [List.getLast?_cons, ends, Option.getD_some])
    · cases front with
      | nil =>
        refine ⟨[], a :: last, ?_, ?_, ?_⟩
        · rw [pieces, if_neg same, cut]
          rfl
        · rw [List.cons_append, pieces, if_neg same, longer]
          rfl
        · intro none
          cases none
      | cons first front =>
        refine ⟨(a :: first) :: front, last, ?_, ?_, ?_⟩
        · rw [pieces, if_neg same, cut]
          rfl
        · rw [List.cons_append, pieces, if_neg same, longer]
          rfl
        · intro none
          rcases empty none with rfl | ends
          · simp [pieces] at cut
          · exact .inr (by rw [List.getLast?_cons, ends, Option.getD_some])

theorem namesBetween_cons (s : List α) :
    namesBetween separator (separator :: s) = namesBetween separator s := by
  rw [namesBetween, pieces, if_pos rfl]
  rfl

theorem namesBetween_intercalate {names : List (List α)} (some : names ≠ [])
    (proper : ∀ name ∈ names, name ≠ [] ∧ separator ∉ name) :
    namesBetween separator (List.intercalate [separator] names) = names := by
  rw [namesBetween, pieces_eq_splitOn,
    List.splitOn_intercalate separator (fun name member => (proper name member).2) some,
    List.filter_eq_self]
  intro name member
  simpa using (proper name member).1

theorem mem_namesBetween {s name : List α} (member : name ∈ namesBetween separator s) :
    name ≠ [] ∧ separator ∉ name := by
  obtain ⟨cut, full⟩ := List.mem_filter.mp member
  exact ⟨by simpa using full, not_mem_of_mem_pieces cut⟩

end Pieces

/-! ## Paths in normal form -/

namespace Path

/-- There are names, and each of them can be told apart in the text of the path. -/
structure Canonical (p : Path) : Prop where
  rooted : p.root = [] ∨ p.root = [.char '/'] ∨ p.root = [.char '/', .char '/']
  named : p.names ≠ []
  proper : ∀ name ∈ p.names, (name ≠ [] ∧ .char '/' ∉ name) ∧ name ≠ [.char '.']

theorem ofString_dot : Text.ofString "." = [.char '.'] := by decide

theorem ofString_slash : Text.ofString "/" = [.char '/'] := by decide

theorem root_ofText (s : Text) : (ofText s).root = [] ∨ (ofText s).root = [.char '/'] ∨
    (ofText s).root = [.char '/', .char '/'] := by
  have none : Text.ofString "" = [] := by decide
  have two : Text.ofString "//" = [.char '/', .char '/'] := by decide
  show rootOf s = _ ∨ rootOf s = _ ∨ rootOf s = _
  unfold rootOf
  split
  · exact .inl none
  · exact .inr (.inr two)
  · exact .inr (.inl ofString_slash)

theorem canonical_ofText {s : Text} (named : (ofText s).names ≠ []) : (ofText s).Canonical := by
  refine ⟨root_ofText s, named, ?_⟩
  intro name member
  obtain ⟨between, other⟩ := List.mem_filter.mp member
  refine ⟨mem_namesBetween between, ?_⟩
  rw [← ofString_dot]
  simpa using other

theorem Canonical.extend {p : Path} (canonical : p.Canonical) {suffix : Text} (some : suffix ≠ [])
    (clean : .char '/' ∉ suffix) : (p.extend suffix).Canonical := by
  refine ⟨canonical.rooted, by simp [Path.extend], ?_⟩
  intro name member
  rcases List.mem_append.mp member with member | member
  · exact canonical.proper name (List.dropLast_subset _ member)
  · obtain rfl := List.mem_singleton.mp member
    rw [List.getLastD_eq_getLast?, List.getLast?_eq_some_getLast canonical.named, Option.getD_some]
    obtain ⟨⟨full, slashless⟩, _⟩ :=
      canonical.proper _ (List.getLast_mem canonical.named)
    refine ⟨⟨by simp [full], ?_⟩, ?_⟩
    · intro slash
      rcases List.mem_append.mp slash with slash | slash
      · exact slashless slash
      · exact clean slash
    · intro dot
      have length := congrArg List.length dot
      have front := List.length_pos_iff.mpr full
      have back := List.length_pos_iff.mpr some
      rw [List.length_append, List.length_singleton] at length
      omega

theorem text_of_named {p : Path} (named : p.names ≠ []) :
    p.text = p.root ++ List.intercalate [.char '/'] p.names := by
  have some : p.names.isEmpty = false := by simpa using named
  rw [text, some, Bool.and_false, ofString_slash]
  rfl

/-- The text of a path in normal form names it. -/
theorem ofText_text {p : Path} (canonical : p.Canonical) : ofText p.text = p := by
  obtain ⟨root, names⟩ := p
  obtain ⟨rooted, named, proper⟩ := canonical
  have between := namesBetween_intercalate named fun name member => (proper name member).1
  have kept : names.filter (· ≠ Text.ofString ".") = names := by
    rw [List.filter_eq_self]
    intro name member
    rw [ofString_dot]
    simpa using (proper name member).2
  -- No slash of the names is taken for one of the root.
  have ended : (List.intercalate [CodePoint.char '/'] names).takeWhile (· = .char '/') = [] := by
    cases names with
    | nil => exact absurd rfl named
    | cons name names =>
      obtain ⟨⟨full, slashless⟩, _⟩ := proper name List.mem_cons_self
      cases name with
      | nil => exact absurd rfl full
      | cons first name =>
        have differs : first ≠ .char '/' := by
          rintro rfl
          exact slashless List.mem_cons_self
        rw [List.intercalate_cons_cons_left, List.takeWhile_cons_of_neg (by simpa using differs)]
  rw [text_of_named named]
  rcases rooted with rfl | rfl | rfl
  · have root : rootOf (List.intercalate [.char '/'] names) = [] := by
      rw [rootOf, ended]
      decide
    simp only [ofText, List.nil_append, root, between, kept]
  · have root : rootOf (.char '/' :: List.intercalate [.char '/'] names) = [.char '/'] := by
      rw [rootOf, List.takeWhile_cons_of_pos (by decide), ended]
      decide
    simp only [ofText, List.singleton_append, root, namesBetween_cons, between, kept]
  · have root : rootOf (.char '/' :: .char '/' :: List.intercalate [.char '/'] names) =
        [.char '/', .char '/'] := by
      rw [rootOf, List.takeWhile_cons_of_pos (by decide), List.takeWhile_cons_of_pos (by decide),
        ended]
      decide
    simp only [ofText, List.cons_append, List.nil_append, root, namesBetween_cons, between, kept]

theorem intercalate_append_last (separator last suffix : Text) (front : List Text) :
    List.intercalate separator (front ++ [last ++ suffix]) =
      List.intercalate separator (front ++ [last]) ++ suffix := by
  induction front with
  | nil => rw [List.nil_append, List.nil_append, List.intercalate_singleton,
      List.intercalate_singleton]
  | cons name front ih =>
    have more : ∀ last : Text, front ++ [last] ≠ [] := fun last => by simp
    rw [List.cons_append, List.cons_append, List.intercalate_cons_of_ne_nil (more _),
      List.intercalate_cons_of_ne_nil (more _), ih, List.append_assoc _ _ suffix]

theorem text_extend {p : Path} (named : p.names ≠ []) (suffix : Text) :
    (p.extend suffix).text = p.text ++ suffix := by
  have more : (p.extend suffix).names ≠ [] := by simp [Path.extend]
  have split : p.names = p.names.dropLast ++ [p.names.getLastD []] := by
    rw [List.getLastD_eq_getLast?, List.getLast?_eq_some_getLast named, Option.getD_some,
      List.dropLast_concat_getLast]
  rw [text_of_named more, text_of_named named, Path.extend, intercalate_append_last, ← split,
    List.append_assoc]

end Path

end TapeMachine

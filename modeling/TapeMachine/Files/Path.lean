import TapeMachine.Text.CodePoint

/-!
# Paths

A path is shown and opened in a normal form: repeated slashes, single dots and a slash at the end
are dropped, while double dots are kept, since what they mean depends on the files. A path that
starts with a slash is absolute, and exactly two slashes at the start stay two.

Results:
1. `pieces_ne_nil`: cutting a list at a separator leaves at least one piece.
2. `not_mem_of_mem_pieces`: no piece holds the separator.
-/

namespace TapeMachine

/-- Cuts a list at each occurrence of a separator. -/
def pieces {α : Type} [DecidableEq α] (separator : α) : List α → List (List α)
  | [] => [[]]
  | a :: rest =>
    if a = separator then [] :: pieces separator rest
    else
      match pieces separator rest with
      | [] => [[a]]
      | piece :: later => (a :: piece) :: later

/-- The pieces that are not empty. -/
def namesBetween {α : Type} [DecidableEq α] (separator : α) (s : List α) : List (List α) :=
  (pieces separator s).filter (!·.isEmpty)

/-- A path in normal form. -/
structure Path where
  root : Text
  names : List Text
deriving DecidableEq, Repr

namespace Path

/-- The root of a path: nothing for a relative one, two slashes if the text starts with exactly
two, and else one. -/
def rootOf (s : Text) : Text :=
  match (s.takeWhile (· = .char '/')).length with
  | 0 => ""
  | 2 => "//"
  | _ => "/"

/-- The path that a text names. -/
def ofText (s : Text) : Path :=
  ⟨rootOf s, (namesBetween (.char '/') s).filter (· ≠ Text.ofString ".")⟩

/-- The text of a path; the path without names is a single dot. -/
def text (p : Path) : Text :=
  if p.root.isEmpty && p.names.isEmpty then "."
  else p.root ++ List.intercalate (Text.ofString "/") p.names

/-- The path in the same directory whose last name is longer by a suffix. -/
def extend (p : Path) (suffix : Text) : Path :=
  ⟨p.root, p.names.dropLast ++ [p.names.getLastD [] ++ suffix]⟩

end Path

theorem pieces_ne_nil {α : Type} [DecidableEq α] (separator : α) (s : List α) :
    pieces separator s ≠ [] := by
  cases s with
  | nil => simp [pieces]
  | cons a rest =>
    unfold pieces
    split
    · simp
    · split <;> simp

theorem not_mem_of_mem_pieces {α : Type} [DecidableEq α] {separator : α} {s piece : List α}
    (found : piece ∈ pieces separator s) : separator ∉ piece := by
  induction s generalizing piece with
  | nil => simp_all [pieces]
  | cons a rest ih =>
    unfold pieces at found
    split at found
    · rcases List.mem_cons.mp found with rfl | found
      · simp
      · exact ih found
    · next differs =>
      split at found
      · next empty => exact absurd empty (pieces_ne_nil separator rest)
      · next first later cut =>
        rcases List.mem_cons.mp found with rfl | found
        · have clean := @ih first (by simp [cut])
          simp [Ne.symm differs, clean]
        · exact ih (by simp [cut, found])

example : (Path.ofText "./x//y/.").text = "x/y" ∧ (Path.ofText "").text = "." ∧
    (Path.ofText "///x").text = "/x" ∧ (Path.ofText "//x").text = "//x" ∧
    ((Path.ofText "d/p.b").extend ".json").text = "d/p.b.json" := by decide +kernel

end TapeMachine

/-!
# Line ends

Text from a file may end its lines with a line feed, a carriage return, or both in that order.
All three are read as one line feed.

Results:
1. `no_return_unify`: no carriage return is left.
2. `unify_of_no_return`: text without carriage returns is unchanged.
-/

namespace TapeMachine.Newline

/-- Reads every line end as a line feed, in front of text already read, latest character first. -/
def unifyOnto (read : List Char) : List Char → List Char
  | [] => read.reverse
  | '\r' :: '\n' :: rest => unifyOnto ('\n' :: read) rest
  | '\r' :: rest => unifyOnto ('\n' :: read) rest
  | c :: rest => unifyOnto (c :: read) rest

/-- The text with every line end read as a line feed. -/
def unify (s : List Char) : List Char :=
  unifyOnto [] s

theorem no_return_unifyOnto {read : List Char} (s : List Char) (clean : '\r' ∉ read) :
    '\r' ∉ unifyOnto read s := by
  fun_induction unifyOnto read s with
  | case1 read => simpa using clean
  | case2 read rest ih => exact ih (by simpa using clean)
  | case3 read rest _ ih => exact ih (by simpa using clean)
  | case4 read c rest _ other ih =>
    apply ih
    intro member
    rcases List.mem_cons.mp member with rfl | member
    · exact other rfl
    · exact clean member

theorem no_return_unify (s : List Char) : '\r' ∉ unify s :=
  no_return_unifyOnto s (by simp)

theorem unifyOnto_of_no_return {read s : List Char} (clean : '\r' ∉ s) :
    unifyOnto read s = read.reverse ++ s := by
  fun_induction unifyOnto read s with
  | case1 read => simp
  | case2 read rest ih => simp at clean
  | case3 read rest _ ih => simp at clean
  | case4 read c rest _ other ih =>
    rw [ih (fun member => clean (by simp [member]))]
    simp

theorem unify_of_no_return {s : List Char} (clean : '\r' ∉ s) : unify s = s := by
  simp [unify, unifyOnto_of_no_return clean]

example : unify ['a', '\r', '\n', '\r', '\r', 'b'] = ['a', '\n', '\n', '\n', 'b'] := by decide

end TapeMachine.Newline

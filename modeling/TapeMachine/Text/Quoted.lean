import TapeMachine.Text.CodePoint
import TapeMachine.Text.Hex
import TapeMachine.Text.Printable

/-!
# Quoted text

Text is shown in messages between quotes, on one line, with every character that is not printable
escaped. Single quotes are used unless the text holds one and holds no double quote.

Results:
1. `escape_ne_nil`: no code point disappears.
2. `printable_of_mem_escape`: what is written for a code point is printable, whatever it is.
-/

namespace TapeMachine.Quoted

/-- The quote that a text is written between. -/
def mark (s : Text) : Char :=
  if s.contains (.char '\'') && !s.contains (.char '"') then '"' else '\''

/-- What is written for one code point between two quotes of the kind `mark`. -/
def escape (mark : Char) (p : CodePoint) : List Char :=
  if p.val = '\\'.toNat || p.val = mark.toNat then ['\\', Char.ofNat p.val]
  else if p.val = '\n'.toNat then ['\\', 'n']
  else if p.val = '\r'.toNat then ['\\', 'r']
  else if p.val = '\t'.toNat then ['\\', 't']
  else if isPrintable p.val then [Char.ofNat p.val]
  else if p.val < 0x100 then '\\' :: 'x' :: Hex.fixed 2 p.val
  else if p.val < 0x10000 then '\\' :: 'u' :: Hex.fixed 4 p.val
  else '\\' :: 'U' :: Hex.fixed 8 p.val

/-- The characters of a text between its quotes. -/
def chars (s : Text) : List Char :=
  mark s :: s.flatMap (escape (mark s)) ++ [mark s]

/-- A text between its quotes. -/
def quote (s : Text) : String :=
  String.ofList (chars s)

theorem escape_ne_nil (mark : Char) (p : CodePoint) : escape mark p ≠ [] := by
  unfold escape
  repeat' split
  all_goals simp

theorem mark_eq_or (s : Text) : mark s = '"' ∨ mark s = '\'' := by
  unfold mark
  split <;> simp

theorem printable_of_mem_fixed {width n : Nat} {c : Char} (member : c ∈ Hex.fixed width n) :
    isPrintable c.toNat = true := by
  induction width generalizing n with
  | zero => simp [Hex.fixed] at member
  | succ width ih =>
    have ascii : ∀ k < 16, 0x20 ≤ (Hex.digit k).toNat ∧ (Hex.digit k).toNat ≤ 0x7E := by decide
    rw [Hex.fixed, List.mem_append, List.mem_singleton] at member
    rcases member with member | rfl
    · exact ih member
    · rw [← Hex.digit_mod]
      obtain ⟨low, high⟩ := ascii _ (Nat.mod_lt _ (by decide))
      exact Printable.isPrintable_of_ascii low high

/-- Whatever is quoted, only printable characters are written. -/
theorem printable_of_mem_escape {mark c : Char} {p : CodePoint}
    (markPrintable : isPrintable mark.toNat = true) (member : c ∈ escape mark p) :
    isPrintable c.toNat = true := by
  have shown : ∀ {n : Nat}, isPrintable n = true → (Char.ofNat n).toNat = n :=
    fun printable => CodePoint.toNat_ofNat (Printable.isValidChar_of_isPrintable printable)
  have slash : isPrintable '\\'.toNat = true :=
    Printable.isPrintable_of_ascii (by decide) (by decide)
  have letters : ∀ d ∈ ['n', 'r', 't', 'x', 'u', 'U'], isPrintable d.toNat = true := by
    intro d letter
    simp only [List.mem_cons, List.not_mem_nil, or_false] at letter
    rcases letter with rfl | rfl | rfl | rfl | rfl | rfl <;>
      exact Printable.isPrintable_of_ascii (by decide) (by decide)
  have coded : ∀ d ∈ ['n', 'r', 't', 'x', 'u', 'U'], ∀ {width n : Nat},
      c ∈ '\\' :: d :: Hex.fixed width n → isPrintable c.toNat = true := by
    intro d letter width n member
    rcases List.mem_cons.mp member with rfl | member
    · exact slash
    rcases List.mem_cons.mp member with rfl | member
    · exact letters _ letter
    · exact printable_of_mem_fixed member
  have pair : ∀ d ∈ ['n', 'r', 't', 'x', 'u', 'U'], c ∈ ['\\', d] →
      isPrintable c.toNat = true :=
    fun d letter member => @coded d letter 0 0 member
  unfold escape at member
  repeat' split at member
  · next special =>
    simp only [Bool.or_eq_true, decide_eq_true_eq] at special
    have printable : isPrintable p.val = true := by
      rcases special with same | same
      · rw [same]; exact slash
      · rw [same]; exact markPrintable
    simp only [List.mem_cons, List.not_mem_nil, or_false] at member
    rcases member with rfl | rfl
    · exact slash
    · rw [shown printable]; exact printable
  · exact pair 'n' (by simp) member
  · exact pair 'r' (by simp) member
  · exact pair 't' (by simp) member
  · next printable =>
    rw [List.mem_singleton.mp member, shown printable]
    exact printable
  · exact coded 'x' (by simp) member
  · exact coded 'u' (by simp) member
  · exact coded 'U' (by simp) member

end TapeMachine.Quoted

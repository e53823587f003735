import TapeMachine.Text.CodePoint
import TapeMachine.Text.Hex

/-!
# Spelling out surrogates

Reports have to come through whatever they quote. So a surrogate is not refused there but spelled
out, by a backslash, the letter `u` and four digits, while every character stands for itself.

Results:
1. `spelled_ofString`: ordinary text is left as it is.
2. `spelled_append`: a text can be spelled out piece by piece.
-/

namespace TapeMachine

/-- The characters that stand for a code point. -/
def CodePoint.spelled : CodePoint → List Char
  | .char c => [c]
  | .surrogate index => '\\' :: 'u' :: Hex.fixed 4 (CodePoint.surrogate index).val

namespace Text

/-- A text with its surrogates spelled out. -/
def spelled (s : Text) : String :=
  String.ofList (s.flatMap CodePoint.spelled)

@[simp] theorem spelled_ofString (s : String) : spelled (ofString s) = s := by
  simp [spelled, ofString, ofChars, List.flatMap_map, CodePoint.spelled]

theorem spelled_append (s t : Text) : spelled (s ++ t) = spelled s ++ spelled t := by
  simp [spelled]

example : spelled [.char 'a', .surrogate 0x480] = "a\\udc80" := by decide +kernel

end Text

end TapeMachine

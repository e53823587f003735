import TapeMachine.Files.Tree
import TapeMachine.Program.Source

/-!
# Source files

A source file holds program text. Whatever its bytes are, it has a program; it only has to be
there.
-/

namespace TapeMachine.Program

/-- The program of a source file, which is opened under exactly the given name. -/
def ofFile (files : FileTree) (file : Text) : Except OpenError Program :=
  (files.read file).map ofBytes

theorem ofFile_eq_ok_iff {files : FileTree} {file : Text} {p : Program} :
    ofFile files file = .ok p ↔ ∃ content, files.read file = .ok content ∧ p = ofBytes content := by
  unfold ofFile
  cases files.read file <;> simp [Except.map, eq_comm]

end TapeMachine.Program

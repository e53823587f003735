import TapeMachine.Text.Quoted

/-!
# Errors of the operating system

Reading, writing and opening can fail for reasons that the machine has no say in. Such an error
has a number, a reason in words and perhaps the name of a file, or it is just a message. The words
come from outside, so they can be any text.
-/

namespace TapeMachine

/-- An error reported by the operating system or by a stream. -/
inductive SystemError
  /-- A message and nothing else. -/
  | plain (message : Text)
  /-- A numbered error with its reason, and the file it is about. -/
  | numbered (number : Int) (reason : Text) (file? : Option Text)
deriving DecidableEq, Repr

namespace SystemError

/-- The error in full. -/
def message : SystemError → Text
  | .plain message => message
  | .numbered number reason none => s!"[Errno {number}] " ++ reason
  | .numbered number reason (some file) =>
    s!"[Errno {number}] " ++ reason ++ ": " ++ Quoted.quote file

/-- The reason in words, which a plain error lacks. -/
def reason : SystemError → Text
  | .plain _ => "None"
  | .numbered _ reason _ => reason

/-- What the error is about, when it names a file that has a name. -/
def file? : SystemError → Option Text
  | .plain _ => none
  | .numbered _ _ file? => file?.filter (· ≠ [])

/-- There is no file of that name. -/
def noSuchFile (file : Text) : SystemError :=
  .numbered 2 "No such file or directory" (some file)

/-- Something that is not a directory is used as one. -/
def notADirectory (file : Text) : SystemError :=
  .numbered 20 "Not a directory" (some file)

/-- A directory is used as a file. -/
def isADirectory (file : Text) : SystemError :=
  .numbered 21 "Is a directory" (some file)

/-- A device has no space left. Which one is not said. -/
def noSpace : SystemError :=
  .numbered 28 "No space left on device" none

/-- Something that is open cannot be read or written. What it is is not said. -/
def inputOutput : SystemError :=
  .numbered 5 "Input/output error" none

/-- A device is not there. -/
def noSuchDevice (file : Text) : SystemError :=
  .numbered 6 "No such device or address" (some file)

/-- The system does not grant what is asked for. -/
def permissionDenied (file : Text) : SystemError :=
  .numbered 13 "Permission denied" (some file)

/-- A name is longer than the file system allows. -/
def nameTooLong (file : Text) : SystemError :=
  .numbered 36 "File name too long" (some file)

example : (noSuchFile "x.b").message = "[Errno 2] No such file or directory: 'x.b'" := by
  decide +kernel

end SystemError

end TapeMachine

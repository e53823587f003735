import TapeMachine.Text.DecimalDigit
import TapeMachine.Text.Quoted

/-!
# Options

The command line takes a verbosity, which can be repeated, one of two options that name a file,
and one argument that names a source file. Long options can be cut short where only one begins so,
and can be given their value behind an equals sign; short ones can be bundled. After a double dash
everything is an argument.

Words are sorted first, all of them, and only then read from left to right, so an ambiguous word
is reported before anything else is.

Results:
1. `bundle_verbosity`: a bundle of letters `v` counts each of them.
-/

namespace TapeMachine.CommandLine

/-- What an option asks for. -/
inductive Flag
  | help
  | verbose
  | emit
  | stored
deriving DecidableEq, Repr

namespace Flag

/-- The spellings of all options. -/
def spellings : List (String × Flag) :=
  [("-h", .help), ("--help", .help), ("-v", .verbose), ("--emit-program", .emit),
    ("--program", .stored)]

/-- The option with exactly this spelling. -/
def ofSpelling? (s : Text) : Option Flag :=
  (spellings.find? fun (spelling, _) => Text.ofString spelling = s).map Prod.snd

/-- How messages call the option. -/
def name : Flag → String
  | .help => "-h/--help"
  | .verbose => "-v"
  | .emit => "--emit-program"
  | .stored => "--program"

/-- Whether the option is followed by a value. -/
def takesValue : Flag → Bool
  | .help => false
  | .verbose => false
  | .emit => true
  | .stored => true

end Flag

/-- What is wrong with a command line. -/
inductive UsageError
  /-- A word that begins several options. -/
  | ambiguous (word : Text) (candidates : List Text)
  /-- A value for an option that takes none. -/
  | ignoredValue (flag : Flag) (value : Text)
  /-- No value for an option that takes one. -/
  | missingValue (flag : Flag)
  /-- Two options that exclude each other. -/
  | conflict (flag other : Flag)
  /-- Words that nothing asks for. -/
  | unrecognized (words : List Text)
  /-- Nothing to do. -/
  | missingSource
deriving DecidableEq, Repr

/-- The message of a usage error. -/
def UsageError.message : UsageError → Text
  | .ambiguous word candidates =>
    "ambiguous option: " ++ word ++ " could match " ++
      List.intercalate (Text.ofString ", ") candidates
  | .ignoredValue flag value =>
    "argument " ++ flag.name ++ ": ignored explicit argument " ++ Quoted.quote value
  | .missingValue flag => "argument " ++ flag.name ++ ": expected one argument"
  | .conflict flag other =>
    "argument " ++ flag.name ++ ": not allowed with argument " ++ other.name
  | .unrecognized words => "unrecognized arguments: " ++ List.intercalate (Text.ofString " ") words
  | .missingSource => "missing program file; please specify the path to your program"

/-! ## Sorting the words -/

/-- A word of the command line. -/
inductive Word
  /-- An argument, which may also be the value of an option. -/
  | argument (text : Text)
  /-- An option, as it is spelled in full, with the value that the word gives it. -/
  | option (flag : Flag) (spelling : Text) (value? : Option Text)
  /-- Something that looks like an option. -/
  | unknown (text : Text)
  /-- The double dash after which all words are arguments. -/
  | separator
deriving DecidableEq, Repr

/-- The part of a word before the first equals sign, and the part after it if there is one. -/
def splitAtEquals (word : Text) : Text × Option Text :=
  (word.takeWhile (· ≠ .char '='), (word.dropWhile (· ≠ .char '=')).tail?)

/-- Whether a text begins with another. -/
def beginsWith (text start : Text) : Bool :=
  start.isPrefixOf text

/-- Whether a word begins with a dash. -/
def isDashed (word : Text) : Bool :=
  beginsWith word "-"

/-- Whether a word begins with two dashes. -/
def isDoubleDashed (word : Text) : Bool :=
  beginsWith word "--"

/-- The options that a word can stand for: those it begins, up to an equals sign if it has two
dashes; and if it has one dash, a short option with the rest of the word as its value. -/
def candidates (word : Text) : List (Text × Flag × Option Text) :=
  let spellings := Flag.spellings.map fun (spelling, flag) => (Text.ofString spelling, flag)
  if isDoubleDashed word then
    let (start, value?) := splitAtEquals word
    spellings.filterMap fun (spelling, flag) =>
      if beginsWith spelling start then some (spelling, flag, value?) else none
  else
    spellings.filterMap fun (spelling, flag) =>
      if spelling = word.take 2 then some (spelling, flag, some (word.drop 2))
      else if beginsWith spelling word then some (spelling, flag, none)
      else none

/-- Whether a word is a negative number: digits after a dash, perhaps with a point before some of
them, and perhaps a line end at the end. -/
def isNegativeNumber (word : Text) : Bool :=
  match word with
  | .char '-' :: rest =>
    let number := if rest.getLast? = some (.char '\n') then rest.dropLast else rest
    match number.dropWhile isDecimalDigit with
    | [] => !number.isEmpty
    | .char '.' :: fraction => !fraction.isEmpty && fraction.all isDecimalDigit
    | _ => false
  | _ => false

/-- Sorts a word that stands before any double dash and is not one. -/
def sort (word : Text) : Except UsageError Word :=
  if !isDashed word then .ok (.argument word)
  else
    match Flag.ofSpelling? word with
    | some flag => .ok (.option flag word none)
    | none =>
      let (spelling, value?) := splitAtEquals word
      match Flag.ofSpelling? spelling, value? with
      | some flag, some value => .ok (.option flag spelling (some value))
      | _, _ =>
        if word = Text.ofString "-" then .ok (.argument word)
        else
          match candidates word with
          | [(spelling, flag, value?)] => .ok (.option flag spelling value?)
          | [] =>
            if isNegativeNumber word || word.contains (.char ' ') then .ok (.argument word)
            else .ok (.unknown word)
          | several => .error (.ambiguous word (several.map Prod.fst))

/-- Sorts the words of a command line. -/
def sortAll : List Text → Except UsageError (List Word)
  | [] => .ok []
  | word :: words =>
    if word = Text.ofString "--" then .ok (.separator :: words.map .argument)
    else do
      let first ← sort word
      let rest ← sortAll words
      return first :: rest

/-! ## Reading the words -/

/-- The options that a short option and the letters behind it stand for. Every letter has to be an
option that takes no value. -/
def bundle (flag : Flag) : Text → Except UsageError (List Flag)
  | [] => .ok [flag]
  | letter :: rest =>
    match Flag.ofSpelling? [.char '-', letter] with
    | some next => (bundle next rest).map (flag :: ·)
    | none => .error (.ignoredValue flag (letter :: rest))

/-- What has been read of a command line. A source is taken once, even if it is left out by a
double dash with nothing behind it. -/
structure Options where
  verbosity : Nat
  emit? : Option Text
  stored? : Option Text
  source? : Option Text
  sourceTaken : Bool
  leftOver : List Text
deriving DecidableEq, Repr

namespace Options

/-- Before the first word. -/
def initial : Options := ⟨0, none, none, none, false, []⟩

/-- Takes a word that nothing asks for. -/
def leave (o : Options) (word : Text) : Options :=
  { o with leftOver := o.leftOver ++ [word] }

/-- Takes an option with its value. The two options that name a file exclude each other, and of
two values for the same option the later one counts. -/
def name (o : Options) (flag : Flag) (value : Text) : Except UsageError Options :=
  match flag with
  | .emit =>
    if o.stored?.isSome then .error (.conflict .emit .stored)
    else .ok { o with emit? := some value }
  | .stored =>
    if o.emit?.isSome then .error (.conflict .stored .emit)
    else .ok { o with stored? := some value }
  | _ => .ok o

end Options

/-- How reading a command line ends. -/
inductive Reading
  /-- Help was asked for, and everything before it was in order. -/
  | help
  | options (o : Options)
deriving DecidableEq, Repr

/-- Takes options without values one after the other; help ends the reading. -/
def takeFlags (o : Options) : List Flag → Reading
  | [] => .options o
  | .help :: _ => .help
  | _ :: flags => takeFlags { o with verbosity := o.verbosity + 1 } flags

/-- Takes an option without a value, or a bundle of them. -/
def takeFlag (o : Options) (flag : Flag) (spelling : Text) :
    Option Text → Except UsageError Reading
  | none => .ok (takeFlags o [flag])
  | some value =>
    if isDoubleDashed spelling || value.isEmpty then .error (.ignoredValue flag value)
    else (bundle flag value).map (takeFlags o)

/-- Reads the words from left to right. -/
def readWords (o : Options) : List Word → Except UsageError Reading
  | [] => .ok (.options o)
  | .unknown text :: words => readWords (o.leave text) words
  | .argument text :: words =>
    if o.sourceTaken then readWords (o.leave text) words
    else
      let o := { o with source? := some text, sourceTaken := true }
      match words with
      | .separator :: words => readWords o words
      | words => readWords o words
  | .separator :: words =>
    if o.sourceTaken then readWords (o.leave "--") words
    else
      match words with
      | .argument text :: words =>
        readWords { o with source? := some text, sourceTaken := true } words
      | words => readWords { o with sourceTaken := true } words
  | .option flag spelling value? :: words =>
    if flag.takesValue then
      match value?, words with
      | some value, words => do
        let o ← o.name flag (if value = Text.ofString "--" then [] else value)
        readWords o words
      | none, .argument text :: words => do
        let o ← o.name flag text
        readWords o words
      | none, _ => .error (.missingValue flag)
    else do
      match ← takeFlag o flag spelling value? with
      | .help => return .help
      | .options o => readWords o words

/-! ## Requests -/

/-- What a command line asks for. -/
inductive Request
  /-- Show the help. -/
  | help
  /-- Say what is wrong with the command line. -/
  | usage (error : UsageError)
  /-- Store the program of a source file beside it. -/
  | emit (path : Text)
  /-- Execute a stored program, logging at a level of detail. -/
  | executeStored (path : Text) (verbosity : Nat)
  /-- Execute the program of a source file, logging at a level of detail. -/
  | executeSource (path : Text) (verbosity : Nat)
deriving DecidableEq, Repr

/-- A name that was given and is not empty. -/
def given? (name? : Option Text) : Option Text :=
  name?.filter (· ≠ [])

/-- What the options ask for, once all words are read. Storing comes before executing, and a stored
program before a source file. -/
def Options.request (o : Options) : Request :=
  if !o.leftOver.isEmpty then .usage (.unrecognized o.leftOver)
  else
    match given? o.emit?, given? o.stored?, given? o.source? with
    | some path, _, _ => .emit path
    | _, some path, _ => .executeStored path o.verbosity
    | _, _, some path => .executeSource path o.verbosity
    | _, _, _ => .usage .missingSource

/-- What a command line asks for. -/
def request (words : List Text) : Request :=
  match sortAll words >>= readWords .initial with
  | .error error => .usage error
  | .ok .help => .help
  | .ok (.options o) => o.request

theorem bundle_verbosity (count : Nat) :
    bundle .verbose (List.replicate count (.char 'v')) =
      .ok (List.replicate (count + 1) .verbose) := by
  induction count with
  | zero => rfl
  | succ count ih =>
    have letter : Flag.ofSpelling? [.char '-', .char 'v'] = some .verbose := by decide +kernel
    rw [List.replicate_succ, bundle, letter]
    simp [ih, Except.map, List.replicate_succ]

end TapeMachine.CommandLine

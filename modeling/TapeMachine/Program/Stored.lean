import TapeMachine.Json.Printer
import TapeMachine.Json.Reader
import TapeMachine.Json.Shown
import TapeMachine.Program.Source

/-!
# Stored programs

A program is stored as a JSON object that says what it is and lists the names of the instructions
in order. Other members are ignored, and an object that lists nothing is the empty program.

Results:
1. `entryInstruction_eq_ok_iff`: an entry names an instruction exactly if it is the string of its
   name, and `entryInstructions_eq_ok_iff` says so of whole lists.
2. `ofJson_toJson`: the stored form of a program is read as that program.
-/

namespace TapeMachine.Program

/-- Why a JSON value is not a stored program. -/
inductive Rejection
  /-- It is not an object, or does not say that it is a program. -/
  | notProgram
  /-- What stands in the place of the names is not a list. -/
  | namesNotList
  /-- An entry of the list is not a string. -/
  | nameNotString (entry : Json)
  /-- A string of the list names no instruction. -/
  | unknownName (name : Text)

/-- The message of a rejection, which shows the entry at fault. -/
def Rejection.message : Rejection → String
  | .notProgram => "Expected a serialized Program object"
  | .namesNotList => "Program instructions must be a list"
  | .nameNotString entry => "Instruction name must be a string: " ++ entry.shown
  | .unknownName name => "Unknown instruction: " ++ Quoted.quote name

/-- The stored form of a program. -/
def toJson (p : Program) : Json :=
  .object [(.ofString "__type__", .ofString "Program"),
    (.ofString "instructions", .array (p.names.map .ofString))]

/-- The instruction that an entry of the list names. -/
def entryInstruction : Json → Except Rejection Instruction
  | .string name =>
    match (Text.toString? name).bind Instruction.ofName? with
    | some i => .ok i
    | none => .error (.unknownName name)
  | entry => .error (.nameNotString entry)

/-- The instructions that a list names, after some that were read, latest first. The first entry
that names none is reported. -/
def entryInstructions (read : List Instruction) : List Json → Except Rejection (List Instruction)
  | [] => .ok read.reverse
  | entry :: entries =>
    match entryInstruction entry with
    | .ok i => entryInstructions (i :: read) entries
    | .error rejection => .error rejection

/-- Whether a value says that it is a program. -/
def isMarked (value : Json) : Bool :=
  match value.member? "__type__" with
  | some (.string mark) => mark = .ofString "Program"
  | _ => false

/-- The program that a JSON value stores. -/
def ofJson (value : Json) : Except Rejection Program :=
  if isMarked value then
    match value.member? "instructions" with
    | none => .ok (ofList [])
    | some (.array entries) => (entryInstructions [] entries).map ofList
    | some _ => .error .namesNotList
  else .error .notProgram

/-! ## Stored programs as text and as bytes -/

/-- Why a file holds no stored program. -/
inductive LoadError
  | undecodable (refusal : Utf8.Refusal)
  | unreadable (error : Json.ReadError)
  | rejected (rejection : Rejection)

/-- The message of a load error. -/
def LoadError.message : LoadError → String
  | .undecodable refusal => refusal.message
  | .unreadable error => error.message
  | .rejected rejection => rejection.message

/-- The program stored in a text. -/
def ofJsonText (text : Text) : Except LoadError Program :=
  match Json.read text with
  | .error error => .error (.unreadable error)
  | .ok value => (ofJson value).mapError .rejected

/-- The program stored in a file, whose bytes have to be well formed. -/
def ofJsonBytes (content : List UInt8) : Except LoadError Program :=
  match Utf8.decode content with
  | .error refusal => .error (.undecodable refusal)
  | .ok text => ofJsonText (.ofChars (Newline.unify text))

/-- The content of the file in which a program is stored. -/
def toJsonBytes (p : Program) : List UInt8 :=
  Utf8.encodeString p.toJson.pretty

/-! ## The stored form and its reader -/

@[simp] theorem entryInstruction_name (i : Instruction) :
    entryInstruction (.ofString i.name) = .ok i := by
  simp [entryInstruction, Json.ofString]

theorem entryInstruction_eq_ok_iff {entry : Json} {i : Instruction} :
    entryInstruction entry = .ok i ↔ entry = .ofString i.name := by
  constructor
  · intro found
    unfold entryInstruction at found
    split at found
    · next name =>
      split at found
      · next j named =>
        cases found
        obtain ⟨s, spelled, named⟩ := Option.bind_eq_some_iff.mp named
        rw [Instruction.ofName?_eq_some_iff] at named
        rw [Text.toString?_eq_some_iff] at spelled
        simp [Json.ofString, spelled, named]
      · cases found
    · cases found
  · rintro rfl
    exact entryInstruction_name i

theorem entryInstructions_eq_ok_iff {read found : List Instruction} {entries : List Json} :
    entryInstructions read entries = .ok found ↔
      ∃ rest, found = read.reverse ++ rest ∧
        entries = rest.map fun i => .ofString i.name := by
  induction entries generalizing read with
  | nil =>
    simp only [entryInstructions, Except.ok.injEq, eq_comm (a := []), List.map_eq_nil_iff]
    constructor
    · rintro rfl
      exact ⟨[], by simp⟩
    · rintro ⟨rest, rfl, rfl⟩
      simp
  | cons entry entries ih =>
    rw [entryInstructions]
    split
    · next i named =>
      rw [entryInstruction_eq_ok_iff] at named
      subst named
      rw [ih]
      constructor
      · rintro ⟨rest, rfl, rfl⟩
        exact ⟨i :: rest, by simp⟩
      · rintro ⟨rest, rfl, same⟩
        cases rest with
        | nil => simp at same
        | cons j rest =>
          simp only [List.map_cons, List.cons.injEq] at same
          have named := entryInstruction_name j
          rw [← same.1, entryInstruction_name] at named
          cases named
          exact ⟨rest, by simp, same.2⟩
    · next rejection refused =>
      constructor
      · intro found
        cases found
      · rintro ⟨rest, rfl, same⟩
        cases rest with
        | nil => simp at same
        | cons j rest =>
          simp only [List.map_cons, List.cons.injEq] at same
          rw [same.1, entryInstruction_name] at refused
          cases refused

@[simp] theorem ofJson_toJson (p : Program) : ofJson p.toJson = .ok p := by
  have entries : entryInstructions [] (p.names.map .ofString) = .ok p.toList :=
    entryInstructions_eq_ok_iff.mpr ⟨p.toList, by simp, by simp [names]⟩
  have marked : isMarked p.toJson = true := by
    simp [isMarked, toJson, Json.member?, Json.Members.lookup, Json.ofString]
  have listed : p.toJson.member? "instructions" = some (.array (p.names.map .ofString)) := by
    have differs : Text.ofString "__type__" ≠ Text.ofString "instructions" := by
      intro same
      have := Text.ofString_injective same
      simp at this
    simp [toJson, Json.member?, Json.Members.lookup, differs]
  simp [ofJson, marked, listed, entries, Except.map]

end TapeMachine.Program

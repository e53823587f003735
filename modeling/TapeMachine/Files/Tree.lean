import TapeMachine.Files.Standard

/-!
# File trees

What a program can see of the file system is the tree below the working directory, which lies in
the directory for temporary files, and the standard files around it. A file name is followed
name by name, so the same file can be reached by several names, and each way in which that can
fail is told apart.

A file can also be written outside of the working directory. It is kept by its names from the
root, unless something of the system stands there already.

Results:
1. `find?_put_self`, `find?_put_other`: writing a file changes that file only.
2. `find?_put_elsewhere`: outside of the working directory that needs a place that is free.
-/

namespace TapeMachine

/-- A place in the file system. -/
inductive FilePlace
  /-- Below the working directory, which is the place without names. -/
  | inside (names : List FileName)
  /-- Below the root of the file system, which is the place without names. -/
  | fromRoot (names : List FileName)
deriving DecidableEq, Repr

/-- The files and directories below the working directory, by their names from there, and the
files written elsewhere, by their names from the root. -/
structure FileTree where
  entries : List (List FileName × FileEntry)
  elsewhere : List (List FileName × FileEntry)
deriving DecidableEq, Repr

/-- Why a file cannot be opened. -/
inductive OpenError
  | system (error : SystemError)
  /-- A file name cannot hold the character with number zero. -/
  | nullByte
  /-- The name has surrogates that stand for no byte. -/
  | unencodable (refusal : Utf8.EncodeRefusal)
deriving DecidableEq, Repr

/-- What is said about a file that cannot be opened. -/
def OpenError.message : OpenError → Text
  | .system error => error.message
  | .nullByte => "embedded null byte"
  | .unencodable refusal => refusal.message

namespace FilePlace

/-- The directory above a place. The root has none above it. -/
def parent : FilePlace → FilePlace
  | .inside [] => .fromRoot Standard.temporary
  | .inside names => .inside names.dropLast
  | .fromRoot names => .fromRoot names.dropLast

/-- The place of a name in a directory. -/
def child : FilePlace → FileName → FilePlace
  | .inside names, name => .inside (names ++ [name])
  | .fromRoot names, name =>
    if names ++ [name] = Standard.workingDirectory then .inside []
    else .fromRoot (Standard.settle (names ++ [name]))

end FilePlace

namespace FileTree

/-- A working directory without files. -/
def empty : FileTree := ⟨[], []⟩

/-- What is found at some names from the working directory. How many names there are is compared
first, because deep directories have many names in common. -/
def lookup : List (List FileName × FileEntry) → List FileName → Option FileEntry
  | [], _ => none
  | (key, entry) :: rest, names =>
    if key.length = names.length ∧ key = names then some entry else lookup rest names

/-- What is found at a place. -/
def find? (t : FileTree) : FilePlace → Option FileEntry
  | .inside [] => some .directory
  | .inside names => lookup t.entries names
  | .fromRoot names => (Standard.find? names).or (lookup t.elsewhere names)

/-- Puts an entry at some names, in place of what is there. -/
def assign (entries : List (List FileName × FileEntry)) (names : List FileName)
    (entry : FileEntry) : List (List FileName × FileEntry) :=
  match entries with
  | [] => [(names, entry)]
  | (key, old) :: rest =>
    if key = names then (key, entry) :: rest else (key, old) :: assign rest names entry

/-- Puts an entry at some names, and directories at all places above that hold nothing. -/
def add (t : FileTree) (names : List FileName) (entry : FileEntry) : FileTree :=
  let above := (List.range names.length).map names.take
  let missing := above.filter fun names => (t.find? (.inside names)).isNone
  { t with entries := assign (t.entries ++ missing.map (·, .directory)) names entry }

/-- Writes a file. What is written to something of the system leaves no trace. -/
def put (t : FileTree) (place : FilePlace) (content : List UInt8) : FileTree :=
  match place with
  | .inside names => { t with entries := assign t.entries names (.file content) }
  | .fromRoot names =>
    if (Standard.find? names).isSome then t
    else { t with elsewhere := assign t.elsewhere names (.file content) }

/-- The files that are new or have changed since an earlier state, with their contents. -/
def changesSince (before after : FileTree) : List (List FileName × List UInt8) :=
  after.entries.filterMap fun (names, entry) =>
    match entry with
    | .file content =>
      if before.find? (.inside names) = some (.file content) then none else some (names, content)
    | _ => none

/-! ## Opening -/

/-- The greatest number of bytes in one name. -/
def maxNameSize : Nat := 255

/-- The number of bytes from which on a path is too long. -/
def maxPathSize : Nat := 4096

/-- Follows a name from a place, which has to be a directory. -/
def follow (t : FileTree) (file : Text) (place : FilePlace) (name : FileName) :
    Except SystemError FilePlace :=
  match t.find? place with
  | none => .error (.noSuchFile file)
  | some .directory =>
    if name = FileName.self then .ok place
    else if name = FileName.up then .ok place.parent
    else if maxNameSize < name.length then .error (.nameTooLong file)
    else .ok (place.child name)
  | some _ => .error (.notADirectory file)

/-- The bytes of a file name, which must not be zero. -/
def bytesOf (file : Text) : Except OpenError (List UInt8) :=
  match Utf8.encodeFileName file with
  | .error refusal => .error (.unencodable refusal)
  | .ok bytes => if bytes.contains 0 then .error .nullByte else .ok bytes

/-- The place from which a path is followed. -/
def startOf (path : List UInt8) : FilePlace :=
  if path.head? = some FileName.slash then .fromRoot [] else .inside []

/-- Whether a path ends in a slash, which asks for a directory. -/
def asksForDirectory (path : List UInt8) : Bool :=
  path.getLast? = some FileName.slash

/-- Follows some names of a path one after the other. -/
def locate (t : FileTree) (file : Text) (path : List UInt8) (names : List FileName) :
    Except SystemError FilePlace :=
  if path.isEmpty then .error (.noSuchFile file)
  else if maxPathSize ≤ path.length then .error (.nameTooLong file)
  else names.foldlM (t.follow file) (startOf path)

/-- The content of the entry at a place, when it is opened for reading. -/
def contentAt (t : FileTree) (file : Text) (place : FilePlace) :
    Except SystemError (List UInt8) :=
  match t.find? place with
  | none => .error (.noSuchFile file)
  | some .directory => .error (.isADirectory file)
  | some (.file content) => .ok content
  | some (.foreign none _) => .ok []
  | some (.foreign (some error) _) => .error error
  | some .absentDevice => .error (.noSuchDevice file)

/-- The content of a file that is opened for reading. -/
def read (t : FileTree) (file : Text) : Except OpenError (List UInt8) := do
  let path ← bytesOf file
  let names := namesBetween FileName.slash path
  let names := if asksForDirectory path then names ++ [FileName.self] else names
  (t.locate file path names >>= t.contentAt file).mapError .system

/-- The place, in a directory that is there, of a file that is opened for writing. It may be new
where new files can be made, but it cannot be a directory. -/
def placeForWriting (t : FileTree) (file : Text) (place : FilePlace) :
    Except SystemError FilePlace :=
  match place, t.find? place with
  | _, some .directory => .error (.isADirectory file)
  | _, some .absentDevice => .error (.noSuchDevice file)
  | .fromRoot names, none =>
    match Standard.creationError? names file with
    | some error => .error error
    | none => .ok place
  | _, _ => .ok place

/-- The place of a file that is opened for writing. A path that ends in a slash is never that of a
file; only the directory of its last name has to be there for that to be said. -/
def locateForWriting (t : FileTree) (file : Text) : Except OpenError FilePlace := do
  let path ← bytesOf file
  let names := namesBetween FileName.slash path
  (if asksForDirectory path then do
      let place ← t.locate file path names.dropLast
      let _ ← t.follow file place FileName.self
      throw (.isADirectory file)
    else t.locate file path names >>= t.placeForWriting file).mapError .system

/-- The error with which writing to a place fails that was opened for it, if it does. -/
def writeError? (t : FileTree) (place : FilePlace) : Option SystemError :=
  match t.find? place with
  | some (.foreign _ error?) => error?
  | _ => none

/-! ## Writing changes one file -/

theorem lookup_cons (key : List FileName) (entry : FileEntry)
    (rest : List (List FileName × FileEntry)) (names : List FileName) :
    lookup ((key, entry) :: rest) names =
      if key = names then some entry else lookup rest names := by
  by_cases same : key = names
  · simp [lookup, same]
  · simp [lookup, same]

theorem lookup_assign (entries : List (List FileName × FileEntry)) (names : List FileName)
    (entry : FileEntry) (other : List FileName) :
    lookup (assign entries names entry) other =
      if other = names then some entry else lookup entries other := by
  induction entries with
  | nil => simp [assign, lookup_cons, lookup, eq_comm]
  | cons first rest ih =>
    obtain ⟨key, old⟩ := first
    by_cases same : key = names
    · subst same
      by_cases found : other = key
      · simp [assign, lookup_cons, found]
      · simp [assign, lookup_cons, found, Ne.symm found]
    · by_cases found : key = other
      · subst found
        simp [assign, lookup_cons, same]
      · simp [assign, lookup_cons, same, found, ih]

theorem find?_put_self (t : FileTree) {names : List FileName} (below : names ≠ [])
    (content : List UInt8) :
    (t.put (.inside names) content).find? (.inside names) = some (.file content) := by
  cases names with
  | nil => exact absurd rfl below
  | cons name names => simp [put, find?, lookup_assign]

theorem find?_put_elsewhere (t : FileTree) {names : List FileName}
    (free : Standard.find? names = none) (content : List UInt8) :
    (t.put (.fromRoot names) content).find? (.fromRoot names) = some (.file content) := by
  simp [put, find?, free, lookup_assign]

theorem find?_put_other (t : FileTree) {place other : FilePlace} (differs : other ≠ place)
    (content : List UInt8) : (t.put place content).find? other = t.find? other := by
  cases place with
  | inside names =>
    cases other with
    | inside others =>
      cases others with
      | nil => rfl
      | cons name others =>
        have apart : name :: others ≠ names := fun same => differs (congrArg _ same)
        simp [put, find?, lookup_assign, apart]
    | fromRoot others => rfl
  | fromRoot names =>
    rw [put]
    split
    · rfl
    · cases other with
      | inside others => cases others <;> rfl
      | fromRoot others =>
        have apart : others ≠ names := fun same => differs (congrArg _ same)
        simp [find?, lookup_assign, apart]

end FileTree

end TapeMachine

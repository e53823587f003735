import TapeMachine.Files.Tree

/-!
# Opening a file

A file is opened by following its names from the place where its path starts, through directories.
Which error is reported depends on how the file was called, but the place that is reached does not.

Results:
1. `leads_iff`: names lead to a place whatever the file is called.
2. `read_eq_ok_iff`: a file is read at the place to which its names lead.
3. `locateForWriting_eq_ok_iff`: that place is also the one at which it is written.
4. `Leads.put`: writing a file does not change where names lead that led past it.
5. `locateForWriting_put`, `writeError?_put`: a file that was written can be written again.
6. `read_put`: a file that was written is read back.
-/

namespace TapeMachine.FileTree

/-- Names lead from one place to another, through directories. -/
inductive Leads (t : FileTree) : List FileName → FilePlace → FilePlace → Prop
  | here (place : FilePlace) : Leads t [] place place
  | step {place next last : FilePlace} {name : FileName} {names : List FileName} :
      (∀ file, t.follow file place name = .ok next) → Leads t names next last →
      Leads t (name :: names) place last

theorem follow_eq_ok {t : FileTree} {file : Text} {place next : FilePlace} {name : FileName}
    (followed : t.follow file place name = .ok next) :
    t.find? place = some .directory ∧
      (name = FileName.self ∧ next = place ∨ name = FileName.up ∧ next = place.parent ∨
        (name ≠ FileName.self ∧ name ≠ FileName.up ∧ name.length ≤ maxNameSize) ∧
          next = place.child name) := by
  unfold follow at followed
  split at followed
  · cases followed
  · next directory =>
    refine ⟨directory, ?_⟩
    split at followed
    · next self =>
      cases followed
      exact .inl ⟨self, rfl⟩
    · next notSelf =>
      split at followed
      · next up =>
        cases followed
        exact .inr (.inl ⟨up, rfl⟩)
      · next notUp =>
        split at followed
        · cases followed
        · next short =>
          cases followed
          exact .inr (.inr ⟨⟨notSelf, notUp, Nat.le_of_not_lt short⟩, rfl⟩)
  · cases followed

/-- Where a name leads from a directory depends on nothing but the two. -/
theorem follow_of_directory {t u : FileTree} {file : Text} {place next : FilePlace}
    {name : FileName} (followed : t.follow file place name = .ok next)
    (directory : u.find? place = some .directory) (other : Text) :
    u.follow other place name = .ok next := by
  obtain ⟨_, led⟩ := follow_eq_ok followed
  have differs : FileName.up ≠ FileName.self := by decide +kernel
  unfold follow
  rw [directory]
  rcases led with ⟨rfl, rfl⟩ | ⟨rfl, rfl⟩ | ⟨⟨notSelf, notUp, short⟩, rfl⟩
  · rw [if_pos rfl]
  · rw [if_neg differs, if_pos rfl]
  · rw [if_neg notSelf, if_neg notUp, if_neg (Nat.not_lt.mpr short)]

theorem leads_iff {t : FileTree} {file : Text} {names : List FileName} {place last : FilePlace} :
    names.foldlM (t.follow file) place = .ok last ↔ t.Leads names place last := by
  induction names generalizing place with
  | nil =>
    constructor
    · intro same
      cases same
      exact .here _
    · rintro ⟨⟩
      rfl
  | cons name names ih =>
    rw [List.foldlM_cons]
    constructor
    · intro led
      cases followed : t.follow file place name with
      | error error =>
        rw [followed] at led
        cases led
      | ok next =>
        rw [followed] at led
        have directory := (follow_eq_ok followed).1
        exact .step (follow_of_directory followed directory) (ih.mp led)
    · rintro (_ | ⟨followed, rest⟩)
      rw [followed file]
      exact ih.mpr rest

theorem Leads.append {t : FileTree} {front : List FileName} {place last : FilePlace}
    {name : FileName} (led : t.Leads (front ++ [name]) place last) :
    ∃ directory, t.Leads front place directory ∧ t.Leads [name] directory last := by
  induction front generalizing place with
  | nil => exact ⟨place, .here place, led⟩
  | cons first front ih =>
    obtain _ | ⟨followed, rest⟩ := led
    obtain ⟨middle, start, finish⟩ := ih rest
    exact ⟨middle, .step followed start, finish⟩

theorem Leads.unique {t : FileTree} {names : List FileName} {place last other : FilePlace}
    (first : t.Leads names place last) (second : t.Leads names place other) : last = other := by
  induction first with
  | here place =>
    cases second
    rfl
  | step followed _ ih =>
    obtain _ | ⟨again, rest⟩ := second
    have same := (followed []).symm.trans (again [])
    cases same
    exact ih rest

/-! ## Reading and writing -/

/-- A name of a file: it can be used, it does not ask for a directory, and its names lead to a
place. -/
structure Opens (t : FileTree) (file : Text) (path : List UInt8) (place : FilePlace) : Prop where
  named : bytesOf file = .ok path
  full : path ≠ []
  short : path.length < maxPathSize
  proper : asksForDirectory path = false
  leads : t.Leads (namesBetween FileName.slash path) (startOf path) place

theorem locate_eq_ok {t : FileTree} {file : Text} {path : List UInt8} {names : List FileName}
    {place : FilePlace} : t.locate file path names = .ok place ↔
      (path ≠ [] ∧ path.length < maxPathSize) ∧ t.Leads names (startOf path) place := by
  unfold locate
  by_cases none : path = []
  · simp [none]
  · by_cases long : maxPathSize ≤ path.length
    · simp [none, long, Nat.not_lt.mpr long]
    · simp [none, long, Nat.lt_of_not_le long, leads_iff]

theorem not_directory_of_contentAt {t : FileTree} {file : Text} {place : FilePlace}
    {content : List UInt8} (read : t.contentAt file place = .ok content) :
    t.find? place ≠ some .directory := by
  intro directory
  rw [contentAt, directory] at read
  cases read

theorem mapError_eq_ok {α β γ : Type} {f : α → β} {x : Except α γ} {c : γ} :
    x.mapError f = .ok c ↔ x = .ok c := by
  cases x with
  | error e =>
    constructor
    · intro same
      cases same
    · intro same
      cases same
  | ok b =>
    constructor
    · intro same
      cases same
      rfl
    · intro same
      cases same
      rfl

theorem bind_eq_ok {α β γ : Type} {x : Except α β} {f : β → Except α γ} {c : γ} :
    (x >>= f) = .ok c ↔ ∃ b, x = .ok b ∧ f b = .ok c := by
  cases x <;> simp [bind, Except.bind]

theorem Leads.directory_of_self {t : FileTree} {place last : FilePlace}
    (led : t.Leads [FileName.self] place last) : t.find? last = some .directory := by
  have differs : FileName.self ≠ FileName.up := by decide +kernel
  obtain _ | ⟨followed, rest⟩ := led
  obtain ⟨directory, led⟩ := follow_eq_ok (followed [])
  cases rest
  rcases led with ⟨_, rfl⟩ | ⟨same, _⟩ | ⟨⟨notSelf, _⟩, _⟩
  · exact directory
  · exact absurd same differs
  · exact absurd rfl notSelf

/-- A file is read at the place to which its names lead. -/
theorem read_eq_ok_iff {t : FileTree} {file : Text} {content : List UInt8} :
    t.read file = .ok content ↔
      ∃ path place, t.Opens file path place ∧ t.contentAt file place = .ok content := by
  rw [read, bind_eq_ok]
  constructor
  · rintro ⟨path, named, read⟩
    rw [mapError_eq_ok, bind_eq_ok] at read
    obtain ⟨place, located, read⟩ := read
    obtain ⟨⟨full, short⟩, leads⟩ := locate_eq_ok.mp located
    -- A slash at the end asks for a directory, and a directory cannot be read.
    have proper : asksForDirectory path = false := by
      rw [← Bool.not_eq_true]
      intro asks
      rw [if_pos asks] at leads
      obtain ⟨_, _, self⟩ := leads.append
      exact not_directory_of_contentAt read self.directory_of_self
    rw [proper] at leads
    exact ⟨path, place, ⟨named, full, short, proper, leads⟩, read⟩
  · rintro ⟨path, place, ⟨named, full, short, proper, leads⟩, read⟩
    refine ⟨path, named, ?_⟩
    rw [mapError_eq_ok, bind_eq_ok, proper]
    exact ⟨place, locate_eq_ok.mpr ⟨⟨full, short⟩, leads⟩, read⟩

theorem placeForWriting_eq_ok {t : FileTree} {file : Text} {reached place : FilePlace}
    (kept : t.placeForWriting file reached = .ok place) :
    reached = place ∧ t.find? reached ≠ some .directory := by
  unfold placeForWriting at kept
  split at kept
  · cases kept
  · cases kept
  · next names none =>
    split at kept
    · cases kept
    · cases kept
      exact ⟨rfl, by rw [none]; decide⟩
  · next notDirectory _ _ =>
    cases kept
    exact ⟨rfl, notDirectory⟩

/-- A file is opened for writing at the place to which its names lead, if it can be written there. -/
theorem locateForWriting_eq_ok_iff {t : FileTree} {file : Text} {place : FilePlace} :
    t.locateForWriting file = .ok place ↔
      (∃ path, t.Opens file path place) ∧ t.placeForWriting file place = .ok place := by
  rw [locateForWriting, bind_eq_ok]
  constructor
  · rintro ⟨path, named, located⟩
    rw [mapError_eq_ok] at located
    have proper : asksForDirectory path = false := by
      rw [← Bool.not_eq_true]
      intro asks
      rw [if_pos asks, bind_eq_ok] at located
      obtain ⟨_, _, located⟩ := located
      rw [bind_eq_ok] at located
      obtain ⟨_, _, thrown⟩ := located
      cases thrown
    rw [proper, if_neg (by decide), bind_eq_ok] at located
    obtain ⟨reached, led, kept⟩ := located
    obtain ⟨⟨full, short⟩, leads⟩ := locate_eq_ok.mp led
    obtain ⟨rfl, _⟩ := placeForWriting_eq_ok kept
    exact ⟨⟨path, named, full, short, proper, leads⟩, kept⟩
  · rintro ⟨⟨path, named, full, short, proper, leads⟩, kept⟩
    refine ⟨path, named, ?_⟩
    rw [mapError_eq_ok, proper, if_neg (by decide), bind_eq_ok]
    exact ⟨place, locate_eq_ok.mpr ⟨⟨full, short⟩, leads⟩, kept⟩

/-- The place at which a file is written is not that of a directory. -/
theorem opens_of_locateForWriting {t : FileTree} {file : Text} {place : FilePlace}
    (located : t.locateForWriting file = .ok place) :
    (∃ path, t.Opens file path place) ∧ t.find? place ≠ some .directory := by
  obtain ⟨opens, kept⟩ := locateForWriting_eq_ok_iff.mp located
  exact ⟨opens, (placeForWriting_eq_ok kept).2⟩

/-- If a file can have this name, it is for a reason of the system that it cannot be opened. -/
theorem system_of_locateForWriting {t : FileTree} {file : Text} {path : List UInt8}
    {error : OpenError} (named : bytesOf file = .ok path)
    (refused : t.locateForWriting file = .error error) : ∃ cause, error = .system cause := by
  rw [locateForWriting, named] at refused
  simp only [bind, Except.bind] at refused
  generalize (if asksForDirectory path = true then _ else _ : Except SystemError FilePlace) = located
    at refused
  cases located with
  | error cause => exact ⟨cause, (Except.error.inj refused).symm⟩
  | ok place => cases refused

/-- A name by itself is the one of a place in the working directory. -/
theorem Opens.inside {t : FileTree} {file : Text} {path : List UInt8} {place : FilePlace}
    {name : FileName} (opens : t.Opens file path place)
    (single : namesBetween FileName.slash path = [name]) (relative : startOf path = .inside [])
    (notSelf : name ≠ FileName.self) (notUp : name ≠ FileName.up) : place = .inside [name] := by
  have leads := opens.leads
  rw [single, relative] at leads
  obtain _ | ⟨followed, rest⟩ := leads
  cases rest
  rcases (follow_eq_ok (followed [])).2 with ⟨self, _⟩ | ⟨up, _⟩ | ⟨_, child⟩
  · exact absurd self notSelf
  · exact absurd up notUp
  · exact child

/-! ## After writing -/

/-- Writing a file does not change where names lead: they lead through directories, and a file is
not written in the place of one. -/
theorem Leads.put {t : FileTree} {names : List FileName} {place last target : FilePlace}
    (led : t.Leads names place last) (free : t.find? target ≠ some .directory)
    (content : List UInt8) : (t.put target content).Leads names place last := by
  induction led with
  | here place => exact .here place
  | @step place next last name names followed _ ih =>
    have directory := (follow_eq_ok (followed [])).1
    -- The names lead through this place, so it is a directory and not the one that is written.
    have differs : place ≠ target := by
      rintro rfl
      exact free directory
    rw [← find?_put_other t differs content] at directory
    exact .step (follow_of_directory (followed []) directory) ih

theorem Opens.put {t : FileTree} {file : Text} {path : List UInt8} {place target : FilePlace}
    (opens : t.Opens file path place) (free : t.find? target ≠ some .directory)
    (content : List UInt8) : (t.put target content).Opens file path place :=
  ⟨opens.named, opens.full, opens.short, opens.proper, opens.leads.put free content⟩

/-- What is written is found, unless it is lost in something of the system. -/
theorem find?_put {t : FileTree} {place : FilePlace} (free : t.find? place ≠ some .directory)
    (content : List UInt8) :
    (t.put place content).find? place = some (.file content) ∨ t.put place content = t := by
  cases place with
  | inside names =>
    have below : names ≠ [] := by
      rintro rfl
      exact free rfl
    exact .inl (find?_put_self t below content)
  | fromRoot names =>
    cases known : Standard.find? names with
    | none => exact .inl (find?_put_elsewhere t known content)
    | some entry => exact .inr (by simp [put, known])

/-- A file that was written can be opened and written again. -/
theorem locateForWriting_put {t : FileTree} {file : Text} {place : FilePlace}
    (located : t.locateForWriting file = .ok place) (content : List UInt8) :
    (t.put place content).locateForWriting file = .ok place := by
  obtain ⟨⟨path, opens⟩, free⟩ := opens_of_locateForWriting located
  rcases find?_put free content with found | same
  · refine locateForWriting_eq_ok_iff.mpr ⟨⟨path, opens.put free content⟩, ?_⟩
    unfold placeForWriting
    rw [found]
  · rw [same, located]

theorem writeError?_put {t : FileTree} {place : FilePlace} (free : t.find? place ≠ some .directory)
    (writable : t.writeError? place = none) (content : List UInt8) :
    (t.put place content).writeError? place = none := by
  rcases find?_put free content with found | same
  · rw [writeError?, found]
  · rw [same, writable]

/-! ## Reading what was written -/

/-- At a place stands nothing of the system: what is written there is kept. -/
def IsOrdinary (t : FileTree) (place : FilePlace) : Prop :=
  ∀ readError? writeError?, t.find? place ≠ some (.foreign readError? writeError?)

theorem writeError?_of_isOrdinary {t : FileTree} {place : FilePlace}
    (ordinary : t.IsOrdinary place) : t.writeError? place = none := by
  unfold writeError?
  split
  · next found => exact absurd found (ordinary _ _)
  · rfl

/-- A file that was written is read back. -/
theorem read_put {t : FileTree} {file : Text} {place : FilePlace}
    (located : t.locateForWriting file = .ok place) (ordinary : t.IsOrdinary place)
    (content : List UInt8) : (t.put place content).read file = .ok content := by
  obtain ⟨⟨path, opens⟩, placed⟩ := locateForWriting_eq_ok_iff.mp located
  have free := (opens_of_locateForWriting located).2
  have found : (t.put place content).find? place = some (.file content) := by
    cases place with
    | inside names =>
      refine find?_put_self t ?_ content
      rintro rfl
      exact free rfl
    | fromRoot names =>
      cases known : Standard.find? names with
      | none => exact find?_put_elsewhere t known content
      | some entry =>
        -- What the system has there would have kept the file from being opened.
        have here : t.find? (.fromRoot names) = some entry := by simp [find?, known]
        cases entry with
        | file old => exact absurd known (Standard.find?_ne_file names old)
        | directory => exact absurd here free
        | foreign readError? writeError? => exact absurd here (ordinary readError? writeError?)
        | absentDevice =>
          unfold placeForWriting at placed
          rw [here] at placed
          cases placed
  exact read_eq_ok_iff.mpr ⟨path, place, opens.put free content, by rw [contentAt, found]⟩

end TapeMachine.FileTree

import TapeMachine.Proofs.Files.Opening
import TapeMachine.Proofs.Files.Path
import TapeMachine.Proofs.Text.Encoding

/-!
# A file beside another

A program is stored beside its source, under the name of the source with a suffix. No file of the
system has such a name, so what is stored can be read again under it. The source is another file, so
it stays what it was.

Results:
1. `bytesOf_append`, `namesBetween_append`: a suffix of a file name is one of its last name.
2. `find?_of_suffixed`, `settle_of_suffixed`: nothing of the system has a name with the suffix.
3. `beside_of_opens`: the place of the file is another one, in the directory of its source.
4. `read_put_beside`: after the file is written, both are read as they are.
-/

namespace TapeMachine

/-! ## Bytes of longer names -/

namespace FileTree

theorem bytesOf_append {file : Text} {path : List UInt8} (named : bytesOf file = .ok path)
    {suffix : List Char} (nonzero : (Utf8.encode suffix).contains 0 = false) :
    bytesOf (file ++ Text.ofChars suffix) = .ok (path ++ Utf8.encode suffix) := by
  unfold bytesOf at named
  split at named
  · cases named
  · next bytes encoded =>
    split at named
    · cases named
    · next clean =>
      cases named
      have longer : Utf8.encodeFileName (file ++ Text.ofChars suffix) =
          .ok (path ++ Utf8.encode suffix) := Utf8.encodeOnto_append encoded suffix
      have still : ¬(path ++ Utf8.encode suffix).contains 0 = true := by
        rw [Bool.not_eq_true] at clean ⊢
        simp only [List.contains_eq_mem, decide_eq_false_iff_not, List.mem_append] at *
        rintro (zero | zero)
        · exact clean zero
        · exact nonzero zero
      rw [bytesOf, longer]
      simp only [if_neg still]

theorem namesBetween_append {path suffix : List UInt8} (full : path ≠ [])
    (proper : asksForDirectory path = false) (clean : FileName.slash ∉ suffix) :
    ∃ front last, namesBetween FileName.slash path = front ++ [last] ∧
      namesBetween FileName.slash (path ++ suffix) = front ++ [last ++ suffix] := by
  obtain ⟨front, last, cut, longer, empty⟩ := pieces_append clean path
  have lastFull : last ≠ [] := by
    intro none
    rcases empty none with nothing | ends
    · exact full nothing
    · rw [asksForDirectory, ends] at proper
      exact absurd proper (by decide)
  refine ⟨front.filter (!·.isEmpty), last, ?_, ?_⟩
  · rw [namesBetween, cut, List.filter_append, List.filter_cons_of_pos (by simpa using lastFull),
      List.filter_nil]
  · rw [namesBetween, longer, List.filter_append, List.filter_cons_of_pos (by simp [lastFull]),
      List.filter_nil]

end FileTree

/-! ## Names with the suffix -/

/-- What stands behind the name of a source file in that of its stored program. -/
def FileName.storedEnding : FileName :=
  Utf8.encodeString ".program.json"

/-- The last name has the suffix. -/
def Suffixed (names : List FileName) : Prop :=
  ∃ last ∈ names.getLast?, FileName.storedEnding <:+ last

instance (names : List FileName) : Decidable (Suffixed names) :=
  match h : names.getLast? with
  | none => isFalse (by rintro ⟨last, member, _⟩; rw [h] at member; cases member)
  | some last => decidable_of_iff (FileName.storedEnding <:+ last) (by simp [Suffixed, h])

theorem suffixed_append (front : List FileName) (last : FileName) :
    Suffixed (front ++ [last ++ FileName.storedEnding]) :=
  ⟨last ++ FileName.storedEnding, by simp, List.suffix_append _ _⟩

namespace Standard

theorem not_suffixed_directories : ∀ names ∈ directories, ¬Suffixed names := by decide +kernel

theorem not_suffixed_files : ∀ names ∈ files, ¬Suffixed names := by decide +kernel

theorem not_suffixed_links : ∀ link ∈ links, ¬Suffixed link.1 ∧ ¬Suffixed link.2 := by
  decide +kernel

theorem find?_of_suffixed {names : List FileName} (suffixed : Suffixed names) :
    find? names = none := by
  have apart : ∀ {path : String}, ¬Suffixed (FileName.ofPath path) → names ≠ FileName.ofPath path := by
    rintro path plain rfl
    exact plain suffixed
  rw [find?, if_neg fun member => not_suffixed_directories names member suffixed,
    if_neg (apart (by decide +kernel)), if_neg (apart (by decide +kernel)),
    if_neg (apart (by decide +kernel)),
    if_neg fun member => not_suffixed_files names member suffixed]

theorem settle_of_suffixed {names : List FileName} (suffixed : Suffixed names) :
    settle names = names := by
  have none : links.find? (fun link => link.1 = names) = none := by
    rw [List.find?_eq_none]
    intro link linked same
    have named : link.1 = names := by simpa using same
    rw [← named] at suffixed
    exact (not_suffixed_links link linked).1 suffixed
  show ((links.find? fun link => link.1 = names).map Prod.snd).getD names = names
  rw [none]
  rfl

/-- What a second name stands for does not have the suffix. -/
theorem settle_cases (names : List FileName) : settle names = names ∨ ¬Suffixed (settle names) := by
  show ((links.find? fun link => link.1 = names).map Prod.snd).getD names = names ∨ ¬Suffixed
    (((links.find? fun link => link.1 = names).map Prod.snd).getD names)
  cases linked : links.find? (fun link => link.1 = names) with
  | none => exact .inl rfl
  | some link => exact .inr (not_suffixed_links link (List.mem_of_find?_eq_some linked)).2

end Standard

/-! ## Writing beside a file -/

namespace FileTree

theorem append_ending_ne {name : FileName} (short : name.length < FileName.storedEnding.length)
    (last : FileName) : last ++ FileName.storedEnding ≠ name := by
  rintro rfl
  rw [List.length_append] at short
  exact absurd short (Nat.not_lt.mpr (Nat.le_add_left _ last.length))

/-- A name with the suffix leads to the place of that name in the directory. -/
theorem Leads.suffixed {t : FileTree} {directory place : FilePlace} {last : FileName}
    (led : t.Leads [last ++ FileName.storedEnding] directory place) :
    place = directory.child (last ++ FileName.storedEnding) := by
  obtain _ | ⟨followed, rest⟩ := led
  cases rest
  rcases (follow_eq_ok (followed [])).2 with ⟨self, _⟩ | ⟨up, _⟩ | ⟨_, child⟩
  · exact absurd self (append_ending_ne (by decide +kernel) last)
  · exact absurd up (append_ending_ne (by decide +kernel) last)
  · exact child

theorem child_suffixed (directory : FilePlace) (last : FileName) :
    directory.child (last ++ FileName.storedEnding) =
      match directory with
      | .inside names => .inside (names ++ [last ++ FileName.storedEnding])
      | .fromRoot names => .fromRoot (names ++ [last ++ FileName.storedEnding]) := by
  cases directory with
  | inside names => rfl
  | fromRoot names =>
    have suffixed := suffixed_append names last
    have elsewhere : names ++ [last ++ FileName.storedEnding] ≠ Standard.workingDirectory := by
      intro same
      rw [same] at suffixed
      exact absurd suffixed (by decide +kernel)
    rw [FilePlace.child, if_neg elsewhere, Standard.settle_of_suffixed suffixed]

/-- A place with the suffix is free for a file: what is written there can be read. -/
theorem find?_put_suffixed (t : FileTree) (directory : FilePlace) (last : FileName)
    (content : List UInt8) :
    (t.put (directory.child (last ++ FileName.storedEnding)) content).find?
      (directory.child (last ++ FileName.storedEnding)) = some (.file content) := by
  rw [child_suffixed]
  cases directory with
  | inside names => exact find?_put_self t (by simp) content
  | fromRoot names =>
    exact find?_put_elsewhere t (Standard.find?_of_suffixed (suffixed_append names last)) content

theorem append_ne {names others : List FileName} (last : FileName)
    (short : names.length ≤ others.length) : names ≠ others ++ [last] := by
  intro same
  have longer := congrArg List.length same
  rw [List.length_append, List.length_singleton] at longer
  omega

/-- The name without the suffix leads somewhere else. -/
theorem Leads.ne_suffixed {t : FileTree} {directory place : FilePlace} {last : FileName}
    (led : t.Leads [last] directory place) :
    place ≠ directory.child (last ++ FileName.storedEnding) := by
  obtain _ | ⟨followed, rest⟩ := led
  cases rest
  have longer : last ≠ last ++ FileName.storedEnding := by
    intro same
    have ending : FileName.storedEnding ≠ [] := by decide +kernel
    exact ending (List.self_eq_append_right.mp same)
  rw [child_suffixed]
  cases directory with
  | inside names =>
    -- The directory and what it stands in are not as deep as the place with the suffix.
    rcases (follow_eq_ok (followed [])).2 with ⟨_, rfl⟩ | ⟨_, rfl⟩ | ⟨_, rfl⟩
    · intro same
      exact append_ne _ (Nat.le_refl _) (FilePlace.inside.inj same)
    · cases names with
      | nil => nofun
      | cons name names =>
        intro same
        exact append_ne _ (by simp) (FilePlace.inside.inj same)
    · intro same
      have names := List.append_cancel_left (FilePlace.inside.inj same)
      exact longer (List.singleton_inj.mp names)
  | fromRoot names =>
    rcases (follow_eq_ok (followed [])).2 with ⟨_, rfl⟩ | ⟨_, rfl⟩ | ⟨_, rfl⟩
    · intro same
      exact append_ne _ (Nat.le_refl _) (FilePlace.fromRoot.inj same)
    · intro same
      exact append_ne _ (by simp) (FilePlace.fromRoot.inj same)
    · rw [FilePlace.child]
      split
      · nofun
      · intro same
        have names := FilePlace.fromRoot.inj same
        -- The name without the suffix may be a second name, but of nothing that has the suffix.
        rcases Standard.settle_cases (_ ++ [last]) with settled | plain
        · rw [settled] at names
          exact longer (List.singleton_inj.mp (List.append_cancel_left names))
        · rw [names] at plain
          exact plain (suffixed_append _ last)

/-- The place of the last name of a file, with the suffix, in the directory to which the names in
front of it lead. -/
inductive Beside (t : FileTree) (file : Text) : FilePlace → Prop
  | suffixed {path : List UInt8} {front : List FileName} {last : FileName}
      {directory : FilePlace} : bytesOf file = .ok path →
      namesBetween FileName.slash path = front ++ [last] →
      t.Leads front (startOf path) directory →
      Beside t file (directory.child (last ++ FileName.storedEnding))

theorem Beside.find?_put {t : FileTree} {file : Text} {place : FilePlace}
    (beside : t.Beside file place) (content : List UInt8) :
    (t.put place content).find? place = some (.file content) := by
  cases beside
  exact find?_put_suffixed t _ _ content

/-- The name of a file that can be opened, with the suffix, is the one of another place beside it. -/
theorem beside_of_opens {t : FileTree} {source target : Text} {path longer : List UInt8}
    {here place : FilePlace} (extended : target = source ++ Text.ofString ".program.json")
    (opens : t.Opens source path here) (opensTarget : t.Opens target longer place) :
    t.Beside source place ∧ here ≠ place := by
  have named : bytesOf target = .ok (path ++ FileName.storedEnding) := by
    rw [extended]
    exact bytesOf_append opens.named (by decide +kernel)
  obtain rfl : longer = path ++ FileName.storedEnding :=
    Except.ok.inj (opensTarget.named.symm.trans named)
  obtain ⟨front, last, names, longerNames⟩ :=
    namesBetween_append opens.full opens.proper
      (show FileName.slash ∉ FileName.storedEnding by decide +kernel)
  have start : startOf (path ++ FileName.storedEnding) = startOf path := by
    cases path with
    | nil => exact absurd rfl opens.full
    | cons b path => rfl
  have leads := opens.leads
  have leadsTarget := opensTarget.leads
  rw [names] at leads
  rw [longerNames, start] at leadsTarget
  -- Both names lead through the same directory, and only their last step differs.
  obtain ⟨directory, toDirectory, toSource⟩ := leads.append
  obtain ⟨other, toOther, toTarget⟩ := leadsTarget.append
  obtain rfl := toOther.unique toDirectory
  obtain rfl := toTarget.suffixed
  exact ⟨.suffixed opens.named names toDirectory, toSource.ne_suffixed⟩

/-- What is written beside a file that can be read, under its name with the suffix, can be read
under that name, and the file is still what it was. -/
theorem read_put_beside {t : FileTree} {source target : Text} {content stored : List UInt8}
    {place : FilePlace} (extended : target = source ++ Text.ofString ".program.json")
    (read : t.read source = .ok content) (located : t.locateForWriting target = .ok place) :
    (t.put place stored).read target = .ok stored ∧ (t.put place stored).read source = .ok content := by
  obtain ⟨path, here, opens, kept⟩ := read_eq_ok_iff.mp read
  obtain ⟨⟨longer, opensTarget⟩, free⟩ := opens_of_locateForWriting located
  obtain ⟨beside, apart⟩ := beside_of_opens extended opens opensTarget
  constructor
  · refine read_eq_ok_iff.mpr ⟨_, _, opensTarget.put free stored, ?_⟩
    rw [contentAt, beside.find?_put]
  · refine read_eq_ok_iff.mpr ⟨_, _, opens.put free stored, ?_⟩
    rw [contentAt, find?_put_other t apart]
    exact kept

end FileTree

end TapeMachine

import TapeMachine.CommandLine.Options
import TapeMachine.Proofs.Files.Opening

/-!
# Options that are given

A word stands for an option if it is sorted as one, and it stands in front of any double dash. An
option that names a file leaves its mark on what has been read, whether its name is empty or not, and
of the two that name a file only one can leave it. The verbosity is raised by words that stand for
`-v` and by no others.

Results:
1. `holds_of_sortAll`: the options among the words are the options among the sorted words.
2. `readAs`: what the words that were read tell about the options.
3. `Executes.gives_verbose`: the verbosity of an execution has been given.
4. `request_of_both`: what is asked for when both options that name a file are given.
-/

namespace TapeMachine.CommandLine

open FileTree (bind_eq_ok)

/-- The word is an option. -/
def Word.IsOption (flag : Flag) : Word → Prop
  | .option other _ _ => other = flag
  | _ => False

/-- The word is none of the options. -/
def Word.IsPlain : Word → Prop
  | .option _ _ _ => False
  | _ => True

/-- One of the sorted words is an option. -/
def Holds (sorted : List Word) (flag : Flag) : Prop :=
  ∃ word ∈ sorted, word.IsOption flag

/-- One of the words in front of any double dash stands for an option. -/
def Gives (words : List Text) (flag : Flag) : Prop :=
  ∃ word ∈ words.takeWhile (· ≠ Text.ofString "--"),
    ∃ sorted, sort word = .ok sorted ∧ sorted.IsOption flag

/-! ## Options among the words -/

theorem holds_append {front rest : List Word} {flag : Flag} :
    Holds (front ++ rest) flag ↔ Holds front flag ∨ Holds rest flag := by
  constructor
  · rintro ⟨word, member, option⟩
    exact (List.mem_append.mp member).imp (⟨word, ·, option⟩) (⟨word, ·, option⟩)
  · rintro (⟨word, member, option⟩ | ⟨word, member, option⟩)
    · exact ⟨word, List.mem_append_left rest member, option⟩
    · exact ⟨word, List.mem_append_right front member, option⟩

theorem not_holds_of_isPlain {words : List Word} (plain : ∀ word ∈ words, word.IsPlain)
    (flag : Flag) : ¬Holds words flag := by
  rintro ⟨word, member, option⟩
  have free := plain word member
  cases word with
  | option _ _ _ => exact free
  | _ => exact option

theorem holds_cons {word : Word} {words : List Word} {flag : Flag} :
    Holds (word :: words) flag ↔ word.IsOption flag ∨ Holds words flag := by
  simp [Holds]

theorem holds_of_sortAll {words : List Text} {sorted : List Word} {flag : Flag}
    (sorts : sortAll words = .ok sorted) : Holds sorted flag ↔ Gives words flag := by
  induction words generalizing sorted with
  | nil =>
    cases sorts
    simp [Holds, Gives]
  | cons word words ih =>
    unfold sortAll at sorts
    by_cases dashes : word = Text.ofString "--"
    · -- All that stands behind the double dash is an argument.
      rw [if_pos dashes] at sorts
      cases sorts
      rw [holds_cons, Gives, List.takeWhile_cons_of_neg (by simpa using dashes)]
      constructor
      · rintro (option | held)
        · exact option.elim
        · exact absurd held (not_holds_of_isPlain (by simp [Word.IsPlain]) flag)
      · rintro ⟨_, member, _⟩
        cases member
    · rw [if_neg dashes, bind_eq_ok] at sorts
      obtain ⟨head, first, sorts⟩ := sorts
      obtain ⟨tail, rest, same⟩ := bind_eq_ok.mp sorts
      cases same
      rw [holds_cons, ih rest, Gives, Gives, List.takeWhile_cons_of_pos (by simpa using dashes)]
      simp [first]

/-! ## What is read of the words -/

/-- What reading some words tells about the options: a verbosity that has changed was raised by a
word, a file is named if it was before or a word names it, and only one of the two is. -/
structure ReadAs (o : Options) (words : List Word) (after : Options) : Prop where
  verbosity : after.verbosity ≠ o.verbosity → Holds words .verbose
  emit : after.emit?.isSome = true ↔ o.emit?.isSome = true ∨ Holds words .emit
  stored : after.stored?.isSome = true ↔ o.stored?.isSome = true ∨ Holds words .stored
  apart : ¬(o.emit?.isSome = true ∧ o.stored?.isSome = true) →
    ¬(after.emit?.isSome = true ∧ after.stored?.isSome = true)

variable {o next after : Options} {front rest : List Word}

theorem ReadAs.trans (first : ReadAs o front next) (later : ReadAs next rest after) :
    ReadAs o (front ++ rest) after where
  verbosity changed := by
    rw [holds_append]
    by_cases same : next.verbosity = o.verbosity
    · exact .inr (later.verbosity (same.symm ▸ changed))
    · exact .inl (first.verbosity same)
  emit := by rw [later.emit, first.emit, holds_append, or_assoc]
  stored := by rw [later.stored, first.stored, holds_append, or_assoc]
  apart := later.apart ∘ first.apart

/-- Words that are no options leave the options alone. -/
theorem readAs_of_plain (plain : ∀ word ∈ front, word.IsPlain)
    (verbosity : next.verbosity = o.verbosity) (emit : next.emit? = o.emit?)
    (stored : next.stored? = o.stored?) : ReadAs o front next where
  verbosity changed := absurd verbosity changed
  emit := by rw [emit, or_iff_left (not_holds_of_isPlain plain .emit)]
  stored := by rw [stored, or_iff_left (not_holds_of_isPlain plain .stored)]
  apart := by rw [emit, stored]; exact id

theorem ReadAs.behind (later : ReadAs next rest after) (front : List Word)
    (plain : ∀ word ∈ front, word.IsPlain) (verbosity : next.verbosity = o.verbosity)
    (emit : next.emit? = o.emit?) (stored : next.stored? = o.stored?) :
    ReadAs o (front ++ rest) after :=
  (readAs_of_plain plain verbosity emit stored).trans later

/-- An option that names a file, which may be named by the next word. -/
theorem readAs_of_name {flag : Flag} {spelling : Text} {value? : Option Text} {value : Text}
    (names : flag.takesValue = true) (named : o.name flag value = .ok next)
    (plain : ∀ word ∈ rest, word.IsPlain) :
    ReadAs o (.option flag spelling value? :: rest) next := by
  have held : ∀ {other}, Holds (.option flag spelling value? :: rest) other ↔ flag = other := by
    intro other
    rw [holds_cons, or_iff_left (not_holds_of_isPlain plain other)]
    rfl
  cases flag with
  | help => cases names
  | verbose => cases names
  | emit =>
    simp only [Options.name] at named
    split at named
    · cases named
    · next free =>
      cases named
      refine ⟨fun changed => absurd rfl changed, ?_, ?_, fun _ both => free both.2⟩
      · exact ⟨fun _ => .inr (held.mpr rfl), fun _ => rfl⟩
      · rw [or_iff_left (by rw [held]; decide)]
  | stored =>
    simp only [Options.name] at named
    split at named
    · cases named
    · next free =>
      cases named
      refine ⟨fun changed => absurd rfl changed, ?_, ?_, fun _ both => free both.1⟩
      · rw [or_iff_left (by rw [held]; decide)]
      · exact ⟨fun _ => .inr (held.mpr rfl), fun _ => rfl⟩

theorem takeFlags_eq_options {flags : List Flag} (taken : takeFlags o flags = .options next) :
    next = { o with verbosity := next.verbosity } ∧ .help ∉ flags := by
  induction flags generalizing o with
  | nil =>
    cases taken
    exact ⟨rfl, List.not_mem_nil⟩
  | cons flag flags ih =>
    have further : flag ≠ .help ∧
        takeFlags { o with verbosity := o.verbosity + 1 } flags = .options next := by
      cases flag with
      | help => cases taken
      | _ => exact ⟨nofun, taken⟩
    obtain ⟨same, free⟩ := ih further.2
    exact ⟨same, List.not_mem_cons_of_ne_of_not_mem further.1.symm free⟩

theorem mem_of_bundle {flag : Flag} {letters : Text} {flags : List Flag}
    (bundled : bundle flag letters = .ok flags) : flag ∈ flags := by
  cases letters with
  | nil =>
    cases bundled
    exact List.mem_cons_self
  | cons letter letters =>
    unfold bundle at bundled
    split at bundled
    · next next _ =>
      cases further : bundle next letters with
      | error error =>
        rw [further] at bundled
        cases bundled
      | ok more =>
        rw [further] at bundled
        cases bundled
        exact List.mem_cons_self
    · cases bundled

/-- An option without a value that does not end the reading is `-v`. -/
theorem readAs_of_flag {flag : Flag} {spelling : Text} {value? : Option Text}
    (valueless : ¬flag.takesValue = true)
    (taken : takeFlag o flag spelling value? = .ok (.options next)) :
    ReadAs o [.option flag spelling value?] next := by
  obtain ⟨flags, first, took⟩ : ∃ flags, flag ∈ flags ∧ takeFlags o flags = .options next := by
    cases value? with
    | none => exact ⟨[flag], List.mem_cons_self, Except.ok.inj taken⟩
    | some value =>
      simp only [takeFlag] at taken
      split at taken
      · cases taken
      · cases bundled : bundle flag value with
        | error error =>
          rw [bundled] at taken
          cases taken
        | ok flags =>
          rw [bundled] at taken
          exact ⟨flags, mem_of_bundle bundled, Except.ok.inj taken⟩
  obtain ⟨same, free⟩ := takeFlags_eq_options took
  have verbose : flag = .verbose := by
    cases flag with
    | help => exact absurd first free
    | verbose => rfl
    | emit => exact absurd rfl valueless
    | stored => exact absurd rfl valueless
  subst verbose
  have held : ∀ {other}, Holds [.option .verbose spelling value?] other ↔ .verbose = other := by
    intro other
    simp [Holds, Word.IsOption]
  rw [same]
  refine ⟨fun _ => held.mpr rfl, ?_, ?_, id⟩
  · rw [or_iff_left (by rw [held]; decide)]
  · rw [or_iff_left (by rw [held]; decide)]

/-- The induction is on the reading, which takes a word and sometimes the one behind it. -/
theorem readAs {words : List Word} (reads : readWords o words = .ok (.options after)) :
    ReadAs o words after := by
  fun_induction readWords o words with
  | case1 o =>
    cases reads
    exact readAs_of_plain nofun rfl rfl rfl
  | case2 o text rest ih => exact (ih reads).behind [.unknown text] (by simp [Word.IsPlain]) rfl rfl rfl
  | case3 o text rest _ ih =>
    exact (ih reads).behind [.argument text] (by simp [Word.IsPlain]) rfl rfl rfl
  | case4 o text _ next rest ih =>
    exact (ih reads).behind [.argument text, .separator] (by simp [Word.IsPlain]) rfl rfl rfl
  | case5 o text _ next rest _ ih =>
    exact (ih reads).behind [.argument text] (by simp [Word.IsPlain]) rfl rfl rfl
  | case6 o rest _ ih => exact (ih reads).behind [.separator] (by simp [Word.IsPlain]) rfl rfl rfl
  | case7 o _ text rest ih =>
    exact (ih reads).behind [.separator, .argument text] (by simp [Word.IsPlain]) rfl rfl rfl
  | case8 o _ rest _ ih => exact (ih reads).behind [.separator] (by simp [Word.IsPlain]) rfl rfl rfl
  | case9 o flag spelling names value rest ih =>
    obtain ⟨next, named, reads⟩ := bind_eq_ok.mp reads
    have first : ReadAs o [.option flag spelling (some value)] next :=
      readAs_of_name names named nofun
    exact first.trans (ih next reads)
  | case10 o flag spelling names text rest ih =>
    obtain ⟨next, named, reads⟩ := bind_eq_ok.mp reads
    have first : ReadAs o [.option flag spelling none, .argument text] next :=
      readAs_of_name names named (by simp [Word.IsPlain])
    exact first.trans (ih next reads)
  | case11 => cases reads
  | case12 o flag spelling value? rest valueless ih =>
    obtain ⟨reading, taken, reads⟩ := bind_eq_ok.mp reads
    cases reading with
    | help => cases reads
    | options next => exact (readAs_of_flag valueless taken).trans (ih next reads)

/-! ## What is asked for -/

/-- The command line asks to execute a source file or a stored program, with a verbosity. -/
inductive Executes (words : List Text) (verbosity : Nat) : Prop
  | source {name : Text} : request words = .executeSource name verbosity → Executes words verbosity
  | stored {name : Text} : request words = .executeStored name verbosity → Executes words verbosity

theorem exists_request_eq {words : List Text} (help : request words ≠ .help)
    (usage : ∀ error, request words ≠ .usage error) :
    ∃ sorted o, sortAll words = .ok sorted ∧ ReadAs .initial sorted o ∧
      request words = o.request := by
  unfold request at help usage ⊢
  cases sorts : sortAll words with
  | error error =>
    rw [sorts] at usage
    exact absurd rfl (usage error)
  | ok sorted =>
    rw [sorts] at help usage
    cases reads : readWords .initial sorted with
    | error error =>
      simp only [bind, Except.bind, reads] at usage
      exact absurd rfl (usage error)
    | ok reading =>
      simp only [bind, Except.bind, reads] at help ⊢
      cases reading with
      | help => exact absurd rfl help
      | options o => exact ⟨sorted, o, rfl, readAs reads, rfl⟩

theorem Options.verbosity_eq_of_request {o : Options} {path : Text} {verbosity : Nat}
    (asked : o.request = .executeSource path verbosity ∨
      o.request = .executeStored path verbosity) : o.verbosity = verbosity := by
  unfold request at asked
  split at asked
  · rcases asked with asked | asked <;> cases asked
  · split at asked <;> rcases asked with asked | asked <;> cases asked <;> rfl

/-- The verbosity of an execution is above zero only if a word stands for `-v`. -/
theorem Executes.gives_verbose {words : List Text} {verbosity : Nat}
    (executes : Executes words verbosity) (loud : 0 < verbosity) : Gives words .verbose := by
  obtain ⟨name, asked⟩ : ∃ name, request words = .executeSource name verbosity ∨
      request words = .executeStored name verbosity := by
    cases executes with
    | source asked => exact ⟨_, .inl asked⟩
    | stored asked => exact ⟨_, .inr asked⟩
  have other : request words ≠ .help ∧ ∀ error, request words ≠ .usage error := by
    rcases asked with asked | asked <;> rw [asked] <;> exact ⟨nofun, nofun⟩
  obtain ⟨sorted, o, sorts, read, same⟩ := exists_request_eq other.1 other.2
  rw [same] at asked
  refine (holds_of_sortAll sorts).mp (read.verbosity ?_)
  rw [Options.verbosity_eq_of_request asked]
  exact Nat.ne_of_gt loud

/-- If both options that name a file are given, no file is made use of: the command line asks for
help or is wrong. -/
theorem request_of_both {words : List Text} (emit : Gives words .emit)
    (stored : Gives words .stored) :
    request words = .help ∨ ∃ error, request words = .usage error := by
  have clash : request words ≠ .help → (∀ error, request words ≠ .usage error) → False := by
    intro help usage
    obtain ⟨sorted, o, sorts, read, _⟩ := exists_request_eq help usage
    rw [← holds_of_sortAll sorts] at emit stored
    exact read.apart (by decide) ⟨read.emit.mpr (.inr emit), read.stored.mpr (.inr stored)⟩
  cases asked : request words with
  | help => exact .inl rfl
  | usage error => exact .inr ⟨error, rfl⟩
  | _ =>
    rw [asked] at clash
    exact (clash nofun nofun).elim

end TapeMachine.CommandLine

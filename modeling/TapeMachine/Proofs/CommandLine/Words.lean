import TapeMachine.CommandLine.Options

/-!
# What command lines ask for

An option that is spelled in full, with its value behind an equals sign, is taken as it is written,
whatever the value looks like, and so is an argument behind a double dash. Words `-v` in front of
them only raise the verbosity.

Results:
1. `sort_withValue`: a word with an equals sign is sorted by what stands before it.
2. `sortAll_verbose`, `readWords_verbose`: words `-v` are counted.
3. `request_emit`, `request_stored`, `request_source`: the three command lines with a path.
-/

namespace TapeMachine.CommandLine

/-! ## Words with a value -/

/-- No option has an equals sign in its spelling. -/
theorem ofSpelling?_of_equals {word : Text} (equals : .char '=' ∈ word) :
    Flag.ofSpelling? word = none := by
  have plain : ∀ option ∈ Flag.spellings, .char '=' ∉ Text.ofString option.1 := by decide +kernel
  have none : Flag.spellings.find? (fun option => Text.ofString option.1 = word) = none := by
    rw [List.find?_eq_none]
    intro option listed same
    have spelled : Text.ofString option.1 = word := by simpa using same
    rw [← spelled] at equals
    exact plain option listed equals
  show (Flag.spellings.find? fun option => Text.ofString option.1 = word).map Prod.snd = _
  rw [none]
  rfl

theorem splitAtEquals_append {spelling : Text} (plain : .char '=' ∉ spelling) (value : Text) :
    splitAtEquals (spelling ++ .char '=' :: value) = (spelling, some value) := by
  have front : ∀ p ∈ spelling, decide (p ≠ CodePoint.char '=') = true := by
    intro p member
    refine decide_eq_true ?_
    rintro rfl
    exact plain member
  rw [splitAtEquals, List.takeWhile_append_of_pos front, List.dropWhile_append_of_pos front,
    List.takeWhile_cons_of_neg (by decide), List.dropWhile_cons_of_neg (by decide),
    List.append_nil]
  rfl

theorem isDashed_append {spelling : Text} (dashed : isDashed spelling = true) (rest : Text) :
    isDashed (spelling ++ rest) = true := by
  rw [isDashed, beginsWith, List.isPrefixOf_iff_prefix] at dashed ⊢
  exact dashed.trans (List.prefix_append spelling rest)

/-- A word with an equals sign is sorted by what stands before it, if that is the spelling of an
option. -/
theorem sort_withValue {spelling : Text} {flag : Flag} (dashed : isDashed spelling = true)
    (plain : .char '=' ∉ spelling) (spelled : Flag.ofSpelling? spelling = some flag)
    (value : Text) :
    sort (spelling ++ .char '=' :: value) = .ok (.option flag spelling (some value)) := by
  -- A word is looked up as a whole before it is parted at the equals sign.
  have whole : Flag.ofSpelling? (spelling ++ .char '=' :: value) = none :=
    ofSpelling?_of_equals (List.mem_append_right spelling List.mem_cons_self)
  rw [sort, isDashed_append dashed, whole, splitAtEquals_append plain]
  simp only [spelled]
  rfl

theorem sortAll_withValue {spelling : Text} {flag : Flag} (dashed : isDashed spelling = true)
    (plain : .char '=' ∉ spelling) (spelled : Flag.ofSpelling? spelling = some flag)
    (value : Text) :
    sortAll [spelling ++ .char '=' :: value] = .ok [.option flag spelling (some value)] := by
  have other : spelling ++ .char '=' :: value ≠ Text.ofString "--" := by
    intro same
    have equals : CodePoint.char '=' ∈ Text.ofString "--" := by
      rw [← same]
      exact List.mem_append_right spelling List.mem_cons_self
    exact absurd equals (by decide)
  rw [sortAll, if_neg other, sort_withValue dashed plain spelled]
  rfl

/-! ## The verbosity -/

/-- The word `-v`, so many times. -/
def verboseWords (count : Nat) : List Text :=
  List.replicate count (Text.ofString "-v")

/-- The words `-v` as they are sorted. -/
def verboseOptions (count : Nat) : List Word :=
  List.replicate count (.option .verbose (Text.ofString "-v") none)

theorem sort_verbose :
    sort (Text.ofString "-v") = .ok (.option .verbose (Text.ofString "-v") none) := by
  have dashed : isDashed (Text.ofString "-v") = true := by decide
  have spelled : Flag.ofSpelling? (Text.ofString "-v") = some .verbose := by decide +kernel
  rw [sort, dashed, spelled]
  rfl

theorem sortAll_verbose {words : List Text} {sorted : List Word} (rest : sortAll words = .ok sorted)
    (count : Nat) :
    sortAll (verboseWords count ++ words) = .ok (verboseOptions count ++ sorted) := by
  have other : Text.ofString "-v" ≠ Text.ofString "--" := by decide
  induction count with
  | zero => exact rest
  | succ count ih =>
    show sortAll (Text.ofString "-v" :: (verboseWords count ++ words)) = _
    rw [sortAll, if_neg other, sort_verbose, ih]
    rfl

theorem readWords_verbose_cons (o : Options) (spelling : Text) (words : List Word) :
    readWords o (.option .verbose spelling none :: words) =
      readWords { o with verbosity := o.verbosity + 1 } words := by
  cases words with
  | nil => rfl
  | cons word words => cases word <;> rfl

theorem readWords_verbose (o : Options) (count : Nat) (words : List Word) :
    readWords o (verboseOptions count ++ words) =
      readWords { o with verbosity := o.verbosity + count } words := by
  induction count generalizing o with
  | zero => rfl
  | succ count ih =>
    show readWords o (.option .verbose _ none :: (verboseOptions count ++ words)) = _
    rw [readWords_verbose_cons, ih, Nat.add_assoc, Nat.add_comm 1 count]

/-! ## Command lines with a path -/

/-- A path that an option can be given: not an empty one, and not a double dash, which is left out
of what the option is given. -/
def Nameable (path : Text) : Prop :=
  path ≠ [] ∧ path ≠ Text.ofString "--"

instance (path : Text) : Decidable (Nameable path) :=
  inferInstanceAs (Decidable (path ≠ [] ∧ path ≠ Text.ofString "--"))

/-- The value of an option, as the option takes it. -/
theorem given?_value (path : Text) :
    given? (some (if path = Text.ofString "--" then [] else path)) =
      if Nameable path then some path else none := by
  by_cases dashes : path = Text.ofString "--"
  · rw [if_pos dashes, if_neg fun nameable => nameable.2 dashes]
    rfl
  · rw [if_neg dashes]
    by_cases empty : path = []
    · rw [if_neg fun nameable => nameable.1 empty, empty]
      rfl
    · rw [if_pos ⟨empty, dashes⟩]
      exact Option.filter_some_pos (by simpa using empty)

theorem request_of_readWords {words : List Text} {sorted : List Word} {o : Options}
    (sorts : sortAll words = .ok sorted) (reads : readWords .initial sorted = .ok (.options o)) :
    request words = o.request := by
  simp only [request, sorts, bind, Except.bind, reads]

theorem request_emit (source : Text) :
    request [Text.ofString "--emit-program=" ++ source] =
      if Nameable source then .emit source else .usage .missingSource := by
  have equals : Text.ofString "--emit-program=" = Text.ofString "--emit-program" ++ [.char '='] := by
    decide +kernel
  have spelled : Flag.ofSpelling? (Text.ofString "--emit-program") = some .emit := by decide +kernel
  have sorted := sortAll_withValue (by decide) (by decide) spelled source
  rw [equals, List.append_assoc, List.singleton_append, request_of_readWords sorted rfl]
  by_cases nameable : Nameable source
  · rw [if_pos nameable, Options.request, given?_value, if_pos nameable]
    rfl
  · rw [if_neg nameable, Options.request, given?_value, if_neg nameable]
    rfl

theorem request_stored (count : Nat) {path : Text} (nameable : Nameable path) :
    request (verboseWords count ++ [Text.ofString "--program=" ++ path]) =
      .executeStored path count := by
  have equals : Text.ofString "--program=" = Text.ofString "--program" ++ [.char '='] := by
    decide +kernel
  have spelled : Flag.ofSpelling? (Text.ofString "--program") = some .stored := by decide +kernel
  have sorted := sortAll_withValue (by decide) (by decide) spelled path
  rw [equals, List.append_assoc, List.singleton_append,
    request_of_readWords (sortAll_verbose sorted count) (readWords_verbose _ count _)]
  rw [Options.request, given?_value, if_pos nameable]
  show Request.executeStored path (0 + count) = _
  rw [Nat.zero_add]

theorem request_source (count : Nat) {path : Text} (some : path ≠ []) :
    request (verboseWords count ++ [Text.ofString "--", path]) = .executeSource path count := by
  have sorted : sortAll [Text.ofString "--", path] = .ok [.separator, .argument path] := rfl
  have given : given? (Option.some path) = Option.some path :=
    Option.filter_some_pos (by simpa using some)
  rw [request_of_readWords (sortAll_verbose sorted count) (readWords_verbose _ count _)]
  rw [Options.request, given]
  show Request.executeSource path (0 + count) = _
  rw [Nat.zero_add]

end TapeMachine.CommandLine

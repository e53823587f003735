import TapeMachine.Json.Printer
import TapeMachine.Json.Reader

/-!
# Plain values are read back

A value is plain if it is built of lists, of objects that have no name twice, and of strings that
are written without escapes. Whatever the layout in which it is written, reading takes exactly what
was written and gives the value back, and hands on what follows.

Results:
1. `stringFrom_plain`: a plain string is read up to its closing quote.
2. `valueFrom_printAt`: a plain value is read from its text.
3. `read_printAt`: so is a document that holds nothing else.
-/

namespace TapeMachine

namespace Json

/-! ## Plain values -/

/-- A character that is written in a string as it is. -/
def isPlain (c : Char) : Bool :=
  0x20 ≤ c.toNat && c.toNat < 0x7F && c ≠ '"' && c ≠ '\\'

/-- A text of characters that are written as they are. -/
def PlainText (s : Text) : Prop :=
  ∃ t : List Char, s = .ofChars t ∧ ∀ c ∈ t, isPlain c = true

mutual

/-- A value whose strings are all plain and whose objects have no name twice. -/
def Plain : Json → Prop
  | .string s => PlainText s
  | .array items => PlainItems items
  | .object members => (members.map Prod.fst).Nodup ∧ PlainMembers members
  | _ => False

/-- All items are plain. -/
def PlainItems : List Json → Prop
  | [] => True
  | item :: items => Plain item ∧ PlainItems items

/-- All names and values are plain. -/
def PlainMembers : List (Text × Json) → Prop
  | [] => True
  | (name, value) :: members => PlainText name ∧ Plain value ∧ PlainMembers members

end

/-! ## Strings -/

theorem escape_of_plain {c : Char} (plain : isPlain c = true) : escape (.char c) = [c] := by
  simp only [isPlain, Bool.and_eq_true, decide_eq_true_eq] at plain
  obtain ⟨⟨⟨low, high⟩, unquoted⟩, unescaped⟩ := plain
  have quote : ¬c.toNat = '"'.toNat := fun same => unquoted (Char.toNat_inj.mp same)
  have backslash : ¬c.toNat = '\\'.toNat := fun same => unescaped (Char.toNat_inj.mp same)
  simp only [escape, CodePoint.val, quote, backslash, low, high, decide_true, decide_false,
    Bool.or_self, Bool.and_self, Bool.false_eq_true, if_false, if_true, Char.ofNat_toNat]

theorem flatMap_escape_of_plain {s : List Char} (plain : ∀ c ∈ s, isPlain c = true) :
    (Text.ofChars s).flatMap escape = s := by
  induction s with
  | nil => rfl
  | cons c s ih =>
    have first := escape_of_plain (plain c List.mem_cons_self)
    have rest := ih fun d member => plain d (List.mem_cons_of_mem c member)
    show escape (.char c) ++ (Text.ofChars s).flatMap escape = c :: s
    rw [first, rest]
    rfl

theorem ofString_quoted {s : List Char} (plain : ∀ c ∈ s, isPlain c = true) :
    Text.ofString (quoted (.ofChars s)) = .char '"' :: (Text.ofChars s ++ [.char '"']) := by
  rw [quoted, flatMap_escape_of_plain plain, Text.ofString_ofList]
  simp [Text.ofChars]

/-- A plain string is read up to its closing quote. -/
theorem stringFrom_plain {s : List Char} (plain : ∀ c ∈ s, isPlain c = true) {fuel : Nat}
    (enough : s.length < fuel) (opened read rest : Text) :
    stringFrom opened fuel read (Text.ofChars s ++ .char '"' :: rest) =
      .ok (read.reverse ++ Text.ofChars s, rest) := by
  induction s generalizing fuel read with
  | nil =>
    cases fuel with
    | zero => exact absurd enough (Nat.not_lt_zero 0)
    | succ fuel => simp [Text.ofChars, stringFrom]
  | cons c s ih =>
    cases fuel with
    | zero => exact absurd enough (Nat.not_lt_zero _)
    | succ fuel =>
      have first := plain c List.mem_cons_self
      simp only [isPlain, Bool.and_eq_true, decide_eq_true_eq] at first
      obtain ⟨⟨⟨low, _⟩, unquoted⟩, unescaped⟩ := first
      have visible : ¬c.toNat < 0x20 := Nat.not_lt.mpr low
      have later := ih (fun d member => plain d (List.mem_cons_of_mem c member))
        (Nat.lt_of_succ_lt_succ enough) (.char c :: read)
      show stringFrom opened (fuel + 1) read (.char c :: (Text.ofChars s ++ .char '"' :: rest)) = _
      simp only [stringFrom, CodePoint.char.injEq, unquoted, unescaped, CodePoint.val, visible,
        if_false, later]
      simp [Text.ofChars]

/-! ## Blanks -/

theorem skipBlank_append {blanks : Text} (blank : ∀ p ∈ blanks, isBlank p = true) (s : Text) :
    skipBlank (blanks ++ s) = skipBlank s := by
  induction blanks with
  | nil => rfl
  | cons p blanks ih =>
    rw [List.cons_append, skipBlank, List.dropWhile_cons_of_pos (blank p List.mem_cons_self)]
    exact ih fun q member => blank q (List.mem_cons_of_mem p member)

theorem skipBlank_cons {p : CodePoint} (dark : isBlank p = false) (s : Text) :
    skipBlank (p :: s) = p :: s :=
  List.dropWhile_cons_of_neg (by rw [dark]; decide)

theorem blank_lineBreak (layout : Layout) (depth : Nat) :
    ∀ p ∈ Text.ofString (layout.lineBreak depth), isBlank p = true := by
  cases layout with
  | oneLine =>
    intro p member
    cases member
  | indented width =>
    intro p member
    rw [Layout.lineBreak, Text.ofString_append, Text.ofString_ofList (List.replicate _ _)] at member
    rcases List.mem_append.mp member with member | member
    · rw [List.mem_singleton.mp member]
      decide
    · obtain ⟨c, among, rfl⟩ := List.mem_map.mp member
      rw [(List.mem_replicate.mp among).2]
      decide

/-- A separator is a comma and blanks. -/
theorem ofString_separator (layout : Layout) (depth : Nat) :
    ∃ blanks, Text.ofString (layout.separator depth) = .char ',' :: blanks ∧
      ∀ p ∈ blanks, isBlank p = true := by
  cases layout with
  | oneLine =>
    have written : Text.ofString ", " = [.char ',', .char ' '] := by decide
    refine ⟨[.char ' '], written, ?_⟩
    intro p member
    rw [List.mem_singleton.mp member]
    decide
  | indented width =>
    refine ⟨_, ?_, blank_lineBreak (.indented width) depth⟩
    have comma : Text.ofString "," = [.char ','] := by decide
    show Text.ofString ("," ++ _) = _
    rw [Text.ofString_append, comma]
    rfl

/-! ## Lists and objects as they are written -/

theorem ofString_enclose_nil (layout : Layout) (depth : Nat) (opening closing : String) :
    Text.ofString (layout.enclose depth opening closing []) =
      Text.ofString opening ++ Text.ofString closing :=
  Text.ofString_append opening closing

theorem ofString_enclose (layout : Layout) (depth : Nat) (opening closing : String)
    {texts : List String} (some : texts ≠ []) :
    Text.ofString (layout.enclose depth opening closing texts) =
      Text.ofString opening ++ (Text.ofString (layout.lineBreak (depth + 1)) ++
        (Text.ofString (String.intercalate (layout.separator (depth + 1)) texts) ++
          (Text.ofString (layout.lineBreak depth) ++ Text.ofString closing))) := by
  cases texts with
  | nil => exact absurd rfl some
  | cons text texts => simp only [Layout.enclose, Text.ofString_append, List.append_assoc]

theorem ofString_intercalate_cons (separator text next : String) (texts : List String) :
    Text.ofString (String.intercalate separator (text :: next :: texts)) =
      Text.ofString text ++ (Text.ofString separator ++
        Text.ofString (String.intercalate separator (next :: texts))) := by
  rw [String.intercalate_cons_cons, Text.ofString_append, Text.ofString_append, List.append_assoc]

theorem ofString_bracket : Text.ofString "[" = [.char '['] ∧ Text.ofString "]" = [.char ']'] := by
  decide

theorem ofString_brace :
    Text.ofString "\x7b" = [.char '\x7b'] ∧ Text.ofString "\x7d" = [.char '\x7d'] := by
  decide

theorem ofString_colon : Text.ofString ": " = [.char ':', .char ' '] := by
  decide

/-! ## Values -/

/-- How the texts of plain values begin. None of these characters is a blank, and none closes a
list. -/
def Begins (s : Text) : Prop :=
  ∃ c rest, s = .char c :: rest ∧ (c = '"' ∨ c = '[' ∨ c = '\x7b')

theorem Begins.skipBlank {s : Text} (begins : Begins s) : Json.skipBlank s = s := by
  obtain ⟨c, rest, rfl, first⟩ := begins
  apply skipBlank_cons
  rcases first with rfl | rfl | rfl <;> decide

theorem Begins.append {s : Text} (begins : Begins s) (rest : Text) : Begins (s ++ rest) := by
  obtain ⟨c, more, rfl, first⟩ := begins
  exact ⟨c, more ++ rest, rfl, first⟩

theorem begins_enclose (layout : Layout) (depth : Nat) {opening : String} (closing : String)
    (texts : List String) (begins : Begins (.ofString opening)) :
    Begins (.ofString (layout.enclose depth opening closing texts)) := by
  cases texts with
  | nil =>
    rw [ofString_enclose_nil]
    exact begins.append _
  | cons text texts =>
    rw [ofString_enclose layout depth opening closing (List.cons_ne_nil text texts)]
    exact begins.append _

theorem begins_printAt {value : Json} (plain : Plain value) (layout : Layout) (depth : Nat) :
    Begins (.ofString (value.printAt layout depth)) := by
  cases value with
  | string s =>
    obtain ⟨t, rfl, plain⟩ := plain
    exact ⟨_, _, ofString_quoted plain, .inl rfl⟩
  | array items =>
    unfold printAt
    exact begins_enclose layout depth _ _ ⟨_, _, ofString_bracket.1, .inr (.inl rfl)⟩
  | object members =>
    unfold printAt
    exact begins_enclose layout depth _ _ ⟨_, _, ofString_brace.1, .inr (.inr rfl)⟩
  | _ => exact absurd plain id

/-! ## What the readers take -/

/-- A member, with a value in front of what follows it. -/
def memberText (name : List Char) (value : Text) : Text :=
  .char '"' :: (Text.ofChars name ++ .char '"' :: .char ':' :: .char ' ' :: value)

section Readers

variable {fuel : Nat} {blanks s rest : Text} (blank : ∀ p ∈ blanks, isBlank p = true)
include blank

theorem valueFrom_list (begins : Begins s) :
    valueFrom (fuel + 1) (.char '[' :: (blanks ++ s)) = itemsFrom fuel [] s := by
  simp only [valueFrom, skipBlank_append blank, begins.skipBlank]
  obtain ⟨c, more, rfl, first⟩ := begins
  rcases first with rfl | rfl | rfl <;> rfl

theorem valueFrom_object :
    valueFrom (fuel + 1) (.char '\x7b' :: (blanks ++ .char '"' :: s)) =
      membersFrom fuel [] (.char '"' :: s) := by
  simp only [valueFrom, skipBlank_append blank]
  rfl

theorem itemsFrom_last {item : Json} {before : List Json}
    (taken : valueFrom fuel s = .ok (item, blanks ++ .char ']' :: rest)) :
    itemsFrom (fuel + 1) before s = .ok (.array (before.reverse ++ [item]), rest) := by
  simp only [itemsFrom, taken, bind, Except.bind, skipBlank_append blank]
  rw [← List.reverse_cons]
  rfl

theorem itemsFrom_more {item : Json} {before : List Json} (begins : Begins rest)
    (taken : valueFrom fuel s = .ok (item, .char ',' :: (blanks ++ rest))) :
    itemsFrom (fuel + 1) before s = itemsFrom fuel (item :: before) rest := by
  have dark : isBlank (.char ',') = false := by decide
  simp only [itemsFrom, taken, bind, Except.bind, skipBlank_cons dark, skipBlank_append blank,
    begins.skipBlank]

omit blank in
/-- A member is read up to its value, and it is the value that decides what follows it. -/
theorem membersFrom_member {name : List Char} (plain : ∀ c ∈ name, isPlain c = true)
    (enough : name.length < fuel) (begins : Begins s) (before : Members) :
    membersFrom (fuel + 1) before (memberText name s) = (do
      let (value, rest) ← valueFrom fuel s
      match skipBlank rest with
      | .char '\x7d' :: rest =>
        return (.object (Members.gather ((.ofChars name, value) :: before)), rest)
      | .char ',' :: rest =>
        membersFrom fuel ((.ofChars name, value) :: before) (skipBlank rest)
      | rest => throw (.defect .comma rest)) := by
  have dark : isBlank (.char ':') = false := by decide
  have space : ∀ p ∈ [CodePoint.char ' '], isBlank p = true := by decide
  have behind : skipBlank (.char ' ' :: s) = s :=
    (skipBlank_append space s).trans begins.skipBlank
  simp only [membersFrom, memberText, stringFrom_plain plain enough, bind, Except.bind,
    skipBlank_cons dark, behind, toList_collect]
  rfl

theorem membersFrom_last {name : List Char} (plain : ∀ c ∈ name, isPlain c = true)
    (enough : name.length < fuel) (begins : Begins s) {value : Json} {before : Members}
    (taken : valueFrom fuel s = .ok (value, blanks ++ .char '\x7d' :: rest)) :
    membersFrom (fuel + 1) before (memberText name s) =
      .ok (.object (Members.gather ((.ofChars name, value) :: before)), rest) := by
  rw [membersFrom_member plain enough begins]
  simp only [taken, bind, Except.bind, skipBlank_append blank]
  rfl

theorem membersFrom_more {name : List Char} (plain : ∀ c ∈ name, isPlain c = true)
    (enough : name.length < fuel) (begins : Begins s) {value : Json} {before : Members}
    (taken : valueFrom fuel s = .ok (value, .char ',' :: (blanks ++ .char '"' :: rest))) :
    membersFrom (fuel + 1) before (memberText name s) =
      membersFrom fuel ((.ofChars name, value) :: before) (.char '"' :: rest) := by
  have dark : isBlank (.char ',') = false := by decide
  have quote : isBlank (.char '"') = false := by decide
  rw [membersFrom_member plain enough begins]
  simp only [taken, bind, Except.bind, skipBlank_cons dark, skipBlank_append blank,
    skipBlank_cons quote]

end Readers

/-! ## Reading what was written -/

theorem ofString_member {name : List Char} (plain : ∀ c ∈ name, isPlain c = true)
    (value : String) : Text.ofString (quoted (.ofChars name) ++ ": " ++ value) =
      memberText name (.ofString value) := by
  rw [Text.ofString_append, Text.ofString_append, ofString_quoted plain, ofString_colon]
  simp [memberText]

theorem memberText_append (name : List Char) (value rest : Text) :
    memberText name value ++ rest = memberText name (value ++ rest) := by
  simp [memberText]

theorem begins_printItems {items : List Json} (plain : PlainItems items) (some : items ≠ [])
    (layout : Layout) (depth : Nat) :
    Begins (.ofString (String.intercalate (layout.separator depth)
      (printItems layout depth items))) := by
  cases items with
  | nil => exact absurd rfl some
  | cons item items =>
    have begins := begins_printAt plain.1 layout depth
    cases items with
    | nil => rwa [printItems, printItems, String.intercalate_singleton]
    | cons next items =>
      rw [printItems, printItems, ofString_intercalate_cons]
      exact begins.append _

theorem quoted_printMembers {members : Members} (plain : PlainMembers members)
    (some : members ≠ []) (layout : Layout) (depth : Nat) :
    ∃ more, Text.ofString (String.intercalate (layout.separator depth)
      (printMembers layout depth members)) = .char '"' :: more := by
  cases members with
  | nil => exact absurd rfl some
  | cons member members =>
    obtain ⟨name, value⟩ := member
    obtain ⟨⟨name, rfl, plainName⟩, _⟩ := plain
    cases members with
    | nil =>
      rw [printMembers, printMembers, String.intercalate_singleton, ofString_member plainName]
      exact ⟨_, rfl⟩
    | cons next members =>
      rw [printMembers, printMembers, ofString_intercalate_cons, ofString_member plainName]
      exact ⟨_, rfl⟩

/-- Members without a name twice are collected as they are. -/
theorem Members.foldl_assign {before members : Members}
    (nodup : ((before ++ members).map Prod.fst).Nodup) :
    members.foldl (fun collected member => collected.assign member.1 member.2) before =
      before ++ members := by
  induction members generalizing before with
  | nil => rw [List.foldl_nil, List.append_nil]
  | cons member members ih =>
    have split : before ++ member :: members = (before ++ [member]) ++ members := by simp
    rw [split] at nodup ⊢
    have fresh : member.1 ∉ before.map Prod.fst := by
      rw [List.map_append, List.map_append] at nodup
      have front := (List.nodup_append.mp nodup).1
      intro present
      exact (List.nodup_append.mp front).2.2 _ present _ List.mem_cons_self rfl
    rw [List.foldl_cons, assign_of_not_mem fresh]
    exact ih nodup

/-- What was read is kept in reverse, and is collected from its first member on. -/
theorem Members.gather_reverse {members : Members} (nodup : (members.map Prod.fst).Nodup) :
    gather members.reverse = members := by
  rw [gather, List.foldr_reverse]
  exact foldl_assign nodup

-- Each value takes two units of fuel, one for itself and one in the list that it stands in, and has
-- at least one character. So twice the length of a text is enough for what is read from it.
mutual

theorem valueFrom_printAt (value : Json) (plain : Plain value) (layout : Layout) (depth : Nat)
    (fuel : Nat) (enough : 2 * (Text.ofString (value.printAt layout depth)).length ≤ fuel)
    (rest : Text) :
    valueFrom fuel (Text.ofString (value.printAt layout depth) ++ rest) = .ok (value, rest) := by
  cases value with
  | string s =>
    obtain ⟨t, rfl, plain⟩ := plain
    rw [printAt, ofString_quoted plain] at enough ⊢
    simp only [List.length_cons, List.length_append, Text.ofChars, List.length_map,
      List.length_nil] at enough
    obtain ⟨fuel, rfl⟩ := Nat.exists_eq_add_one_of_ne_zero (n := fuel) (by omega)
    rw [List.cons_append, List.append_assoc, List.singleton_append]
    simp only [valueFrom, stringFrom_plain plain (show t.length < fuel by omega), bind,
      Except.bind]
    rfl
  | array items =>
    rw [printAt] at enough ⊢
    cases items with
    | nil =>
      rw [printItems, ofString_enclose_nil, ofString_bracket.1, ofString_bracket.2] at enough ⊢
      obtain ⟨fuel, rfl⟩ := Nat.exists_eq_add_one_of_ne_zero (n := fuel) (by
        simp only [List.length_append, List.length_singleton] at enough
        omega)
      rfl
    | cons item items =>
      have some : item :: items ≠ [] := List.cons_ne_nil item items
      have texts : printItems layout (depth + 1) (item :: items) ≠ [] := by simp [printItems]
      rw [ofString_enclose layout depth _ _ texts, ofString_bracket.1, ofString_bracket.2]
        at enough ⊢
      simp only [List.length_append, List.length_singleton] at enough
      obtain ⟨fuel, rfl⟩ := Nat.exists_eq_add_one_of_ne_zero (n := fuel) (by omega)
      have read := itemsFrom_printItems (item :: items) plain some layout (depth + 1) fuel
        (by omega) [] (blank_lineBreak layout depth) rest
      simp only [List.cons_append, List.nil_append, List.append_assoc]
      rw [valueFrom_list (blank_lineBreak layout (depth + 1))
        ((begins_printItems plain some layout (depth + 1)).append _)]
      exact read
  | object members =>
    obtain ⟨nodup, plain⟩ := plain
    rw [printAt] at enough ⊢
    cases members with
    | nil =>
      rw [printMembers, ofString_enclose_nil, ofString_brace.1, ofString_brace.2] at enough ⊢
      obtain ⟨fuel, rfl⟩ := Nat.exists_eq_add_one_of_ne_zero (n := fuel) (by
        simp only [List.length_append, List.length_singleton] at enough
        omega)
      rfl
    | cons member members =>
      have some : member :: members ≠ [] := List.cons_ne_nil member members
      have texts : printMembers layout (depth + 1) (member :: members) ≠ [] := by
        simp [printMembers]
      rw [ofString_enclose layout depth _ _ texts, ofString_brace.1, ofString_brace.2]
        at enough ⊢
      simp only [List.length_append, List.length_singleton] at enough
      obtain ⟨fuel, rfl⟩ := Nat.exists_eq_add_one_of_ne_zero (n := fuel) (by omega)
      have read := membersFrom_printMembers (member :: members) plain some layout (depth + 1) fuel
        (by omega) [] (blank_lineBreak layout depth) rest
      rw [List.append_nil, Members.gather_reverse nodup] at read
      -- The reader looks for the quote of the first name before it turns to the members.
      obtain ⟨more, quote⟩ := quoted_printMembers plain some layout (depth + 1)
      rw [quote] at read ⊢
      simp only [List.cons_append, List.nil_append, List.append_assoc] at read ⊢
      rw [valueFrom_object (blank_lineBreak layout (depth + 1))]
      exact read
  | _ => exact absurd plain id

theorem itemsFrom_printItems (items : List Json) (plain : PlainItems items) (some : items ≠ [])
    (layout : Layout) (depth fuel : Nat)
    (enough : 2 * (Text.ofString (String.intercalate (layout.separator depth)
      (printItems layout depth items))).length < fuel)
    (before : List Json) {blanks : Text} (blank : ∀ p ∈ blanks, isBlank p = true) (rest : Text) :
    itemsFrom fuel before (Text.ofString (String.intercalate (layout.separator depth)
        (printItems layout depth items)) ++ (blanks ++ .char ']' :: rest)) =
      .ok (.array (before.reverse ++ items), rest) := by
  cases items with
  | nil => exact absurd rfl some
  | cons item items =>
    obtain ⟨fuel, rfl⟩ := Nat.exists_eq_add_one_of_ne_zero (n := fuel) (by omega)
    cases items with
    | nil =>
      rw [printItems, printItems, String.intercalate_singleton] at enough ⊢
      exact itemsFrom_last blank
        (valueFrom_printAt item plain.1 layout depth fuel (by omega) (blanks ++ .char ']' :: rest))
    | cons next items =>
      have later : next :: items ≠ [] := List.cons_ne_nil next items
      obtain ⟨gap, comma, gapBlank⟩ := ofString_separator layout depth
      rw [printItems, printItems, ofString_intercalate_cons, comma] at enough ⊢
      simp only [List.length_append, List.length_cons] at enough
      have begins := begins_printItems plain.2 later layout depth
      have more := itemsFrom_printItems (next :: items) plain.2 later layout depth fuel
        (by rw [printItems]; omega) (item :: before) blank rest
      rw [printItems] at begins more
      rw [List.append_assoc, List.append_assoc, List.cons_append]
      rw [itemsFrom_more gapBlank (begins.append _)
        (valueFrom_printAt item plain.1 layout depth fuel (by omega) _), more]
      simp

theorem membersFrom_printMembers (members : List (Text × Json)) (plain : PlainMembers members)
    (some : members ≠ []) (layout : Layout) (depth fuel : Nat)
    (enough : 2 * (Text.ofString (String.intercalate (layout.separator depth)
      (printMembers layout depth members))).length < fuel)
    (before : Members) {blanks : Text} (blank : ∀ p ∈ blanks, isBlank p = true) (rest : Text) :
    membersFrom fuel before (Text.ofString (String.intercalate (layout.separator depth)
        (printMembers layout depth members)) ++ (blanks ++ .char '\x7d' :: rest)) =
      .ok (.object (Members.gather (members.reverse ++ before)), rest) := by
  cases members with
  | nil => exact absurd rfl some
  | cons member members =>
    obtain ⟨name, value⟩ := member
    obtain ⟨⟨name, rfl, plainName⟩, plainValue, plainMembers⟩ := plain
    have begins := begins_printAt plainValue layout depth
    obtain ⟨fuel, rfl⟩ := Nat.exists_eq_add_one_of_ne_zero (n := fuel) (by omega)
    cases members with
    | nil =>
      rw [printMembers, printMembers, String.intercalate_singleton, ofString_member plainName]
        at enough ⊢
      simp only [memberText, List.length_cons, List.length_append, Text.ofChars, List.length_map]
        at enough
      rw [memberText_append]
      exact membersFrom_last blank plainName (by omega) (begins.append _)
        (valueFrom_printAt value plainValue layout depth fuel (by omega)
          (blanks ++ .char '\x7d' :: rest))
    | cons next members =>
      have later : next :: members ≠ [] := List.cons_ne_nil next members
      obtain ⟨gap, comma, gapBlank⟩ := ofString_separator layout depth
      obtain ⟨more, quote⟩ := quoted_printMembers plainMembers later layout depth
      rw [printMembers] at enough ⊢
      -- The texts of the other members are not looked into, so they are left as they are.
      obtain ⟨text, texts, listed⟩ : ∃ text texts,
          printMembers layout depth (next :: members) = text :: texts := ⟨_, _, rfl⟩
      have read := membersFrom_printMembers (next :: members) plainMembers later layout depth fuel
      rw [listed] at enough quote read ⊢
      rw [ofString_intercalate_cons, ofString_member plainName, comma] at enough ⊢
      simp only [memberText, List.length_append, List.length_cons, Text.ofChars, List.length_map]
        at enough
      have after := read (by omega) ((.ofChars name, value) :: before) blank rest
      rw [quote] at after ⊢
      have taken := valueFrom_printAt value plainValue layout depth fuel (by omega)
        (.char ',' :: (gap ++ .char '"' :: (more ++ (blanks ++ .char '\x7d' :: rest))))
      simp only [memberText_append, List.append_assoc, List.cons_append] at after ⊢
      rw [membersFrom_more gapBlank plainName (by omega) (begins.append _) taken, after]
      simp

end

/-- A plain value is read from its text, in whatever layout, if that is all there is. -/
theorem read_printAt {value : Json} (plain : Plain value) (layout : Layout) (depth : Nat) :
    read (.ofString (value.printAt layout depth)) = .ok value := by
  have begins := begins_printAt plain layout depth
  have unmarked : (Text.ofString (value.printAt layout depth)).head? ≠ some (.char '\uFEFF') := by
    obtain ⟨c, rest, same, first⟩ := begins
    rw [same, List.head?_cons]
    rcases first with rfl | rfl | rfl <;> decide
  have taken := valueFrom_printAt value plain layout depth _ (Nat.le_add_right _ 2) []
  rw [List.append_nil] at taken
  rw [read, document, if_neg unmarked, begins.skipBlank]
  simp only [taken, bind, Except.bind]
  rfl

end Json

end TapeMachine

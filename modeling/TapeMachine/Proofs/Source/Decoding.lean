import TapeMachine.CommandLine

/-!
# The program in the bytes of a source file

A source file may hold any bytes. It is decoded with a replacement for each ill-formed sequence, its
line ends are unified, and its commentary is dropped. What is left is exactly what the bytes spell
one by one, where a byte spells an instruction if it is the code of its symbol.

The codes of the symbols are below 128, and the decoder keeps such bytes out of everything else: no
character of several bytes is decoded to a number below 128, and no such byte continues a sequence,
so it ends a broken one and is then read for itself.

Results:
1. `taken_next`: a byte, in whatever state it finds the decoder, is read as what it spells.
2. `instructions_pieces`, `high_of_illFormed`: so are all bytes, and no broken sequence holds one
   that spells an instruction.
3. `ofFile_eq_spelled`: programs of source files are spelled by their bytes.
-/

namespace TapeMachine

/-! ## Bytes that spell an instruction -/

namespace Instruction

/-- The instruction whose symbol has the byte as its code. -/
def ofByte? (b : UInt8) : Option Instruction :=
  all.find? fun i => i.symbol.toNat == b.toNat

theorem symbol_lt (i : Instruction) : i.symbol.toNat < 128 := by
  cases i <;> decide

theorem ofByte?_eq_some_iff {b : UInt8} {i : Instruction} :
    ofByte? b = some i ↔ i.symbol.toNat = b.toNat := by
  constructor
  · intro found
    simpa using List.find?_some found
  · intro code
    cases found : ofByte? b with
    | none =>
      have missed := List.find?_eq_none.mp found i (mem_all i)
      simp [code] at missed
    | some j =>
      have same : j.symbol.toNat = b.toNat := by simpa using List.find?_some found
      rw [symbol_injective (Char.toNat_inj.mp (same.trans code.symm))]

theorem ofByte?_of_high {b : UInt8} (high : 128 ≤ b.toNat) : ofByte? b = none := by
  cases found : ofByte? b with
  | none => rfl
  | some i =>
    have code := ofByte?_eq_some_iff.mp found
    have low := i.symbol_lt
    omega

theorem ofSymbol?_of_low {b : UInt8} (low : b.toNat < 128) :
    ofSymbol? (Char.ofNat b.toNat) = ofByte? b := by
  have valid : b.toNat.isValidChar := .inl (by omega)
  apply Option.ext
  intro i
  rw [ofSymbol?_eq_some_iff, ofByte?_eq_some_iff, ← Char.toNat_inj,
    CodePoint.toNat_ofNat valid, eq_comm]

/-- No character from 128 on is a symbol, and neither is what stands for a number that is no
character. -/
theorem ofSymbol?_of_high {n : Nat} (high : 128 ≤ n) : ofSymbol? (Char.ofNat n) = none := by
  cases found : ofSymbol? (Char.ofNat n) with
  | none => rfl
  | some i =>
    have same := ofSymbol?_eq_some_iff.mp found
    by_cases valid : n.isValidChar
    · have low := i.symbol_lt
      rw [← same, CodePoint.toNat_ofNat valid] at low
      omega
    · rw [Char.ofNat, dif_neg valid] at same
      cases i <;> cases same

end Instruction

/-! ## One byte -/

namespace Utf8

/-- The instruction that a piece spells. -/
def Piece.instruction? (piece : Piece) : Option Instruction :=
  Instruction.ofSymbol? piece.replaced

/-- The bits of a character under way make a number from 128 on, whatever bytes follow within the
bounds, and no byte of it so far is below 128. -/
structure Wide (value more : Nat) (low high : UInt8) (seen : List UInt8) : Prop where
  bounds : 128 ≤ low.toNat ∧ high.toNat < 192
  grows : 2 ≤ value ∨ more ≠ 0 ∧ (1 ≤ value ∨ 144 ≤ low.toNat)
  seen : ∀ b ∈ seen, 128 ≤ b.toNat

/-- Where a decoder can stand. -/
def State.Sound : State → Prop
  | .ready => True
  | .within value more low high seen => Wide value more low high seen

/-- A byte was read as what it spells: the decoder stands where it can, and of the pieces found no
broken one holds a byte below 128, and together they spell what the byte spells. -/
structure Taken (b : UInt8) (result : State × List Piece) : Prop where
  sound : result.1.Sound
  broken : ∀ bytes defect, .illFormed bytes defect ∈ result.2 → ∀ c ∈ bytes, 128 ≤ c.toNat
  spelled : result.2.filterMap Piece.instruction? = (Instruction.ofByte? b).toList

theorem taken_char {b : UInt8} {state : State} {c : Char} (sound : state.Sound)
    (same : Instruction.ofSymbol? c = Instruction.ofByte? b) : Taken b (state, [.char c]) := by
  refine ⟨sound, ?_, ?_⟩
  · intro bytes defect member
    cases List.mem_singleton.mp member
  · rw [List.filterMap_cons, Piece.instruction?, Piece.replaced, same]
    cases Instruction.ofByte? b <;> rfl

theorem taken_nothing {b : UInt8} {state : State} (sound : state.Sound)
    (high : 128 ≤ b.toNat) : Taken b (state, []) := by
  refine ⟨sound, ?_, ?_⟩
  · intro bytes defect member
    cases member
  · rw [Instruction.ofByte?_of_high high]
    rfl

theorem Taken.behind_broken {b : UInt8} {result : State × List Piece} (taken : Taken b result)
    {seen : List UInt8} (high : ∀ c ∈ seen, 128 ≤ c.toNat) (defect : Defect) :
    Taken b (result.1, .illFormed seen.reverse defect :: result.2) := by
  refine ⟨taken.sound, ?_, ?_⟩
  · intro bytes other member c within
    rcases List.mem_cons.mp member with same | member
    · cases same
      exact high c (List.mem_reverse.mp within)
    · exact taken.broken bytes other member c within
  · have nothing : (Piece.illFormed seen.reverse defect).instruction? = none := rfl
    rw [List.filterMap_cons_none nothing, taken.spelled]

theorem taken_lead (b : UInt8) : Taken b (lead b) := by
  have stray : 128 ≤ b.toNat → Taken b (.ready, [.illFormed [b] .startByte]) := by
    intro high
    have single : ∀ c ∈ [b], 128 ≤ c.toNat := by simpa using high
    have nothing : Taken b (.ready, []) := taken_nothing trivial high
    exact nothing.behind_broken single .startByte
  have opened : 128 ≤ b.toNat → ∀ {value more low high}, 128 ≤ low.toNat ∧ high.toNat < 192 →
      (2 ≤ value ∨ more ≠ 0 ∧ (1 ≤ value ∨ 144 ≤ low.toNat)) →
      Taken b (.within value more low high [b], []) := by
    intro high value more low high' bounds grows
    exact taken_nothing ⟨bounds, grows, by simpa using high⟩ high
  simp only [lead, UInt8.lt_iff_toNat_lt, UInt8.reduceToNat]
  split
  · next low => exact taken_char trivial (Instruction.ofSymbol?_of_low low)
  split
  · next high _ => exact stray (Nat.le_of_not_lt high)
  split
  · exact opened (by omega) (by decide) (by omega)
  split
  · refine opened (by omega) ?_ ?_
    · split <;> split <;> decide
    · -- Without bits in the first byte, the bounds demand some in the second one.
      split
      · exact .inr ⟨by decide, .inr (by decide)⟩
      · next differs =>
        have other : b.toNat ≠ 224 := fun same => differs (UInt8.toNat_inj.mp same)
        exact .inr ⟨by decide, .inl (by omega)⟩
  split
  · refine opened (by omega) ?_ ?_
    · split <;> split <;> decide
    · split
      · exact .inr ⟨by decide, .inr (by decide)⟩
      · next differs =>
        have other : b.toNat ≠ 240 := fun same => differs (UInt8.toNat_inj.mp same)
        exact .inr ⟨by decide, .inl (by omega)⟩
  · exact stray (by omega)

/-- A byte, in whatever state it finds the decoder, is read as what it spells. -/
theorem taken_next {state : State} (sound : state.Sound) (b : UInt8) : Taken b (next state b) := by
  cases state with
  | ready => exact taken_lead b
  | within value more low high seen =>
    have wide : Wide value more low high seen := sound
    obtain ⟨⟨lowest, highest⟩, grows, seenHigh⟩ := wide
    simp only [next, UInt8.le_iff_toNat_le]
    split
    · next inside =>
      -- The byte adds six bits, so what was at least `2` gets at least `128`.
      have bits : b.toNat % 64 = b.toNat - 128 := by omega
      have spelled : 128 ≤ b.toNat := by omega
      cases more with
      | zero =>
        refine taken_char trivial ?_
        rw [Instruction.ofByte?_of_high spelled, Instruction.ofSymbol?_of_high (by omega)]
      | succ more =>
        refine taken_nothing ⟨by decide, .inl (by omega), ?_⟩ spelled
        intro c member
        rcases List.mem_cons.mp member with rfl | member
        · exact spelled
        · exact seenHigh c member
    · -- A byte that does not fit ends the sequence and is read once more, as a first byte.
      exact (taken_lead b).behind_broken seenHigh .continuation

/-! ## All bytes -/

/-- What a decoder has read: it stands where it can, no broken piece found holds a byte below 128,
and the pieces found spell what the bytes spell. -/
structure Decoder.HasRead (d : Decoder) (bytes : List UInt8) : Prop where
  sound : d.state.Sound
  broken : ∀ broken defect, .illFormed broken defect ∈ d.found → ∀ c ∈ broken, 128 ≤ c.toNat
  spelled : d.found.reverse.filterMap Piece.instruction? = bytes.filterMap Instruction.ofByte?

theorem Decoder.HasRead.push {d : Decoder} {bytes : List UInt8} (read : d.HasRead bytes)
    (b : UInt8) : (d.push b).HasRead (bytes ++ [b]) := by
  have taken := taken_next read.sound b
  refine ⟨taken.sound, ?_, ?_⟩
  · intro broken defect member
    rcases List.mem_append.mp member with member | member
    · exact taken.broken broken defect (List.mem_reverse.mp member)
    · exact read.broken broken defect member
  · show ((next d.state b).2.reverse ++ d.found).reverse.filterMap Piece.instruction? = _
    rw [List.reverse_append, List.reverse_reverse, List.filterMap_append, List.filterMap_append,
      read.spelled, taken.spelled]
    cases spells : Instruction.ofByte? b <;> simp [spells]

theorem Decoder.HasRead.feed {d : Decoder} {bytes : List UInt8} (read : d.HasRead bytes)
    (more : List UInt8) : (d.feed more).HasRead (bytes ++ more) := by
  induction more generalizing d bytes with
  | nil => rwa [List.append_nil]
  | cons b more ih =>
    rw [← List.singleton_append, ← List.append_assoc]
    exact ih (read.push b)

theorem Decoder.hasRead_start : Decoder.start.HasRead [] := by
  refine ⟨trivial, ?_, rfl⟩
  intro broken defect member
  cases member

/-- At the end of the input a character under way is one more broken sequence. -/
theorem Decoder.HasRead.taken_finish {d : Decoder} {bytes : List UInt8} (read : d.HasRead bytes) :
    d.finish.filterMap Piece.instruction? = bytes.filterMap Instruction.ofByte? ∧
      ∀ broken defect, .illFormed broken defect ∈ d.finish → ∀ c ∈ broken, 128 ≤ c.toNat := by
  obtain ⟨state, found⟩ := d
  obtain ⟨sound, broken, spelled⟩ := read
  cases state with
  | ready =>
    refine ⟨spelled, ?_⟩
    intro bytes defect member
    exact broken bytes defect (List.mem_reverse.mp member)
  | within value more low high seen =>
    have wide : Wide value more low high seen := sound
    constructor
    · have nothing : (Piece.illFormed seen.reverse .endOfData).instruction? = none := rfl
      show (Piece.illFormed seen.reverse .endOfData :: found).reverse.filterMap _ = _
      rw [List.reverse_cons, List.filterMap_append, List.filterMap_cons_none nothing,
        List.filterMap_nil, List.append_nil, spelled]
    · intro bytes defect member c within
      rcases List.mem_cons.mp (List.mem_reverse.mp member) with same | member
      · cases same
        exact wide.seen c (List.mem_reverse.mp within)
      · exact broken bytes defect member c within

theorem instructions_pieces (content : List UInt8) :
    (pieces content).filterMap Piece.instruction? = content.filterMap Instruction.ofByte? :=
  (Decoder.hasRead_start.feed content).taken_finish.1

theorem high_of_illFormed {content broken : List UInt8} {defect : Defect}
    (found : .illFormed broken defect ∈ pieces content) {b : UInt8} (member : b ∈ broken) :
    128 ≤ b.toNat :=
  (Decoder.hasRead_start.feed content).taken_finish.2 broken defect found b member

theorem instructions_decodeReplacing (content : List UInt8) :
    (decodeReplacing content).filterMap Instruction.ofSymbol? =
      content.filterMap Instruction.ofByte? := by
  rw [decodeReplacing, List.filterMap_map, ← instructions_pieces]
  rfl

end Utf8

/-! ## Line ends -/

theorem Newline.instructions_unifyOnto (read s : List Char) :
    (unifyOnto read s).filterMap Instruction.ofSymbol? =
      (read.reverse ++ s).filterMap Instruction.ofSymbol? := by
  have feed : Instruction.ofSymbol? '\n' = none := rfl
  have return' : Instruction.ofSymbol? '\r' = none := rfl
  -- A line end is unified to a character that spells as little as those it consists of.
  fun_induction unifyOnto read s with
  | case1 read => rw [List.append_nil]
  | case2 read rest ih =>
    rw [ih]
    simp [feed, return']
  | case3 read rest _ ih =>
    rw [ih]
    simp [feed, return']
  | case4 read c rest _ _ ih =>
    rw [ih]
    simp

theorem Newline.instructions_unify (s : List Char) :
    (unify s).filterMap Instruction.ofSymbol? = s.filterMap Instruction.ofSymbol? :=
  instructions_unifyOnto [] s

/-! ## Source files -/

/-- The program that some bytes spell, one by one. -/
def Program.spelledBy (content : List UInt8) : Program :=
  .ofList (content.filterMap Instruction.ofByte?)

theorem Program.ofBytes_eq_spelledBy (content : List UInt8) : ofBytes content = spelledBy content := by
  rw [ofBytes, ofChars_eq_ofList, Newline.instructions_unify, Utf8.instructions_decodeReplacing,
    spelledBy]

open CommandLine in
/-- The program of a source file is spelled by its bytes, in file order, also when it is executed
from the command line. Reading the line ends makes no difference to it, and no sequence that is
replaced has a byte that spells an instruction. -/
theorem ofFile_eq_spelled (files : FileTree) (file : Text) :
    Program.ofFile files file = (files.read file).map Program.spelledBy ∧
      (∀ (w : Surroundings) (path : Path) (verbosity fuel : Nat),
        w.executeSource path verbosity fuel =
          match w.files.read path.text with
          | .error error => some (w.failToOpen path error)
          | .ok content => w.execute (.spelledBy content) verbosity fuel) ∧
      ∀ content : List UInt8,
        Program.ofChars (Utf8.decodeReplacing content) = .spelledBy content ∧
        Program.ofChars (Newline.unify (Utf8.decodeReplacing content)) = .spelledBy content ∧
        ∀ broken defect, .illFormed broken defect ∈ Utf8.pieces content →
          ∀ b ∈ broken, Instruction.ofByte? b = none := by
  have same : Program.ofBytes = Program.spelledBy := funext Program.ofBytes_eq_spelledBy
  refine ⟨by rw [Program.ofFile, same], ?_, ?_⟩
  · intro w path verbosity fuel
    rw [Surroundings.executeSource, Program.ofFile, same]
    cases w.files.read path.text <;> rfl
  · intro content
    refine ⟨?_, Program.ofBytes_eq_spelledBy content, ?_⟩
    · rw [Program.ofChars_eq_ofList, Utf8.instructions_decodeReplacing, Program.spelledBy]
    · intro broken defect found b member
      exact Instruction.ofByte?_of_high (Utf8.high_of_illFormed found member)

/-- A sequence cut off, one overlong and one with a surrogate, each in front of an instruction. -/
example : Program.ofBytes [0xE2, 0x82, 0x2B, 0xC0, 0xAF, 0x2D, 0xED, 0xA0, 0x80, 0x2E] =
    .ofList [.increment, .decrement, .output] := by decide +kernel

end TapeMachine

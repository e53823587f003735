import TapeMachine.Proofs.Brackets.Nesting
import TapeMachine.Proofs.Machine.Faults

/-!
# Partners that a jump finds

A bracket searches for its partner when it jumps, ahead from an opening bracket and back from a
closing one. The two searches find the same pairs, each from its own side, and the pairs of a
program do not cross.

A jump fails for want of a partner only. So the brackets of a program are balanced exactly if no
bracket ever fails, whatever the tape and the streams are; and a program whose brackets are not
balanced has one that fails on a tape that makes it jump.

Results:
1. `finds_iff`: a bracket finds the one that it matches.
2. `findMatch_pairs`: the search is its own inverse, and pairs are nested or disjoint.
3. `wellBracketed_iff_findMatch`: balance and freedom from faults of brackets.
-/

namespace TapeMachine

/-- The instructions strictly between two positions. -/
def Program.between (p : Program) (first last : Nat) : Program :=
  .ofList ((p.toList.take last).drop (first + 1))

/-- The tape with the same byte in every cell. -/
def Tape.filled (value : UInt8) : Tape :=
  ⟨.replicate tapeSize value⟩

theorem Tape.get_filled {place : Nat} (inside : place < tapeSize) (value : UInt8) :
    (filled value).get place = value := by
  simp [get, filled, inside]

namespace Machine

open Program

variable {p : Program}

/-! ## Searches and pairs -/

theorem findMatch_eq_ok_iff {i : Instruction} {origin position : Nat} {stride : Int}
    (fetched : p.fetch? origin = some i) :
    findMatch p origin stride = .ok position ↔ p.partner? i origin stride = some position := by
  simp only [findMatch, fetched]
  cases p.partner? i origin stride <;> simp

theorem findMatch_eq_unmatched_iff {i : Instruction} {origin : Nat} {stride : Int}
    (fetched : p.fetch? origin = some i) :
    findMatch p origin stride = .error (.fault (.unmatchedBracket i origin)) ↔
      p.partner? i origin stride = none := by
  simp only [findMatch, fetched]
  cases p.partner? i origin stride <;> simp

theorem findMatch_eq_outOfRange_iff {origin : Nat} {stride : Int} :
    findMatch p origin stride = .error .outOfRange ↔ p.size ≤ origin := by
  rw [← fetch?_eq_none_iff]
  cases fetched : p.fetch? origin with
  | none => simp [findMatch, fetched]
  | some i =>
    simp only [findMatch, fetched]
    cases p.partner? i origin stride <;> simp

theorem toOption_findMatch {i : Instruction} {origin : Nat} {stride : Int}
    (fetched : p.fetch? origin = some i) :
    (findMatch p origin stride).toOption = p.partner? i origin stride := by
  simp only [findMatch, fetched]
  cases p.partner? i origin stride <;> rfl

theorem findMatch_forward_eq_ok_iff {opening closing : Nat}
    (opens : p.fetch? opening = some .jumpForward) :
    findMatch p opening 1 = .ok closing ↔ p.Matched opening closing := by
  rw [findMatch_eq_ok_iff opens, partner?_forward_eq_some_iff opens]

theorem findMatch_backward_eq_ok_iff {opening closing : Nat}
    (closes : p.fetch? closing = some .jumpBackward) :
    findMatch p closing (-1) = .ok opening ↔ p.Matched opening closing := by
  rw [findMatch_eq_ok_iff closes, partner?_backward_eq_some_iff closes]

/-- The bracket at a position finds its partner at another one, in the direction in which it
jumps. -/
def Finds (p : Program) (position partner : Nat) : Prop :=
  ∃ i stride, Program.Directed i stride ∧ p.fetch? position = some i ∧
    findMatch p position stride = .ok partner

theorem finds_iff {position partner : Nat} :
    Finds p position partner ↔ p.Matched position partner ∨ p.Matched partner position := by
  constructor
  · rintro ⟨i, stride, ⟨rfl, rfl⟩ | ⟨rfl, rfl⟩, fetched, found⟩
    · exact .inl ((findMatch_forward_eq_ok_iff fetched).mp found)
    · exact .inr ((findMatch_backward_eq_ok_iff fetched).mp found)
  · rintro (matched | matched)
    · exact ⟨.jumpForward, 1, .inl ⟨rfl, rfl⟩, matched.opens,
        (findMatch_forward_eq_ok_iff matched.opens).mpr matched⟩
    · exact ⟨.jumpBackward, -1, .inr ⟨rfl, rfl⟩, matched.closes,
        (findMatch_backward_eq_ok_iff matched.closes).mpr matched⟩

/-- No two brackets have the same partner. -/
theorem Finds.unique {position other partner : Nat} (first : Finds p position partner)
    (second : Finds p other partner) : position = other := by
  rcases finds_iff.mp first with matched | matched <;>
    rcases finds_iff.mp second with same | same
  · exact matched.opening_unique same
  · -- A partner that closes one bracket cannot open the other.
    have opens := same.opens
    rw [matched.closes] at opens
    cases opens
  · have opens := matched.opens
    rw [same.closes] at opens
    cases opens
  · exact matched.closing_unique same

/-- The search back from a closing bracket finds an opening one exactly if the search ahead from
there finds the closing one. The opening bracket then stands in front of the closing one, and what
stands between them is balanced. Two pairs are disjoint or one of them lies strictly inside the
other, and no two brackets share a partner. Nothing is asked of the other brackets of the
program. -/
theorem findMatch_pairs (p : Program) :
    (∀ opening closing, p.fetch? opening = some .jumpForward →
      (findMatch p opening 1 = .ok closing ↔
        p.fetch? closing = some .jumpBackward ∧ findMatch p closing (-1) = .ok opening) ∧
      (findMatch p opening 1 = .ok closing →
        opening < closing ∧ (p.between opening closing).WellBracketed)) ∧
    (∀ opening closing other closer,
      p.fetch? opening = some .jumpForward → findMatch p opening 1 = .ok closing →
      p.fetch? other = some .jumpForward → findMatch p other 1 = .ok closer →
      (opening, closing) ≠ (other, closer) →
        closing < other ∨ closer < opening ∨
        opening < other ∧ closer < closing ∨ other < opening ∧ closing < closer) ∧
    ∀ position other partner, Finds p position partner → Finds p other partner →
      position = other := by
  refine ⟨?_, ?_, fun _ _ _ => Finds.unique⟩
  · intro opening closing opens
    rw [findMatch_forward_eq_ok_iff opens]
    refine ⟨⟨fun matched => ?_, fun ⟨closes, found⟩ => ?_⟩, fun matched => ?_⟩
    · exact ⟨matched.closes, (findMatch_backward_eq_ok_iff matched.closes).mpr matched⟩
    · exact (findMatch_backward_eq_ok_iff closes).mp found
    · refine ⟨matched.ordered, ?_⟩
      rw [WellBracketed, between, toList_ofList]
      exact matched.balanced
  · intro opening closing other closer opens found otherOpens otherFound differ
    have matched := (findMatch_forward_eq_ok_iff opens).mp found
    have second := (findMatch_forward_eq_ok_iff otherOpens).mp otherFound
    rcases Nat.lt_trichotomy opening other with before | rfl | behind
    · rcases matched.nested_or_disjoint second before with apart | inside
      · exact .inl apart
      · exact .inr (.inr (.inl ⟨before, inside⟩))
    · exact absurd (congrArg (Prod.mk opening) (matched.closing_unique second)) differ
    · rcases second.nested_or_disjoint matched behind with apart | inside
      · exact .inr (.inl apart)
      · exact .inr (.inr (.inr ⟨behind, inside⟩))

/-- Between a stray closing bracket and a stray opening one stands a loop inside a loop. -/
theorem findMatch_pairs_nested :
    let p := Program.ofList [.jumpBackward, .jumpForward, .jumpForward, .increment, .jumpBackward,
      .jumpBackward, .jumpForward]
    findMatch p 1 1 = .ok 5 ∧ findMatch p 5 (-1) = .ok 1 ∧ (p.between 1 5).WellBracketed ∧
      findMatch p 2 1 = .ok 4 ∧ 1 < 2 ∧ 4 < 5 := by
  intro p
  have outer : findMatch p 1 1 = .ok 5 := by decide
  have inner : findMatch p 2 1 = .ok 4 := by decide
  obtain ⟨pair, apart, _⟩ := findMatch_pairs p
  obtain ⟨inverse, inside⟩ := pair 1 5 rfl
  refine ⟨outer, (inverse.mp outer).2, (inside outer).2, inner, ?_⟩
  rcases apart 1 5 2 4 rfl outer rfl inner (by decide) with h | h | h | h
  · exact absurd h (by decide)
  · exact absurd h (by decide)
  · exact h
  · exact absurd h.1 (by decide)

/-! ## Balance and faults -/

variable {m : Machine} {i : Instruction} {stride : Int}

/-- A step that fails for want of a partner is that of a bracket that has none. -/
theorem unmatched_of_step (onTape : m.dataCursor < tapeSize) {opener : Instruction} {position : Nat}
    (failed : (m.step p).failure? = some (.fault (.unmatchedBracket opener position))) :
    ∃ stride, Program.Directed opener stride ∧ p.fetch? position = some opener ∧
      p.partner? opener position stride = none := by
  obtain ⟨i, fetched, fails⟩ := (failure?_step onTape).mp failed
  cases i with
  | moveRight => cases fails.2
  | moveLeft => cases fails.2
  | increment => exact fails.elim
  | decrement => exact fails.elim
  | output =>
    obtain ⟨_, _, same⟩ := fails
    cases same
  | input =>
    rcases fails with ⟨_, _, same⟩ | ⟨_, _, same⟩ <;> cases same
  | jumpForward =>
    obtain ⟨_, alone, same⟩ := fails
    cases same
    exact ⟨1, .inl ⟨rfl, rfl⟩, fetched, (partner?_forward_eq_none_iff fetched).mpr alone⟩
  | jumpBackward =>
    obtain ⟨_, alone, same⟩ := fails
    cases same
    exact ⟨-1, .inr ⟨rfl, rfl⟩, fetched, (partner?_backward_eq_none_iff fetched).mpr alone⟩

theorem step_of_balanced (balanced : p.WellBracketed) (onTape : m.dataCursor < tapeSize)
    (opener : Instruction) (position : Nat) :
    (m.step p).failure? ≠ some (.fault (.unmatchedBracket opener position)) := by
  intro failed
  obtain ⟨stride, directed, fetched, alone⟩ := unmatched_of_step onTape failed
  exact exists_partner_of_wellBracketed balanced directed fetched alone

theorem run_of_balanced (balanced : p.WellBracketed) (onTape : m.dataCursor < tapeSize) {fuel : Nat}
    {o : Outcome} (ran : m.run p fuel = some o) (opener : Instruction) (position : Nat) :
    o.failure? ≠ some (.fault (.unmatchedBracket opener position)) := by
  intro failed
  obtain ⟨n, _, ends⟩ := run_eq_some_iff.mp ran
  obtain ⟨after, failure?⟩ := o
  cases failed
  obtain ⟨last, steps, failing⟩ := ends_failed_iff.mp ends
  have lastOnTape : last.dataCursor < tapeSize :=
    steps.keeps (fun m => (step_cases p m).onTape) onTape
  exact step_of_balanced balanced lastOnTape opener position (by rw [failing])

/-- Each bracket jumps on some tape, wherever the data cursor is: an opening one on zeros, a closing
one on a tape that has none. -/
theorem exists_tape_jumps (directed : Program.Directed i stride) :
    ∃ tape : Tape, ∀ m : Machine, m.tape = tape → m.dataCursor < tapeSize →
      m.jumpStride? i = some stride := by
  rcases directed with ⟨rfl, rfl⟩ | ⟨rfl, rfl⟩
  · refine ⟨.blank, fun m blank _ => ?_⟩
    have zero : m.cell = 0 := by rw [cell, blank, Tape.get_blank]
    rw [jumpStride?, if_pos zero]
  · refine ⟨.filled 1, fun m filled onTape => ?_⟩
    have one : m.cell = 1 := by rw [cell, filled, Tape.get_filled onTape]
    rw [jumpStride?, one, if_neg (by decide)]

theorem step_of_alone (fetched : p.fetch? m.instCursor = some i)
    (jumps : m.jumpStride? i = some stride) (alone : p.partner? i m.instCursor stride = none) :
    m.step p = ⟨m.tick, some (.fault (.unmatchedBracket i m.instCursor))⟩ := by
  have same : p.fetch? m.tick.instCursor = some i := fetched
  have missing : p.partner? i m.tick.instCursor stride = none := alone
  rw [step_of_jump fetched jumps, jump_of_fetch? same, missing]
  rfl

/-- The brackets of a program are balanced exactly if the search from each of them finds a partner.
If they are, no step and no run fails for want of a partner, from whatever state and with whatever
streams. If they are not, there are a tape and a position of the program at which a step does. -/
theorem wellBracketed_iff_findMatch (p : Program) :
    (p.WellBracketed ↔
      (∀ opening, p.fetch? opening = some .jumpForward →
        ∃ closing, findMatch p opening 1 = .ok closing) ∧
      ∀ closing, p.fetch? closing = some .jumpBackward →
        ∃ opening, findMatch p closing (-1) = .ok opening) ∧
    (p.WellBracketed → ∀ m : Machine, m.dataCursor < tapeSize → ∀ opener position,
      (m.step p).failure? ≠ some (.fault (.unmatchedBracket opener position)) ∧
      ∀ fuel o, m.run p fuel = some o →
        o.failure? ≠ some (.fault (.unmatchedBracket opener position))) ∧
    (¬p.WellBracketed → ∃ (tape : Tape) (position : Nat) (opener : Instruction),
      position < p.size ∧ ∀ m : Machine, m.tape = tape → m.instCursor = position →
        m.dataCursor < tapeSize →
          m.step p = ⟨m.tick, some (.fault (.unmatchedBracket opener position))⟩) := by
  refine ⟨?_, fun balanced m onTape opener position => ?_, fun unbalanced => ?_⟩
  · rw [wellBracketed_iff_partner?]
    constructor
    · intro partnered
      refine ⟨fun opening opens => ?_, fun closing closes => ?_⟩
      · obtain ⟨closing, found⟩ := Option.ne_none_iff_exists'.mp
          (partnered _ 1 opening (.inl ⟨rfl, rfl⟩) opens)
        exact ⟨closing, (findMatch_eq_ok_iff opens).mpr found⟩
      · obtain ⟨opening, found⟩ := Option.ne_none_iff_exists'.mp
          (partnered _ (-1) closing (.inr ⟨rfl, rfl⟩) closes)
        exact ⟨opening, (findMatch_eq_ok_iff closes).mpr found⟩
    · rintro ⟨ahead, back⟩ i stride position directed fetched
      rw [Option.ne_none_iff_exists']
      rcases directed with ⟨rfl, rfl⟩ | ⟨rfl, rfl⟩
      · obtain ⟨closing, found⟩ := ahead position fetched
        exact ⟨closing, (findMatch_eq_ok_iff fetched).mp found⟩
      · obtain ⟨opening, found⟩ := back position fetched
        exact ⟨opening, (findMatch_eq_ok_iff fetched).mp found⟩
  · exact ⟨step_of_balanced balanced onTape opener position,
      fun _ _ ran => run_of_balanced balanced onTape ran opener position⟩
  · obtain ⟨i, stride, position, directed, fetched, alone⟩ := exists_unmatched unbalanced
    obtain ⟨tape, jumps⟩ := exists_tape_jumps directed
    refine ⟨tape, position, i, lt_size_of_fetch? fetched, ?_⟩
    rintro m sameTape rfl onTape
    exact step_of_alone fetched (jumps m sameTape onTape) alone

/-- A loop that is closed once never fails for want of a partner; closed twice, it does on some
tape. -/
theorem wellBracketed_iff_findMatch_loop :
    let p := Program.ofList [.jumpForward, .input, .jumpBackward]
    let q := Program.ofList [.jumpForward, .input, .jumpBackward, .jumpBackward]
    let m := fresh (.ofBytes [1]) (.empty none)
    (p.WellBracketed ∧ m.dataCursor < tapeSize ∧
      (m.step p).failure? ≠ some (.fault (.unmatchedBracket .jumpForward 0))) ∧
    ¬q.WellBracketed ∧ ∃ tape position opener, position < 4 ∧ ∀ m : Machine, m.tape = tape →
      m.instCursor = position → m.dataCursor < tapeSize →
        m.step q = ⟨m.tick, some (.fault (.unmatchedBracket opener position))⟩ := by
  intro p q m
  have balanced : p.WellBracketed := by decide
  have unbalanced : ¬q.WellBracketed := by decide
  have onTape : m.dataCursor < tapeSize := show 0 < tapeSize by decide
  exact ⟨⟨balanced, onTape, ((wellBracketed_iff_findMatch p).2.1 balanced m onTape _ _).1⟩,
    unbalanced, (wellBracketed_iff_findMatch q).2.2 unbalanced⟩

end Machine

end TapeMachine

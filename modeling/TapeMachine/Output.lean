import TapeMachine.SystemError

/-!
# Output

The output collects bytes. It may be limited: a write that would take the total beyond the limit
fails and writes nothing.

Results:
1. `write_eq_ok_iff`: a write succeeds exactly if it fits, and then appends its bytes.
-/

namespace TapeMachine

/-- How much an output takes, and how a write beyond that fails. -/
structure OutputLimit where
  capacity : Nat
  error : SystemError
deriving DecidableEq, Repr

/-- An output: what has been written, how often it was flushed, and its limit. -/
structure Output where
  written : Array UInt8
  flushes : Nat
  limit? : Option OutputLimit
deriving DecidableEq, Repr

namespace Output

/-- An output to which nothing has been written. -/
def empty (limit? : Option OutputLimit) : Output :=
  ⟨#[], 0, limit?⟩

/-- The error with which a write of so many bytes fails, if it does. -/
def refusal? (o : Output) (count : Nat) : Option SystemError :=
  match o.limit? with
  | none => none
  | some limit => if o.written.size + count ≤ limit.capacity then none else some limit.error

/-- The output with some bytes more. -/
def append (o : Output) (bytes : List UInt8) : Output :=
  { o with written := o.written.appendList bytes }

/-- Writes some bytes. -/
def write (o : Output) (bytes : List UInt8) : Except SystemError Output :=
  match o.refusal? bytes.length with
  | none => .ok (o.append bytes)
  | some error => .error error

/-- Hands on what has been written. -/
def flush (o : Output) : Output :=
  { o with flushes := o.flushes + 1 }

@[simp] theorem refusal?_unlimited {o : Output} (unlimited : o.limit? = none) (count : Nat) :
    o.refusal? count = none := by
  simp [refusal?, unlimited]

theorem refusal?_eq_none_iff {o : Output} {limit : OutputLimit} (limited : o.limit? = some limit)
    {count : Nat} : o.refusal? count = none ↔ o.written.size + count ≤ limit.capacity := by
  simp [refusal?, limited]

@[simp] theorem written_append (o : Output) (bytes : List UInt8) :
    (o.append bytes).written.toList = o.written.toList ++ bytes := by
  simp [append]

theorem write_eq_ok_iff {o after : Output} {bytes : List UInt8} :
    o.write bytes = .ok after ↔ o.refusal? bytes.length = none ∧ after = o.append bytes := by
  unfold write
  split
  · next fits => simp [fits, eq_comm]
  · next refused => simp [refused]

end Output

end TapeMachine

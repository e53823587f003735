import TapeMachine.Number.Binary64
import TapeMachine.Text.CodePoint

/-!
# JSON values

Whole numbers are exact and the others are doubles; strings may hold lone surrogates; the members
of an object keep the order in which their names first appeared.

Results:
1. `lookup_assign_self`, `lookup_assign_other`: assigning a member changes that member only.
2. `names_assign_of_mem`: a name that is already there keeps its place.
-/

namespace TapeMachine

/-- A JSON value. -/
inductive Json
  | null
  | bool (value : Bool)
  | integer (value : Int)
  | float (value : Binary64)
  | string (value : Text)
  | array (items : List Json)
  | object (members : List (Text × Json))

namespace Json

/-- An ordinary text as a value. -/
def ofString (s : String) : Json :=
  .string (.ofString s)

/-- The members of an object, by name. -/
abbrev Members := List (Text × Json)

namespace Members

/-- The value of the member with a name. -/
def lookup (name : Text) : Members → Option Json
  | [] => none
  | (key, value) :: rest => if key = name then some value else lookup name rest

/-- Gives the member with a name a value; a new member goes to the end. -/
def assign (name : Text) (value : Json) : Members → Members
  | [] => [(name, value)]
  | (key, old) :: rest =>
    if key = name then (key, value) :: rest else (key, old) :: assign name value rest

@[simp] theorem lookup_assign_self (name : Text) (value : Json) (members : Members) :
    lookup name (assign name value members) = some value := by
  induction members with
  | nil => simp [assign, lookup]
  | cons member rest ih =>
    obtain ⟨key, old⟩ := member
    by_cases same : key = name <;> simp [assign, lookup, same, ih]

theorem lookup_assign_other {name other : Text} (differs : other ≠ name) (value : Json)
    (members : Members) : lookup other (assign name value members) = lookup other members := by
  induction members with
  | nil => simp [assign, lookup, Ne.symm differs]
  | cons member rest ih =>
    obtain ⟨key, old⟩ := member
    by_cases same : key = name
    · subst same
      simp [assign, lookup, Ne.symm differs]
    · simp only [assign, same, if_false, lookup, ih]

theorem names_assign_of_mem {name : Text} {members : Members}
    (present : name ∈ members.map Prod.fst) (value : Json) :
    (assign name value members).map Prod.fst = members.map Prod.fst := by
  induction members with
  | nil => simp at present
  | cons member rest ih =>
    obtain ⟨key, old⟩ := member
    by_cases same : key = name
    · simp [assign, same]
    · have later : name ∈ rest.map Prod.fst := by simpa [Ne.symm same] using present
      simp [assign, same, ih later]

end Members

/-- The member of an object with a name; other values have no members. -/
def member? (name : String) : Json → Option Json
  | .object members => Members.lookup (.ofString name) members
  | _ => none

end Json

end TapeMachine

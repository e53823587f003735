import Std.Data.HashMap
import TapeMachine.Json.Value

/-!
# Members of an object

An object is read one member after the other. Of members with the same name the last value counts,
in the place of the first, so each member read is assigned to those before it. The places of the
names are kept beside the members, so that an object with many members is read in one pass.

Results:
1. `toList_collect`: the members collected with their places are those that are assigned one by
   one.
-/

namespace TapeMachine.Json

namespace Members

/-- The members of an object from a list in which the latest comes first. -/
def gather (read : Members) : Members :=
  read.foldr (fun (name, value) members => members.assign name value) []

theorem assign_of_not_mem {name : Text} {members : Members}
    (fresh : name ∉ members.map Prod.fst) (value : Json) :
    assign name value members = members ++ [(name, value)] := by
  induction members with
  | nil => rfl
  | cons member rest ih =>
    obtain ⟨key, old⟩ := member
    simp only [List.map_cons, List.mem_cons, not_or] at fresh
    simp [assign, Ne.symm fresh.1, ih fresh.2]

theorem assign_of_getElem {name : Text} {members : Members} {place : Nat}
    (found : (members.map Prod.fst)[place]? = some name)
    (first : ∀ before, (members.map Prod.fst)[before]? = some name → before = place)
    (value : Json) : assign name value members = members.set place (name, value) := by
  induction members generalizing place with
  | nil => simp at found
  | cons member rest ih =>
    obtain ⟨key, old⟩ := member
    by_cases same : key = name
    · have start : 0 = place := first 0 (by simp [same])
      subst start
      simp [assign, same]
    · cases place with
      | zero => simp [same] at found
      | succ place =>
        have later := @ih place (by simpa using found) fun before here =>
          Nat.succ.inj (first (before + 1) (by simpa using here))
        simp [assign, same, later]

end Members

/-- Members under way, with the place of each name. -/
structure Collection where
  members : Array (Text × Json)
  places : Std.HashMap Text Nat

namespace Collection

/-- No members. -/
def empty : Collection := ⟨#[], ∅⟩

/-- The names of the members in order. -/
def names (c : Collection) : List Text :=
  c.members.toList.map Prod.fst

/-- Gives the member with a name a value; a new member goes to the end. -/
def assign : Collection → Text → Json → Collection
  | ⟨members, places⟩, name, value =>
    match places[name]? with
    | some place => ⟨members.setIfInBounds place (name, value), places⟩
    | none =>
      let size := members.size
      ⟨members.push (name, value), places.insert name size⟩

/-- Each name has its place, and no other. -/
def Indexed (c : Collection) : Prop :=
  ∀ (name : Text) (place : Nat), c.places[name]? = some place ↔ c.names[place]? = some name

theorem assign_eq (c : Collection) (name : Text) (value : Json) :
    c.assign name value =
      match c.places[name]? with
      | some place => ⟨c.members.setIfInBounds place (name, value), c.places⟩
      | none => ⟨c.members.push (name, value), c.places.insert name c.members.size⟩ := rfl

theorem indexed_empty : empty.Indexed := by
  intro name place
  simp [empty, names]

theorem toList_assign {c : Collection} (indexed : c.Indexed) (name : Text) (value : Json) :
    (c.assign name value).members.toList = Members.assign name value c.members.toList := by
  rw [assign_eq]
  split
  · next place found =>
    rw [Members.assign_of_getElem ((indexed name place).mp found)
      fun before here => Option.some.inj (((indexed name before).mpr here).symm.trans found)]
    simp
  · next absent =>
    rw [Members.assign_of_not_mem]
    · simp
    · intro member
      obtain ⟨place, here⟩ := List.getElem?_of_mem member
      rw [(indexed name place).mpr here] at absent
      cases absent

theorem indexed_assign {c : Collection} (indexed : c.Indexed) (name : Text) (value : Json) :
    (c.assign name value).Indexed := by
  intro other place
  rw [assign_eq]
  split
  · next held found =>
    have same : (c.members.setIfInBounds held (name, value)).toList.map Prod.fst =
        c.names := by
      have here := (indexed name held).mp found
      apply List.ext_getElem?
      intro position
      simp only [names] at here
      simp only [Array.toList_setIfInBounds, List.map_set, names]
      by_cases reached : held = position
      · subst reached
        rw [here, List.getElem?_set_self']
        simp [here]
      · rw [List.getElem?_set_ne reached]
    simp only [names] at same ⊢
    rw [same]
    exact indexed other place
  · next absent =>
    have fresh : c.members.size = c.names.length := by simp [names]
    have grown : names ⟨c.members.push (name, value), c.places.insert name c.members.size⟩ =
        c.names ++ [name] := by simp [names]
    rw [grown, Std.HashMap.getElem?_insert, List.getElem?_append]
    by_cases same : name = other
    · subst same
      simp only [beq_self_eq_true, if_true, Option.some.injEq, fresh]
      constructor
      · intro reached
        subst reached
        simp
      · intro reached
        split at reached
        · rw [(indexed name place).mpr reached] at absent
          cases absent
        · next beyond =>
          rw [List.getElem?_singleton] at reached
          split at reached
          · omega
          · cases reached
    · have differs : (name == other) = false := by simpa using same
      simp only [differs, Bool.false_eq_true, if_false, indexed other place]
      split
      · rfl
      · next beyond =>
        rw [List.getElem?_eq_none (Nat.not_lt.mp beyond), List.getElem?_singleton]
        split
        · simp [same]
        · simp

end Collection

/-- The members of an object from a list in which the latest comes first, with their places. -/
def collect (read : Members) : Collection :=
  read.foldr (fun (name, value) c => c.assign name value) .empty

theorem indexed_collect (read : Members) : (collect read).Indexed := by
  induction read with
  | nil => exact Collection.indexed_empty
  | cons member read ih => exact Collection.indexed_assign ih member.1 member.2

theorem toList_collect (read : Members) :
    (collect read).members.toList = Members.gather read := by
  induction read with
  | nil => rfl
  | cons member read ih =>
    rw [Members.gather, List.foldr_cons, ← Members.gather, ← ih]
    exact Collection.toList_assign (indexed_collect read) member.1 member.2

end TapeMachine.Json

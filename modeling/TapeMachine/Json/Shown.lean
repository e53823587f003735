import TapeMachine.Json.Value
import TapeMachine.Number.Shortest
import TapeMachine.Text.Quoted

/-!
# Values in messages

A message that rejects a value shows it on one line: the three constants by their names with a
capital, numbers in their shortest form, and strings, also those that name members, between
quotes with everything that is not printable escaped.
-/

namespace TapeMachine.Json

mutual

/-- The text of a value in a message. -/
def shown : Json → String
  | .null => "None"
  | .bool true => "True"
  | .bool false => "False"
  | .integer value => toString value
  | .float value => value.text
  | .string value => Quoted.quote value
  | .array items => "[" ++ String.intercalate ", " (shownItems items) ++ "]"
  | .object members => "\x7b" ++ String.intercalate ", " (shownMembers members) ++ "\x7d"

/-- The texts of the items of a list. -/
def shownItems : List Json → List String
  | [] => []
  | item :: items => item.shown :: shownItems items

/-- The texts of the members of an object. -/
def shownMembers : List (Text × Json) → List String
  | [] => []
  | (name, value) :: members =>
    (Quoted.quote name ++ ": " ++ value.shown) :: shownMembers members

end

end TapeMachine.Json

/-!
JSON values. The members of an object stay in the order in which they were written, and of
several members of one name the last one counts.
-/

namespace CellRunner.Json

inductive Value where
  | null
  | boolean (b : Bool)
  /-- A number as its numeral. -/
  | number (numeral : String)
  | string (s : String)
  | array (items : List Value)
  | object (members : List (String × Value))
deriving Repr

def Value.member? (members : List (String × Value)) (name : String) : Option Value :=
  (members.reverse.find? (·.1 == name)).map (·.2)

def Value.string? : Value → Option String
  | .string s => some s
  | _ => none

end CellRunner.Json

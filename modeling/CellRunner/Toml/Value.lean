/-!
TOML values. Floating-point numbers and dates are kept as they are written.
-/

namespace CellRunner.Toml

inductive Value where
  | string (s : String)
  | integer (n : Int)
  | float (numeral : String)
  | boolean (b : Bool)
  | dateTime (text : String)
  | array (items : List Value)
  | table (entries : List (String × Value))
deriving Repr

namespace Value

def string? : Value → Option String
  | .string s => some s
  | _ => none

def valueAt (entries : List (String × Value)) (key : String) : Option Value :=
  (entries.find? (·.1 == key)).map (·.2)

end Value

end CellRunner.Toml

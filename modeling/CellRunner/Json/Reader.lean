import CellRunner.Json.Token
import CellRunner.Json.Value

/-!
Reading JSON text, strictly: one value, without comments or commas at the end of a list. The
reader goes through the tokens once and keeps a stack of the containers that are open, which
may not be nested too deeply.
-/

namespace CellRunner.Json.Reader

/-- A container that is open, with its contents so far, the latest one first. -/
inductive Container where
  | array (items : List Value)
  /-- An object whose next value belongs to `name`. -/
  | object (members : List (String × Value)) (name : String)
deriving Repr

/-- What comes next. -/
inductive State where
  /-- A value; a closing bracket instead if the array on top has just been opened. -/
  | value (stack : List Container) (mayClose : Bool)
  /-- The name of a member; a closing brace instead if the object has just been opened. -/
  | name (stack : List Container) (members : List (String × Value)) (mayClose : Bool)
  | colon (stack : List Container) (members : List (String × Value)) (name : String)
  /-- A comma, or the end of the container on top. -/
  | more (top : Container) (stack : List Container)
  | finished (value : Value)
deriving Repr

/-- One more than the number of containers that may be open at once. -/
def depthLimit : Nat :=
  128

def complete (stack : List Container) (value : Value) : State :=
  match stack with
  | [] => .finished value
  | .array items :: stack => .more (.array (value :: items)) stack
  | .object members name :: stack => .more (.object ((name, value) :: members) name) stack

def openContainer? (stack : List Container) (opened : State) : Option State :=
  if stack.length + 1 < depthLimit then some opened else none

def startValue? (stack : List Container) : Token → Option State
  | .null => some (complete stack .null)
  | .boolean b => some (complete stack (.boolean b))
  | .number numeral => some (complete stack (.number numeral))
  | .string s => some (complete stack (.string s))
  | .openArray => openContainer? stack (.value (.array [] :: stack) true)
  | .openObject => openContainer? stack (.name stack [] true)
  | _ => none

def step? (state : State) (token : Token) : Option State :=
  match state, token with
  | .value (.array [] :: stack) true, .closeArray => some (complete stack (.array []))
  | .value stack _, token => startValue? stack token
  | .name stack members mayClose, .closeObject =>
      if mayClose then some (complete stack (.object members.reverse)) else none
  | .name stack members _, .string name => some (.colon stack members name)
  | .colon stack members name, .colon => some (.value (.object members name :: stack) false)
  | .more (.array items) stack, .comma => some (.value (.array items :: stack) false)
  | .more (.array items) stack, .closeArray =>
      some (complete stack (.array items.reverse))
  | .more (.object members _) stack, .comma => some (.name stack members false)
  | .more (.object members _) stack, .closeObject =>
      some (complete stack (.object members.reverse))
  | _, _ => none

def ofTokens? (tokens : List Token) : Option Value :=
  match tokens.foldlM step? (.value [] false) with
  | some (.finished value) => some value
  | _ => none

end Reader

/-- The value of a JSON text. -/
def Value.parse? (text : String) : Option Value :=
  (Token.ofText? text.toList).bind Reader.ofTokens?

end CellRunner.Json

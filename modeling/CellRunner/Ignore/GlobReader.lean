import CellRunner.Ignore.Glob

/-!
Reading glob patterns. A backslash takes the next character as it is, a bracket opens a class
of characters, and braces enclose alternatives between commas. A bracket that is never closed
stands for itself.
-/

namespace CellRunner.Ignore.GlobReader

inductive ClassReading where
  /-- A class, and the number of characters that it takes behind its opening bracket. -/
  | closed (negated : Bool) (ranges : List ClassRange) (consumed : Nat)
  | unclosed
  /-- A range whose last character goes before its first. -/
  | invalid

/-- What has been read of a class: its ranges, the latest one first, whether a dash waits for
the end of a range, and the number of characters. -/
structure ClassState where
  negated : Bool
  ranges : List ClassRange := []
  dash : Bool := false
  consumed : Nat

def ClassState.single (state : ClassState) (c : Char) : ClassState :=
  { state with
    ranges := ⟨c, c⟩ :: state.ranges, dash := false, consumed := state.consumed + 1 }

/-- Ends the latest range at `c`, where a dash stood before it. -/
def ClassState.extend? (state : ClassState) (c : Char) : Option ClassState :=
  match state.ranges with
  | range :: others =>
      if c < range.first then none
      else
        some { state with
          ranges := ⟨range.first, c⟩ :: others, dash := false,
          consumed := state.consumed + 1 }
  | [] => none

/-- A bracket right behind the opening belongs to the class, and so does a dash at either
end. -/
def readClassFrom (state : ClassState) : List Char → ClassReading
  | [] => .unclosed
  | c :: rest =>
      if c = ']' && !state.ranges.isEmpty then
        let ranges := if state.dash then ⟨'-', '-'⟩ :: state.ranges else state.ranges
        .closed state.negated ranges (state.consumed + 1)
      else if c = '-' && !state.ranges.isEmpty && !state.dash then
        readClassFrom { state with dash := true, consumed := state.consumed + 1 } rest
      else if state.dash then
        match state.extend? c with
        | none => .invalid
        | some extended => readClassFrom extended rest
      else readClassFrom (state.single c) rest

def readClass : List Char → ClassReading
  | '!' :: rest | '^' :: rest => readClassFrom ⟨true, [], false, 1⟩ rest
  | text => readClassFrom ⟨false, [], false, 0⟩ text

/-- An open brace: the branches that are complete, the latest one first, and the tokens in
front of the brace, the latest one first. -/
structure OpenChoice where
  branches : List (List GlobToken)
  before : List GlobToken

structure State where
  /-- The tokens of the present branch, the latest one first. -/
  tokens : List GlobToken := []
  choices : List OpenChoice := []
  previous : Option Char := none
  /-- Characters that have been read ahead. -/
  ahead : Nat := 0
  /-- Whether an unclosed bracket has been met, after which brackets stand for themselves. -/
  plainBrackets : Bool := false

def State.push (state : State) (token : GlobToken) (ahead : Nat) : State :=
  { state with tokens := token :: state.tokens, ahead := ahead }

/-- A double star, of which the second star is still ahead. It spans directories only where it
stands for whole components of the path. -/
def State.doubleStar (state : State) (next : Option Char) : State :=
  let plain := (state.push .many 1).push .many 1
  let slashNext := next == some '/'
  let endsBranch :=
    next.isNone || (!state.choices.isEmpty && (next == some ',' || next == some '\x7d'))
  match state.tokens with
  | [] => if next.isNone || slashNext then state.push .anyStart 2 else plain
  | token :: before =>
      if state.previous != some '/' || !(endsBranch || slashNext) then plain
      else
        let spanning : GlobToken :=
          match token with
          | .anyStart => .anyStart
          | .anyRest => .anyRest
          | _ => if endsBranch then .anyRest else .anyMiddle
        { state with
          tokens := spanning :: before, ahead := if slashNext then 2 else 1 }

/-- Takes one character into account, of which `rest` follows. -/
def State.step? (state : State) (c : Char) (rest : List Char) : Option State :=
  match c with
  | '?' => some (state.push .one 0)
  | '*' =>
      match rest with
      | '*' :: following => some (state.doubleStar following.head?)
      | _ => some (state.push .many 0)
  | '[' =>
      if state.plainBrackets then some (state.push (.literal c) 0)
      else
        match readClass rest with
        | .closed negated ranges consumed => some (state.push (.oneOf negated ranges) consumed)
        | .unclosed => some { state.push (.literal c) 0 with plainBrackets := true }
        | .invalid => none
  | '\x7b' => some { state with tokens := [], choices := ⟨[], state.tokens⟩ :: state.choices }
  | '\x7d' =>
      match state.choices with
      | [] => none
      | choice :: outer =>
          let branches := (state.tokens.reverse :: choice.branches).reverse
          some { state with tokens := .choice branches :: choice.before, choices := outer }
  | ',' =>
      match state.choices with
      | [] => some (state.push (.literal c) 0)
      | choice :: outer =>
          let branches := state.tokens.reverse :: choice.branches
          some { state with tokens := [], choices := ⟨branches, choice.before⟩ :: outer }
  | '\\' => rest.head?.map (fun next => state.push (.literal next) 1)
  | _ => some (state.push (.literal c) 0)

def State.readAll (state : State) : List Char → Option Glob
  | [] => if state.choices.isEmpty then some ⟨state.tokens.reverse⟩ else none
  | c :: rest =>
      if 0 < state.ahead then
        { state with ahead := state.ahead - 1, previous := some c }.readAll rest
      else
        match state.step? c rest with
        | none => none
        | some next => { next with previous := some c }.readAll rest

/-- Nothing for a pattern with an open brace, a stray closing one, a backslash at its end or a
class that runs backwards. -/
def read? (pattern : List Char) : Option Glob :=
  State.readAll {} pattern

end CellRunner.Ignore.GlobReader

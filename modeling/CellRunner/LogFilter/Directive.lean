import CellRunner.LogFilter.ValuePattern

/-!
A directive of a log filter names a target, a span in brackets or both, then a level behind an
equals sign; a level may also stand alone. A span may have fields in braces.

Blanks around a directive are passed over when its parts are found. The places of the parts are
counted without them, but the texts of the parts are cut from the directive as it was written,
so a level or a field is misread where blanks stand in front.
-/

namespace CellRunner.LogFilter

inductive DirectiveError where
  | malformed
  | unknownLevel
  | unsoundField (error : PatternError)
deriving DecidableEq, Repr

def DirectiveError.message : DirectiveError → String
  | .malformed => "invalid filter directive"
  | .unknownLevel =>
      "error parsing level filter: expected one of \"off\", \"error\", \"warn\", \"info\", "
        ++ "\"debug\", \"trace\", or a number 0-5"
  | .unsoundField error => "invalid field filter: " ++ error.message

def levelNames : List String :=
  ["off", "error", "warn", "info", "debug", "trace"]

/-- A level is given by its name in any case, or by its number. -/
def isLevel (text : String) : Bool :=
  levelNames.contains (String.ofList (text.toList.map Char.toLower))
    || (Text.Decimal.readWord? text).any (· < levelNames.length)

/-- What is wrong with a field, if anything is. Only a value can be. -/
def fieldError? (field : List Char) : Option PatternError :=
  match Text.fields (· == '=') field with
  | _ :: pattern :: _ => ValuePattern.error? pattern
  | _ => none

namespace Directive

/-- The text from the first character at or behind a place, counted in bytes. -/
def fromPlace : Nat → List Char → List Char
  | 0, text => text
  | _, [] => []
  | place + 1, c :: rest => fromPlace (place + 1 - c.utf8Size) rest

/-- The characters that begin in front of a place. -/
def upToPlace : Nat → List Char → List Char
  | 0, _ => []
  | _, [] => []
  | place + 1, c :: rest => c :: upToPlace (place + 1 - c.utf8Size) rest

/-- The part of a directive that is being read. -/
inductive Part where
  | unread
  /-- A target, or a level that stands alone. -/
  | word
  | span
  | field (place : Nat)
  /-- Behind the fields of a span. -/
  | fields
  /-- Behind a span. -/
  | closed
  | level (place : Nat)
deriving DecidableEq, Repr

def beginsWord (c : Char) : Bool :=
  c = '-' || c = ':' || c = '_' || Text.isAlphanumeric c

/-- Takes one character into account, which is at a place in the directive `text`. -/
def Part.step (text : List Char) (part : Part) (place : Nat) (c : Char)
    : Except DirectiveError Part :=
  match part, c with
  | .unread, '[' => .ok .span
  | .unread, c => if beginsWord c then .ok .word else .error .malformed
  | .word, '=' => .ok (.level (place + 1))
  | .word, '[' => .ok .span
  | .word, _ => .ok .word
  | .span, ']' => .ok .closed
  | .span, '\x7b' => .ok (.field (place + 1))
  | .span, _ => .ok .span
  | .field start, '\x7d' =>
      if start = place then .error .malformed
      else
        match fieldError? (fromPlace start (upToPlace place text)) with
        | some error => .error (.unsoundField error)
        | none => .ok .fields
  | .field start, _ => .ok (.field start)
  | .fields, ']' => .ok .closed
  | .closed, '=' => .ok (.level (place + 1))
  | .level start, _ => .ok (.level start)
  | .fields, _ | .closed, _ => .error .malformed

def Part.run (text : List Char) (part : Part) (place : Nat)
    : List Char → Except DirectiveError Part
  | [] => .ok part
  | c :: rest =>
      match part.step text place c with
      | .ok next => next.run text (place + c.utf8Size) rest
      | .error error => .error error

/-- A directive may end with a word, a span or a level, which may be left out. -/
def Part.finish (text : List Char) : Part → Except DirectiveError Unit
  | .word | .closed => .ok ()
  | .level start =>
      let level := fromPlace start text
      if level.isEmpty || isLevel (String.ofList level) then .ok () else .error .unknownLevel
  | .unread | .span | .field _ | .fields => .error .malformed

def check (text : List Char) : Except DirectiveError Unit :=
  match Part.unread.run text 0 (Text.trim text) with
  | .ok part => part.finish text
  | .error error => .error error

end Directive

end CellRunner.LogFilter

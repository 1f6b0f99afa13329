/-!
Glob patterns for paths. A pattern is a sequence of tokens, and matching works on the bytes of
a path, so a question mark and a class stand for one byte; stars do not cross a slash, and
double stars between slashes do.
-/

namespace CellRunner.Ignore

/-- One member of a character class. -/
structure ClassRange where
  first : Char
  last : Char
deriving DecidableEq, Repr

inductive GlobToken where
  | literal (c : Char)
  /-- Any byte but a slash. -/
  | one
  /-- Any bytes but slashes. -/
  | many
  /-- Nothing, a slash, or anything that ends in a slash. -/
  | anyStart
  /-- A slash and anything after it. -/
  | anyRest
  /-- A slash, or two slashes with anything between them. -/
  | anyMiddle
  | oneOf (negated : Bool) (ranges : List ClassRange)
  | choice (branches : List (List GlobToken))
deriving Repr

namespace GlobToken

/-- The class as single bytes: of the first character's bytes the last one begins a range that
ends in the first byte of the last character, and all other bytes stand for themselves. -/
def ClassRange.hasByte (range : ClassRange) (b : UInt8) : Bool :=
  let first := (String.singleton range.first).toUTF8.toList
  let last := (String.singleton range.last).toUTF8.toList
  if range.first = range.last then first.contains b
  else
    match first.getLast?, last with
    | some low, high :: others =>
        first.dropLast.contains b || (low ≤ b && b ≤ high) || others.contains b
    | _, _ => false

def classHasByte (negated : Bool) (ranges : List ClassRange) (b : UInt8) : Bool :=
  ranges.any (fun range => ClassRange.hasByte range b) != negated

def slash : UInt8 := 0x2F

/-- The suffixes of a text, the longest one first. -/
def suffixes : List UInt8 → List (List UInt8)
  | [] => [[]]
  | b :: rest => (b :: rest) :: suffixes rest

/-- What may be left of a text after bytes other than slashes. -/
def afterMany : List UInt8 → List (List UInt8)
  | [] => [[]]
  | b :: rest => if b = slash then [b :: rest] else (b :: rest) :: afterMany rest

/-- What may be left of a text after a slash in it. -/
def afterSlashes (text : List UInt8) : List (List UInt8) :=
  (suffixes text).filterMap fun suffix =>
    match suffix with
    | b :: rest => if b = slash then some rest else none
    | [] => none

/-- What is left after a given beginning. -/
def afterBytes (start text : List UInt8) : List (List UInt8) :=
  if start.isPrefixOf text then [text.drop start.length] else []

def afterOne (accepts : UInt8 → Bool) : List UInt8 → List (List UInt8)
  | [] => []
  | b :: rest => if accepts b then [rest] else []

mutual
/-- The texts that may be left when a token is matched at the start of one of `texts`. -/
def after (texts : List (List UInt8)) : GlobToken → List (List UInt8)
  | .literal c => texts.flatMap (afterBytes (String.singleton c).toUTF8.toList)
  | .one => texts.flatMap (afterOne (· != slash))
  | .many => (texts.flatMap afterMany).eraseDups
  | .anyStart => (texts.flatMap (fun text => text :: afterSlashes text)).eraseDups
  | .anyRest =>
      (texts.flatMap (fun text => (afterBytes [slash] text).flatMap suffixes)).eraseDups
  | .anyMiddle =>
      (texts.flatMap (fun text =>
        (afterBytes [slash] text).flatMap (fun rest => rest :: afterSlashes rest))).eraseDups
  | .oneOf negated ranges => texts.flatMap (afterOne (classHasByte negated ranges))
  | .choice branches =>
      if branches.all (·.isEmpty) then texts else (afterChoice texts branches).eraseDups

def afterAll (texts : List (List UInt8)) : List GlobToken → List (List UInt8)
  | [] => texts
  | token :: rest => afterAll (after texts token) rest

/-- Empty branches do not count beside others. -/
def afterChoice (texts : List (List UInt8)) : List (List GlobToken) → List (List UInt8)
  | [] => []
  | branch :: rest =>
      (if branch.isEmpty then [] else afterAll texts branch) ++ afterChoice texts rest
end

end GlobToken

structure Glob where
  tokens : List GlobToken
deriving Repr

namespace Glob

/-- A lone double star matches everything. -/
def isEverything : List GlobToken → Bool
  | [.anyStart] => true
  | _ => false

def fits (glob : Glob) (path : String) : Bool :=
  isEverything glob.tokens
    || (GlobToken.afterAll [path.toUTF8.toList] glob.tokens).contains []

end Glob

end CellRunner.Ignore

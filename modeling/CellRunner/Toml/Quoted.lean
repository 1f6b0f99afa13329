import CellRunner.Text.Decimal

/-!
Quoted TOML text. Basic strings know escapes and literal strings do not; both have a form of
several lines between tripled quotes. One machine reads all four, a character at a time.
-/

namespace CellRunner.Toml.Quoted

structure Style where
  quote : Char
  multiline : Bool

def Style.hasEscapes (style : Style) : Bool :=
  style.quote = '"'

/-- What the characters so far leave unfinished. -/
inductive Mode where
  | plain
  /-- A carriage return that needs its line feed. -/
  | carriage
  | escape
  /-- An escape by code point, with `due` hexadecimal digits to come. -/
  | code (due value : Nat)
  /-- Blanks behind a backslash at the end of a line, which may go on over further lines. -/
  | joining (onNextLine : Bool)
  | joiningCarriage
  /-- A run of quotes inside a string of several lines. -/
  | quotes (count : Nat)

inductive Step where
  | goOn (mode : Mode) (decoded : List Char)
  /-- The string has ended in front of the character. -/
  | endBefore (decoded : List Char)
  /-- The string has ended with the character. -/
  | endWith (decoded : List Char)
  | invalid

/-- Control characters other than the tabulator may not stand in a string. -/
def isPlainChar (c : Char) : Bool :=
  c = '\t' || (0x20 ≤ c.toNat && c.toNat != 0x7F)

def isBlankChar (c : Char) : Bool :=
  c = ' ' || c = '\t'

def hexValue? (c : Char) : Option Nat :=
  if Text.Decimal.isDigit c then some (c.toNat - '0'.toNat)
  else if 'a' ≤ c && c ≤ 'f' then some (c.toNat - 'a'.toNat + 10)
  else if 'A' ≤ c && c ≤ 'F' then some (c.toNat - 'A'.toNat + 10)
  else none

def unescape? (c : Char) : Option Char :=
  match c with
  | '"' | '\\' => some c
  | 'b' => some (Char.ofNat 8)
  | 'f' => some (Char.ofNat 12)
  | 'n' => some '\n'
  | 'r' => some '\r'
  | 't' => some '\t'
  | _ => none

def plainStep (style : Style) (decoded : List Char) (c : Char) : Step :=
  if c = style.quote then
    if style.multiline then .goOn (.quotes 1) decoded else .endWith decoded
  else if c = '\\' && style.hasEscapes then .goOn .escape decoded
  else if c = '\n' then if style.multiline then .goOn .plain (c :: decoded) else .invalid
  else if c = '\r' then if style.multiline then .goOn .carriage decoded else .invalid
  else if isPlainChar c then .goOn .plain (c :: decoded)
  else .invalid

def joiningStep (style : Style) (decoded : List Char) (onNextLine : Bool) (c : Char) : Step :=
  if isBlankChar c then .goOn (.joining onNextLine) decoded
  else if c = '\n' then .goOn (.joining true) decoded
  else if c = '\r' then .goOn .joiningCarriage decoded
  else if onNextLine then plainStep style decoded c
  else .invalid

def escapeStep (style : Style) (decoded : List Char) (c : Char) : Step :=
  if c = 'u' then .goOn (.code 4 0) decoded
  else if c = 'U' then .goOn (.code 8 0) decoded
  else
    match unescape? c with
    | some c => .goOn .plain (c :: decoded)
    | none =>
        if style.multiline && (isBlankChar c || c = '\n' || c = '\r') then
          joiningStep style decoded false c
        else .invalid

def codeStep (decoded : List Char) (due value : Nat) (c : Char) : Step :=
  match hexValue? c with
  | none => .invalid
  | some digit =>
      let value := value * 16 + digit
      if due != 1 then .goOn (.code (due - 1) value) decoded
      else if value.isValidChar then .goOn .plain (Char.ofNat value :: decoded)
      else .invalid

def addQuotes (style : Style) (count : Nat) (decoded : List Char) : List Char :=
  List.replicate count style.quote ++ decoded

/-- Three quotes end the string; up to two more in front of them belong to it. -/
def quotesStep (style : Style) (decoded : List Char) (count : Nat) (c : Char) : Step :=
  if c = style.quote then
    if count = 4 then .endWith (addQuotes style 2 decoded)
    else .goOn (.quotes (count + 1)) decoded
  else if 3 ≤ count then .endBefore (addQuotes style (count - 3) decoded)
  else plainStep style (addQuotes style count decoded) c

def step (style : Style) (mode : Mode) (decoded : List Char) (c : Char) : Step :=
  match mode with
  | .plain => plainStep style decoded c
  | .carriage => if c = '\n' then .goOn .plain (c :: decoded) else .invalid
  | .escape => escapeStep style decoded c
  | .code due value => codeStep decoded due value c
  | .joining onNextLine => joiningStep style decoded onNextLine c
  | .joiningCarriage => if c = '\n' then .goOn (.joining true) decoded else .invalid
  | .quotes count => quotesStep style decoded count c

/-- The decoded text and what follows the closing quotes. -/
def readFrom (style : Style) (mode : Mode) (decoded : List Char)
    : List Char → Option (String × List Char)
  | [] =>
      match mode with
      | .quotes count =>
          if 3 ≤ count then
            some (String.ofList (addQuotes style (count - 3) decoded).reverse, [])
          else none
      | _ => none
  | c :: rest =>
      match step style mode decoded c with
      | .goOn mode decoded => readFrom style mode decoded rest
      | .endBefore decoded => some (String.ofList decoded.reverse, c :: rest)
      | .endWith decoded => some (String.ofList decoded.reverse, rest)
      | .invalid => none

/-- A string of one line, behind its opening quote. -/
def readLine (quote : Char) (text : List Char) : Option (String × List Char) :=
  readFrom ⟨quote, false⟩ .plain [] text

/-- A string of one or several lines, with its opening quotes. A line feed right behind the
opening does not count. -/
def read (quote : Char) (text : List Char) : Option (String × List Char) :=
  let tripled := [quote, quote, quote]
  if tripled.isPrefixOf text then
    let body :=
      match text.drop 3 with
      | '\n' :: rest => rest
      | '\r' :: '\n' :: rest => rest
      | rest => rest
    readFrom ⟨quote, true⟩ .plain [] body
  else readLine quote (text.drop 1)

end CellRunner.Toml.Quoted

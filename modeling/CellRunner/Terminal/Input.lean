import CellRunner.Picker.Keys
import CellRunner.Text.Fields

/-!
The bytes that a terminal in raw mode sends, read as key presses. Bytes are collected until
they form a complete sequence; a sequence that cannot be continued to one is dropped.
-/

namespace CellRunner.Terminal.Input

inductive Reading where
  /-- More bytes are needed. -/
  | incomplete
  /-- No sequence begins like this. -/
  | invalid
  /-- A complete sequence without a key press: a mouse or focus event, a report of the
  terminal, or the release or repetition of a key. -/
  | ignored
  | key (press : KeyPress)
deriving DecidableEq, Repr

def plain (key : Key) : Reading :=
  .key ⟨key, false⟩

structure Modifiers where
  shift : Bool := false
  control : Bool := false
deriving DecidableEq, Repr

/-- The mask is one more than the sum of the modifier bits, shift being 1 and control 4. -/
def Modifiers.ofMask (mask : Nat) : Modifiers where
  shift := (mask - 1) % 2 = 1
  control := (mask - 1) / 4 % 2 = 1

/-- Event kinds 2 and 3 are repetitions and releases, and all others presses. -/
def isPress (kind : Nat) : Bool :=
  kind != 2 && kind != 3

def pressed (key : Key) (modifiers : Modifiers) (kind : Nat) : Reading :=
  if isPress kind then .key ⟨key, modifiers.control⟩ else .ignored

/-- A numeral of at most `limit`; a plus sign may stand in front of it. -/
def number? (limit : Nat) (text : List Char) : Option Nat :=
  let unsigned :=
    match text with
    | '+' :: rest => rest
    | _ => text
  (Text.Decimal.read? unsigned).filter (· ≤ limit)

def byteNumber? : List Char → Option Nat :=
  number? 255

def splitAt (separator : Char) (text : List Char) : List (List Char) :=
  Text.fields (· == separator) text

/-- The modifiers and the event kind in the second parameter of a sequence. -/
def modifiersAndKind? (parameters : List (List Char)) : Option (Modifiers × Nat) := do
  let second ← parameters[1]?
  match splitAt ':' second with
  | [] => none
  | mask :: more =>
      let mask ← byteNumber? mask
      return (.ofMask mask, (more.head?.bind byteNumber?).getD 1)

/-- The text between the introducer of two bytes and the final byte. -/
def body? (buffer : List UInt8) : Option (List Char) :=
  (String.fromUTF8? (buffer.drop 2).dropLast.toByteArray).map String.toList

/-- The key of a sequence that ends in a letter. -/
def letterKey? (final : Char) : Option Key :=
  match final with
  | 'A' => some .up
  | 'B' => some .down
  | 'C' | 'D' | 'F' | 'H' | 'P' | 'Q' | 'R' | 'S' => some .other
  | _ => none

/-- A sequence that ends in a letter and has parameters. Without a readable second parameter
the digit in front of the letter is the modifier mask. -/
def readLetter (buffer : List UInt8) (final : Char) : Reading :=
  match body? buffer, letterKey? final with
  | some body, some key =>
      match modifiersAndKind? (splitAt ';' body) with
      | some (modifiers, kind) => pressed key modifiers kind
      | none =>
          match body.getLast? with
          | none => pressed key {} 1
          | some c =>
              if Text.Decimal.isDigit c then
                pressed key (.ofMask (Text.Decimal.digitValue c)) 1
              else .invalid
  | _, _ => .invalid

/-- The numbers that name an editing or function key before a tilde. -/
def namesKey (n : Nat) : Bool :=
  (1 ≤ n && n ≤ 8) || (11 ≤ n && n ≤ 15) || (17 ≤ n && n ≤ 21) || (23 ≤ n && n ≤ 26)
    || n == 28 || n == 29 || (31 ≤ n && n ≤ 34)

def readTilde (buffer : List UInt8) : Reading :=
  let parameters := ((body? buffer).map (splitAt ';')).getD []
  match parameters.head?.bind byteNumber? with
  | none => .invalid
  | some n =>
      if namesKey n then
        let (modifiers, kind) := (modifiersAndKind? parameters).getD ({}, 1)
        pressed .other modifiers kind
      else .invalid

/-- The keypad's characters among the code points of functional keys. -/
def keypad (code : Nat) : Option Char :=
  if 57399 ≤ code && code ≤ 57408 then some (Text.Decimal.digit (code - 57399))
  else
    match code with
    | 57409 => some '.'
    | 57410 => some '/'
    | 57411 => some '*'
    | 57412 => some '-'
    | 57413 => some '+'
    | 57415 => some '='
    | 57416 => some ','
    | _ => none

/-- Code points of functional keys that are neither characters nor known to the picker. -/
def isFunctional (code : Nat) : Bool :=
  (57358 ≤ code && code ≤ 57363) || (57376 ≤ code && code ≤ 57398)
    || code == 57417 || code == 57418 || (57421 ≤ code && code ≤ 57454)

def codeKey? (code : Nat) (modifiers : Modifiers) : Option Key :=
  match keypad code with
  | some c => some (.char c)
  | none =>
      if code = 57414 then some .enter
      else if code = 57419 then some .up
      else if code = 57420 then some .down
      else if isFunctional code then some .other
      else if code = 0x1B then some .escape
      else if code = 0x0D then some .enter
      else if code = 0x09 then some (if modifiers.shift then .other else .tab)
      else if code = 0x7F then some .backspace
      else if code.isValidChar then some (.char (Char.ofNat code))
      else none

/-- A key given by its code point, and by that of its shifted character where shift is held. -/
def readCode (buffer : List UInt8) : Reading :=
  let parameters := ((body? buffer).map (splitAt ';')).getD []
  let codes := (parameters.head?.map (splitAt ':')).getD []
  let (modifiers, kind) := (modifiersAndKind? parameters).getD ({}, 1)
  match codes.head?.bind (number? 0xFFFFFFFF) with
  | none => .invalid
  | some code =>
      match codeKey? code modifiers with
      | none => .invalid
      | some key =>
          let shifted :=
            if modifiers.shift then
              (codes[1]?.bind (number? 0xFFFFFFFF)).filter (fun n => n.isValidChar)
            else none
          match shifted with
          | some n => pressed (.char (Char.ofNat n)) modifiers kind
          | none => pressed key modifiers kind

/-- A sequence whose first parameter byte is a digit; it ends at the first byte from `@`
to `~`. -/
def readNumbered (buffer : List UInt8) : Reading :=
  match buffer.getLast? with
  | none => .incomplete
  | some final =>
      if buffer.length = 3 || final < 64 || 126 < final then .incomplete
      else
        match Char.ofNat final.toNat with
        | 'M' | 'R' => .ignored
        | '~' => readTilde buffer
        | 'u' => readCode buffer
        | c => readLetter buffer c

/-- A sequence after the introducer `ESC [`, of which `first` is the byte that follows. -/
def readControl (buffer : List UInt8) (first : UInt8) : Reading :=
  let last := Char.ofNat (buffer.getLast?.getD 0).toNat
  match Char.ofNat first.toNat with
  | '[' =>
      if buffer.length = 3 then .incomplete
      else if 'A' ≤ last && last ≤ 'E' then plain .other
      else .invalid
  | 'A' => plain .up
  | 'B' => plain .down
  | 'C' | 'D' | 'F' | 'H' | 'P' | 'Q' | 'S' | 'Z' => plain .other
  | 'I' | 'O' => .ignored
  | 'M' => if buffer.length < 6 then .incomplete else .ignored
  | '<' => if last = 'M' || last = 'm' then .ignored else .incomplete
  | '?' =>
      if last = 'c' || (last = 'u' && 5 ≤ buffer.length) then .ignored else .incomplete
  | c => if Text.Decimal.isDigit c then readNumbered buffer else .invalid

/-- How many bytes a sequence of UTF-8 that begins with `lead` has. -/
def sequenceLength? (lead : UInt8) : Option Nat :=
  let n := lead.toNat
  if n < 0x80 then some 1
  else if n < 0xC0 then none
  else if n < 0xE0 then some 2
  else if n < 0xF0 then some 3
  else if n < 0xF8 then some 4
  else none

def isContinuation (b : UInt8) : Bool :=
  0x80 ≤ b && b ≤ 0xBF

def readCharacter (buffer : List UInt8) : Reading :=
  match String.fromUTF8? buffer.toByteArray with
  | some s =>
      match s.toList with
      | c :: _ => plain (.char c)
      | [] => .invalid
  | none =>
      match buffer with
      | [] => .incomplete
      | lead :: rest =>
          match sequenceLength? lead with
          | none => .invalid
          | some length =>
              if rest.all isContinuation && buffer.length < length then .incomplete
              else .invalid

/-- Bytes that begin with no escape. Below the blank they are letters, digits and a blank
typed with the control key, but for the return and tabulator keys. -/
def readPlain (buffer : List UInt8) : Reading :=
  match buffer with
  | [] => .incomplete
  | first :: _ =>
      let n := first.toNat
      let controlled (c : Nat) : Reading := .key ⟨.char (Char.ofNat c), true⟩
      if n = 0x0D then plain .enter
      else if n = 0x09 then plain .tab
      else if n = 0x7F then plain .backspace
      else if n = 0 then controlled ' '.toNat
      else if n ≤ 0x1A then controlled ('a'.toNat + (n - 1))
      else if 0x1C ≤ n && n ≤ 0x1F then controlled ('4'.toNat + (n - 0x1C))
      else readCharacter buffer

/-- The sequences of the keypad in application mode, `ESC O` and a letter. -/
def readApplication : List UInt8 → Reading
  | [] => .incomplete
  | final :: _ =>
      match Char.ofNat final.toNat with
      | 'A' => plain .up
      | 'B' => plain .down
      | 'C' | 'D' | 'F' | 'H' | 'P' | 'Q' | 'R' | 'S' => plain .other
      | _ => .invalid

/-- Reads collected bytes. A lone escape is the escape key only if nothing follows it; in front
of other keys it stands for the alternate key, which has no meaning here. -/
def read (buffer : List UInt8) (more : Bool) : Reading :=
  match buffer with
  | 0x1B :: rest =>
      match rest with
      | [] => if more then .incomplete else plain .escape
      | second :: following =>
          if second = 0x4F then readApplication following
          else if second = 0x5B then
            match following with
            | [] => .incomplete
            | first :: _ => readControl buffer first
          else if second = 0x1B then plain .escape
          else readPlain rest
  | _ => readPlain buffer

/-- The key presses in a piece of input, with nothing in place of ignored sequences. All of
the input is there from the start. -/
def events (buffer : List UInt8) : List UInt8 → List (Option KeyPress)
  | [] => []
  | b :: rest =>
      match read (buffer ++ [b]) (!rest.isEmpty) with
      | .incomplete => events (buffer ++ [b]) rest
      | .invalid => events [] rest
      | .ignored => none :: events [] rest
      | .key press => some press :: events [] rest

def ofText (input : String) : List (Option KeyPress) :=
  events [] input.toUTF8.toList

end CellRunner.Terminal.Input

import CellRunner.Json.Printer
import CellRunner.Proofs.Json.Numerals
import Mathlib.Data.List.Forall2

/-!
The tokens of printed JSON text. Values are set apart by blanks and punctuation, which end a word
or a numeral that has no end of its own, so a printed value gives the same tokens wherever it
stands.
-/

namespace CellRunner.Json

namespace Value

mutual
/-- The tokens that make up a value. -/
def tokens : Value → List Token
  | .null => [.null]
  | .boolean b => [.boolean b]
  | .number numeral => [.number numeral]
  | .string s => [.string s]
  | .array items =>
      .openArray :: ([Token.comma].intercalate (itemTokens items) ++ [.closeArray])
  | .object members =>
      .openObject :: ([Token.comma].intercalate (memberTokens members) ++ [.closeObject])

def itemTokens : List Value → List (List Token)
  | [] => []
  | item :: rest => tokens item :: itemTokens rest

def memberTokens : List (String × Value) → List (List Token)
  | [] => []
  | (name, value) :: rest => (.string name :: .colon :: tokens value) :: memberTokens rest
end

/-- A value whose numerals are legible and in which at most `depth` containers are nested. -/
inductive Readable : Nat → Value → Prop
  | null {depth : Nat} : Readable depth .null
  | boolean {depth : Nat} (b : Bool) : Readable depth (.boolean b)
  | number {depth : Nat} {numeral : String} (legible : Numeral.Legible numeral)
    : Readable depth (.number numeral)
  | string {depth : Nat} (s : String) : Readable depth (.string s)
  | array {depth : Nat} {items : List Value} (each : ∀ item ∈ items, Readable depth item)
    : Readable (depth + 1) (.array items)
  | object {depth : Nat} {members : List (String × Value)}
    (each : ∀ member ∈ members, Readable depth member.2)
    : Readable (depth + 1) (.object members)

end Value

namespace Token

/-- A scan that goes on as if it stood behind `tokens`, unless a word or a numeral grows. -/
structure Scan.Settled (scan : Scan) (tokens : List Token) : Prop where
  next : ∀ c, isNumeralChar c = false → isLetter c = false → step? scan c = begin? tokens c
  finish : finish? scan = some tokens.reverse

/-- Text that gives some tokens, whatever stands before it. -/
def Scans (text : List Char) (tokens : List Token) : Prop :=
  ∀ before, ∃ scan,
    text.foldlM step? ⟨before, .between⟩ = some scan
    ∧ scan.Settled (tokens.reverse ++ before)

theorem Scan.settled_between (tokens : List Token)
    : Scan.Settled ⟨tokens, .between⟩ tokens :=
  ⟨fun _ _ _ => rfl, rfl⟩

theorem Scans.nil
    : Scans [] [] :=
  fun before => ⟨_, rfl, Scan.settled_between before⟩

theorem Scans.ofText? {text : List Char} {tokens : List Token} (scans : Scans text tokens)
    : ofText? text = some tokens := by
  obtain ⟨scan, run, settled⟩ := scans []
  rw [Token.ofText?, run, Option.bind_some, settled.finish, List.append_nil, List.reverse_reverse]

-----------------------------------------------------------------------------------------
-- Layout
-----------------------------------------------------------------------------------------

/-- The characters that stand between printed values. -/
def layoutChars : List Char :=
  [' ', '\n', '[', ']', '\x7b', '\x7d', ':', ',']

/-- Text of blanks and punctuation, with the tokens that it gives. -/
structure Layout (text : List Char) (tokens : List Token) : Prop where
  chars : ∀ c ∈ text, c ∈ layoutChars
  marks : text.filterMap punctuation? = tokens

/-- Layout that is written out. -/
theorem Layout.literal {text : List Char} {tokens : List Token}
    (chars : text.all (fun c => decide (c ∈ layoutChars)) = true)
    (marks : text.filterMap punctuation? = tokens)
    : Layout text tokens :=
  ⟨fun c member => of_decide_eq_true (List.all_eq_true.mp chars c member), marks⟩

theorem Layout.append {text later : List Char} {tokens laterTokens : List Token}
    (first : Layout text tokens) (second : Layout later laterTokens)
    : Layout (text ++ later) (tokens ++ laterTokens) where
  chars c member := (List.mem_append.mp member).elim (first.chars c) (second.chars c)
  marks := by rw [List.filterMap_append, first.marks, second.marks]

theorem begin?_layout {c : Char} (layout : c ∈ layoutChars) (tokens : List Token)
    : begin? tokens c = some ⟨(punctuation? c).toList ++ tokens, .between⟩ := by
  simp only [layoutChars, List.mem_cons, List.not_mem_nil, or_false] at layout
  rcases layout with rfl | rfl | rfl | rfl | rfl | rfl | rfl | rfl <;> rfl

theorem scan_layout {text : List Char} {marks : List Token} (layout : Layout text marks)
    (tokens : List Token)
    : text.foldlM step? ⟨tokens, .between⟩ = some ⟨marks.reverse ++ tokens, .between⟩ := by
  obtain ⟨chars, rfl⟩ := layout
  induction text generalizing tokens with
  | nil => rfl
  | cons c rest ih =>
      have first : step? ⟨tokens, .between⟩ c
          = some ⟨(punctuation? c).toList ++ tokens, .between⟩ :=
        begin?_layout (chars c List.mem_cons_self) tokens
      have later := ih ((punctuation? c).toList ++ tokens)
        (fun d member => chars d (List.mem_cons_of_mem _ member))
      rw [List.foldlM_cons, first, Option.bind_eq_bind, Option.bind_some, later]
      cases mark : punctuation? c <;> simp [mark]

/-- A punctuation mark, or blanks before it, end a word or a numeral. -/
theorem Scan.Settled.layout {scan : Scan} {tokens : List Token} (settled : scan.Settled tokens)
    {text : List Char} {mark : Token} {marks : List Token} (layout : Layout text (mark :: marks))
    : text.foldlM step? scan = some ⟨(mark :: marks).reverse ++ tokens, .between⟩ := by
  cases text with
  | nil => exact absurd layout.marks (List.cons_ne_nil _ _).symm
  | cons c rest =>
      have ends : layoutChars.all (fun d => !isNumeralChar d && !isLetter d) = true := by decide
      have ending := List.all_eq_true.mp ends c (layout.chars c List.mem_cons_self)
      simp only [Bool.and_eq_true, Bool.not_eq_true'] at ending
      obtain ⟨unnumeral, unlettered⟩ := ending
      rw [← scan_layout layout, List.foldlM_cons, List.foldlM_cons,
        settled.next c unnumeral unlettered]
      rfl

/-- Two texts with layout between them. -/
theorem Scans.join {text later gap : List Char} {tokens laterTokens marks : List Token}
    {mark : Token} (first : Scans text tokens) (layout : Layout gap (mark :: marks))
    (second : Scans later laterTokens)
    : Scans (text ++ gap ++ later) (tokens ++ (mark :: marks) ++ laterTokens) := by
  intro before
  obtain ⟨scan, run, settled⟩ := first before
  obtain ⟨last, laterRun, lastSettled⟩ :=
    second ((mark :: marks).reverse ++ (tokens.reverse ++ before))
  refine ⟨last, ?_, ?_⟩
  · simp only [List.foldlM_append, run, Option.bind_eq_bind, Option.bind_some,
      settled.layout layout, laterRun]
  · simpa [List.append_assoc] using lastSettled

theorem Scans.enclose {opening text closing : List Char} {first last : Token}
    {tokens : List Token} (opened : Layout opening [first]) (inner : Scans text tokens)
    (closed : Layout closing [last])
    : Scans (opening ++ text ++ closing) (first :: (tokens ++ [last])) := by
  have whole := (Scans.nil.join opened inner).join closed Scans.nil
  simpa using whole

/-- Texts with the same layout between any two of them. -/
theorem Scans.intercalate {gap : List Char} {mark : Token} (layout : Layout gap [mark])
    {texts : List (List Char)} {tokens : List (List Token)} (each : List.Forall₂ Scans texts tokens)
    : Scans (gap.intercalate texts) ([mark].intercalate tokens) := by
  induction each with
  | nil => exact Scans.nil
  | cons first rest ih =>
      cases rest with
      | nil => simpa using first
      | cons second rest =>
          have joined := first.join layout ih
          simpa [List.intercalate] using joined

-----------------------------------------------------------------------------------------
-- Strings
-----------------------------------------------------------------------------------------

/-- An escaped character is read back as the character. -/
theorem scan_escapeChar (c : Char) (before : List Token) (done : List Char)
    : (escapeChar c).foldlM step? ⟨before, .text done none⟩
      = some ⟨before, .text (c :: done) none⟩ := by
  unfold escapeChar
  split
  · rfl
  · rfl
  · rfl
  · rfl
  · rfl
  · next quote backslash _ _ _ =>
      split
      · next code =>
          have char : c = Char.ofNat 8 := by rw [← code, Char.ofNat_toNat]
          subst char
          rfl
      · split
        · next code =>
            have char : c = Char.ofNat 12 := by rw [← code, Char.ofNat_toNat]
            subst char
            rfl
        · split
          · next control =>
              have all : ∀ n < 0x20,
                  hexValue? (hexDigit (n / 16)) = some (n / 16)
                  ∧ hexValue? (hexDigit (n % 16)) = some (n % 16)
                  ∧ isHigh n = false ∧ isLow n = false := by
                decide
              obtain ⟨high, low, unpaired, unpaired'⟩ := all c.toNat control
              have zero : hexValue? '0' = some 0 := by decide
              have code : c.toNat / 16 * 16 + c.toNat % 16 = c.toNat := Nat.div_add_mod' _ _
              simp [List.foldlM_cons, step?, high, low, zero, endUnit?, code, unpaired, unpaired']
          · next printable =>
              have unquoted : c ≠ '"' := quote
              have unescaped : c ≠ '\\' := backslash
              simp [List.foldlM_cons, step?, unquoted, unescaped, printable]

theorem scan_escaped (text : List Char) (before : List Token) (done : List Char)
    : (text.flatMap escapeChar).foldlM step? ⟨before, .text done none⟩
      = some ⟨before, .text (text.reverse ++ done) none⟩ := by
  induction text generalizing done with
  | nil => rfl
  | cons c rest ih =>
      rw [List.flatMap_cons, List.foldlM_append, scan_escapeChar, Option.bind_eq_bind,
        Option.bind_some, ih]
      simp

theorem scans_quote (s : String)
    : Scans (quote s).toList [.string s] := by
  intro before
  refine ⟨⟨.string s :: before, .between⟩, ?_, Scan.settled_between _⟩
  have opened : step? ⟨before, .between⟩ '"' = some ⟨before, .text [] none⟩ := rfl
  have closed (done : List Char) : step? ⟨before, .text done none⟩ '"'
      = some ⟨.string (String.ofList done.reverse) :: before, .between⟩ := rfl
  simp [quote, List.foldlM_append, List.foldlM_cons, opened, closed, scan_escaped]

-----------------------------------------------------------------------------------------
-- Words and numerals
-----------------------------------------------------------------------------------------

theorem isSpace_eq_false {kind : Char → Bool} {c : Char} (own : kind c = true)
    (blanks : [' ', '\t', '\n', '\r'].all (fun d => !kind d) = true)
    : isSpace c = false := by
  have apart (d : Char) (member : d ∈ [' ', '\t', '\n', '\r']) : c ≠ d := by
    rintro rfl
    have other := List.all_eq_true.mp blanks c member
    rw [own] at other
    contradiction
  simp [isSpace, apart]

theorem begin?_letter {c : Char} (letter : isLetter c = true) (before : List Token)
    : begin? before c = some ⟨before, .word [c]⟩ := by
  have apart (d : Char) (other : isLetter d = false) : c ≠ d := by
    rintro rfl
    rw [other] at letter
    contradiction
  have undigit : Text.Decimal.isDigit c = false := by
    by_contra digit
    simp only [isLetter, Text.Decimal.isDigit, Bool.and_eq_true, decide_eq_true_eq,
      Bool.not_eq_false] at letter digit
    exact absurd (Char.le_trans letter.1 digit.2) (by decide)
  simp [begin?, isSpace_eq_false letter (by decide), apart '"' (by decide), apart '-' (by decide),
    undigit, letter]

/-- Characters that a word or a numeral takes are all taken. -/
theorem scan_growing (mode : List Char → Mode) {kind : Char → Bool}
    (grows
      : ∀ before done c,
        kind c = true → step? ⟨before, mode done⟩ c = some ⟨before, mode (c :: done)⟩)
    {text : List Char} (own : ∀ c ∈ text, kind c = true) (before : List Token) (done : List Char)
    : text.foldlM step? ⟨before, mode done⟩ = some ⟨before, mode (text.reverse ++ done)⟩ := by
  induction text generalizing done with
  | nil => rfl
  | cons c rest ih =>
      have first := grows before done c (own c List.mem_cons_self)
      have later := ih (fun d member => own d (List.mem_cons_of_mem _ member)) (c :: done)
      rw [List.foldlM_cons, first, Option.bind_eq_bind, Option.bind_some, later]
      simp

theorem settled_word {letters : List Char} {token : Token} (word : ofWord? letters = some token)
    (before : List Token)
    : Scan.Settled ⟨before, .word letters.reverse⟩ (token :: before) where
  next c _ unlettered := by simp [step?, unlettered, word]
  finish := by simp [finish?, word]

theorem scans_word {token : Token} (word : String) (present : word.toList ≠ [])
    (letters : word.toList.all isLetter = true) (read : ofWord? word.toList = some token)
    : Scans word.toList [token] := by
  intro before
  obtain ⟨first, rest, text⟩ := List.exists_cons_of_ne_nil present
  rw [text] at letters read
  have letter := List.all_eq_true.mp letters
  have begun : step? ⟨before, .between⟩ first = some ⟨before, .word [first]⟩ :=
    begin?_letter (letter first List.mem_cons_self) before
  have taken := scan_growing .word (fun before done c own => by simp [step?, own])
    (fun c member => letter c (List.mem_cons_of_mem _ member)) before [first]
  refine ⟨⟨before, .word (first :: rest).reverse⟩, ?_, settled_word read before⟩
  rw [text, List.foldlM_cons, begun, Option.bind_eq_bind, Option.bind_some, taken]
  simp

theorem begin?_numeral {c : Char} (start : c = '-' ∨ Text.Decimal.isDigit c = true)
    (before : List Token)
    : begin? before c = some ⟨before, .numeral [c]⟩ := by
  rcases start with rfl | digit
  · rfl
  · have apart (d : Char) (other : Text.Decimal.isDigit d = false) : c ≠ d := by
      rintro rfl
      rw [other] at digit
      contradiction
    simp [begin?, isSpace_eq_false digit (by decide), apart '"' (by decide), digit]

theorem scans_numeral {numeral : String} (legible : Numeral.Legible numeral)
    : Scans numeral.toList [.number numeral] := by
  intro before
  obtain ⟨first, rest, text, start, chars⟩ := legible.chars
  have read : ofNumeral? (first :: rest) = some (.number numeral) := by
    rw [ofNumeral?, ← text, legible.valid]
    simp
  have begun : step? ⟨before, .between⟩ first = some ⟨before, .numeral [first]⟩ :=
    begin?_numeral start before
  have taken := scan_growing .numeral (fun before done c own => by simp [step?, own]) chars before
    [first]
  refine ⟨⟨before, .numeral (first :: rest).reverse⟩, ?_, ?_, ?_⟩
  · rw [text, List.foldlM_cons, begun, Option.bind_eq_bind, Option.bind_some, taken]
    simp
  · intro c unnumeral _
    simp [step?, unnumeral, List.reverse_reverse, read]
  · simp [finish?, read]

end Token

-----------------------------------------------------------------------------------------
-- Values
-----------------------------------------------------------------------------------------

namespace Value

open Token (Scans Layout)

theorem prettyItems_eq (level : Nat) (items : List Value)
    : prettyItems level items = items.map (pretty level) := by
  induction items with
  | nil => rfl
  | cons item rest ih => rw [prettyItems, ih, List.map_cons]

theorem prettyMembers_eq (level : Nat) (members : List (String × Value))
    : prettyMembers level members
      = members.map (fun member => quote member.1 ++ ": " ++ pretty level member.2) := by
  induction members with
  | nil => rfl
  | cons member rest ih => rw [prettyMembers, ih, List.map_cons]

theorem itemTokens_eq (items : List Value)
    : itemTokens items = items.map tokens := by
  induction items with
  | nil => rfl
  | cons item rest ih => rw [itemTokens, ih, List.map_cons]

theorem memberTokens_eq (members : List (String × Value))
    : memberTokens members
      = members.map (fun member => .string member.1 :: .colon :: tokens member.2) := by
  induction members with
  | nil => rfl
  | cons member rest ih => rw [memberTokens, ih, List.map_cons]

theorem layout_indent (level : Nat)
    : Layout (indent level).toList [] := by
  have spaces : (indent level).toList = List.replicate (2 * level) ' ' := by
    simp [indent]
  rw [spaces]
  refine ⟨?_, List.filterMap_replicate_of_none rfl⟩
  intro c member
  rw [List.eq_of_mem_replicate member]
  decide

/-- Items on lines of their own give their tokens with commas between them, and the tokens of the
brackets around them. -/
theorem scans_bracketed {opening closing : String} {first last : Token}
    (opened : Layout opening.toList [first]) (closed : Layout closing.toList [last])
    (level : Nat) {texts : List String} {tokens : List (List Token)}
    (each : List.Forall₂ Scans (texts.map String.toList) tokens)
    : Scans (bracketed level opening closing texts).toList
        (first :: ([Token.comma].intercalate tokens ++ [last])) := by
  have feed : Layout "\n".toList [] := .literal (by decide) (by decide)
  have comma : Layout ",\n".toList [.comma] := .literal (by decide) (by decide)
  rw [bracketed]
  split
  · next empty =>
      obtain rfl := List.isEmpty_iff.mp empty
      cases each
      simpa using Scans.nil.enclose opened closed
  · have inner := Scans.intercalate (comma.append (layout_indent (level + 1))) each
    have whole := inner.enclose ((opened.append feed).append (layout_indent (level + 1)))
      ((feed.append (layout_indent level)).append closed)
    simpa [String.toList_append, String.toList_intercalate, List.append_assoc] using whole

/-- A printed value gives the tokens of the value. -/
theorem scans_pretty {depth : Nat} {value : Value} (readable : Readable depth value)
    (level : Nat)
    : Scans (value.pretty level).toList value.tokens := by
  induction readable generalizing level with
  | null => exact Token.scans_word "null" (by decide) (by decide) rfl
  | boolean b =>
      cases b
      · exact Token.scans_word "false" (by decide) (by decide) rfl
      · exact Token.scans_word "true" (by decide) (by decide) rfl
  | number legible => exact Token.scans_numeral legible
  | string s => exact Token.scans_quote s
  | array each ih =>
      rw [pretty, tokens, prettyItems_eq, itemTokens_eq]
      apply scans_bracketed (.literal (by decide) (by decide)) (.literal (by decide) (by decide))
      rw [List.map_map, List.forall₂_map_left_iff, List.forall₂_map_right_iff,
        List.forall₂_same]
      exact fun item member => ih item member (level + 1)
  | object each ih =>
      rw [pretty, tokens, prettyMembers_eq, memberTokens_eq]
      apply scans_bracketed (.literal (by decide) (by decide)) (.literal (by decide) (by decide))
      rw [List.map_map, List.forall₂_map_left_iff, List.forall₂_map_right_iff,
        List.forall₂_same]
      intro member present
      have colon : Layout ": ".toList [.colon] := .literal (by decide) (by decide)
      have written := (Token.scans_quote member.1).join colon (ih member present (level + 1))
      simpa using written

end Value

end CellRunner.Json

import CellRunner.Proofs.Text.Pieces
import CellRunner.Proofs.Text.Words
import CellRunner.Tmux.Window
import Mathlib.Data.List.Forall2

/-!
What is read from a window listing. Windows in the listing's format are read back, whatever tabs
are in their names and wherever there are blank lines. Any other output is read line by line too,
and the first line that is neither blank nor describes a window is reported.
-/

namespace CellRunner

-----------------------------------------------------------------------------------------
-- Items that are read in order
-----------------------------------------------------------------------------------------

section Reading

variable {α β ε : Type} {f : α → Except ε β} {xs : List α}

/-- Items are read in order if each of them is, by induction on the items. -/
theorem mapM_eq_ok_iff {ys : List β}
    : xs.mapM f = .ok ys ↔ List.Forall₂ (fun x y => f x = .ok y) xs ys := by
  induction xs generalizing ys with
  | nil => cases ys <;> simp [pure, Except.pure]
  | cons x xs ih =>
      rw [List.mapM_cons]
      cases first : f x with
      | error e => cases ys <;> simp [bind, Except.bind, first]
      | ok y =>
          cases later : xs.mapM f with
          | error e => cases ys <;> simp [bind, Except.bind, ← ih, later]
          | ok more => cases ys <;> simp [bind, Except.bind, pure, Except.pure, first, ← ih, later]

/-- The first item that cannot be read gives the error, and those behind it are not read. -/
theorem mapM_eq_error_iff {e : ε}
    : xs.mapM f = .error e
      ↔ ∃ before x after,
          xs = before ++ x :: after ∧ (∀ y ∈ before, ∃ z, f y = .ok z) ∧ f x = .error e := by
  induction xs with
  | nil => simp [pure, Except.pure]
  | cons x xs ih =>
      simp only [List.cons_eq_append_iff]
      cases first : f x with
      | error e' =>
          have stops : (x :: xs).mapM f = .error e' := by
            rw [List.mapM_cons, first]
            rfl
          rw [stops]
          constructor
          · rintro ⟨⟩
            exact ⟨[], x, xs, .inl ⟨rfl, rfl⟩, by simp, first⟩
          · rintro ⟨before, item, after, ⟨rfl, same⟩ | ⟨more, rfl, _⟩, read, fails⟩
            · obtain ⟨rfl, rfl⟩ := List.cons.inj same
              rw [first] at fails
              exact congrArg Except.error (Except.error.inj fails)
            · obtain ⟨y, reads⟩ := read x List.mem_cons_self
              rw [first] at reads
              contradiction
      | ok y =>
          have later : (x :: xs).mapM f = .error e ↔ xs.mapM f = .error e := by
            rw [List.mapM_cons, first]
            cases xs.mapM f <;> simp [bind, Except.bind, pure, Except.pure]
          rw [later, ih]
          constructor
          · rintro ⟨before, item, after, rfl, read, fails⟩
            exact ⟨x :: before, item, after, .inr ⟨before, rfl, rfl⟩,
              List.forall_mem_cons.mpr ⟨⟨y, first⟩, read⟩, fails⟩
          · rintro ⟨before, item, after, ⟨rfl, same⟩ | ⟨more, rfl, rfl⟩, read, fails⟩
            · obtain ⟨rfl, rfl⟩ := List.cons.inj same
              rw [first] at fails
              contradiction
            · exact ⟨more, item, after, rfl, (List.forall_mem_cons.mp read).2, fails⟩

/-- All items are read unless one of them cannot be, by cases on the reading of all. -/
theorem exists_mapM_eq_ok_iff
    : (∃ ys, xs.mapM f = .ok ys) ↔ ∀ x ∈ xs, ∃ y, f x = .ok y := by
  constructor
  · rintro ⟨ys, read⟩
    replace read := mapM_eq_ok_iff.mp read
    induction read with
    | nil => simp
    | cons reads _ ih => exact List.forall_mem_cons.mpr ⟨⟨_, reads⟩, ih⟩
  · intro each
    cases read : xs.mapM f with
    | ok ys => exact ⟨ys, rfl⟩
    | error e =>
        obtain ⟨before, x, after, rfl, _, fails⟩ := mapM_eq_error_iff.mp read
        obtain ⟨y, reads⟩ := each x (by simp)
        rw [fails] at reads
        contradiction

end Reading

namespace Tmux.Window

-----------------------------------------------------------------------------------------
-- A line and its window
-----------------------------------------------------------------------------------------

/-- A line describes a window: there are four fields with a tab behind each of them, and all of the
rest is the name. -/
inductive Describes : List Char → Window → Prop
  | fields {id dead status active name : List Char} (opens : id.head? = some '@')
    (uncut : ∀ field ∈ [id, dead, status, active], '\t' ∉ field)
    : Describes ([id, dead, status, active].flatMap (· ++ ['\t']) ++ name)
        ⟨⟨String.ofList id, String.ofList name, readStatus dead status⟩, active = ['1']⟩

/-- A line that begins as the id of a window does and has all the tabs of the format. -/
def WellFormed (line : List Char) : Prop :=
  line.head? = some '@' ∧ 4 ≤ line.count '\t'

variable {line : List Char} {window : Window}

/-- A line is cut into five fields if it is four fields with tabs behind them and the name. -/
theorem fieldsUpTo_eq_iff {id dead status active name : List Char}
    : Text.fieldsUpTo '\t' 4 line = [id, dead, status, active, name]
      ↔ line = [id, dead, status, active].flatMap (· ++ ['\t']) ++ name
        ∧ ∀ field ∈ [id, dead, status, active], '\t' ∉ field :=
  show Text.fieldsUpTo '\t' [id, dead, status, active].length line
      = [id, dead, status, active] ++ [name] ↔ _
    from Text.fieldsUpTo_eq_append_iff

/-- The line begins as its id does, since a tab begins no id. -/
theorem head?_fields {id dead status active name : List Char}
    : ([id, dead, status, active].flatMap (· ++ ['\t']) ++ name).head? = some '@'
      ↔ id.head? = some '@' := by
  cases id <;> simp

/-- A line is read as the window that it describes, by cutting it into its fields. -/
theorem ofLine?_eq_some_iff
    : ofLine? line = some window ↔ Describes line window := by
  constructor
  · intro read
    rw [ofLine?] at read
    split at read
    · next id dead status active name cut =>
        obtain ⟨rfl, uncut⟩ := fieldsUpTo_eq_iff.mp cut
        by_cases opens : id.head? = some '@'
        · rw [if_pos opens] at read
          cases read
          exact .fields opens uncut
        · rw [if_neg opens] at read
          contradiction
    · contradiction
  · intro described
    cases described with
    | fields opens uncut =>
        rw [ofLine?, fieldsUpTo_eq_iff.mpr ⟨rfl, uncut⟩]
        simp [opens]

/-- The lines that describe a window are told by their start and their tabs. -/
theorem exists_describes_iff
    : (∃ window, Describes line window) ↔ WellFormed line := by
  constructor
  · rintro ⟨window, described⟩
    cases described with
    | @fields id dead status active name opens _ =>
        refine ⟨head?_fields.mpr opens, ?_⟩
        simp only [List.count_append, List.flatMap_cons, List.count_singleton_self]
        omega
  · rintro ⟨opens, tabs⟩
    have five : (Text.fieldsUpTo '\t' 4 line).length = 5 := by
      rw [Text.length_fieldsUpTo]
      omega
    match cut : Text.fieldsUpTo '\t' 4 line, five with
    | [id, dead, status, active, name], _ =>
        obtain ⟨rfl, uncut⟩ := fieldsUpTo_eq_iff.mp cut
        exact ⟨_, .fields (head?_fields.mp opens) uncut⟩

/-- A line gives the window that it describes, by reading it. -/
theorem parseLine_eq_ok_iff
    : parseLine line = .ok window ↔ Describes line window := by
  rw [← ofLine?_eq_some_iff, parseLine]
  cases ofLine? line <;> simp

/-- A line that is not well-formed is reported, by reading it. -/
theorem parseLine_eq_error_iff {error : HostError}
    : parseLine line = .error error
      ↔ ¬WellFormed line ∧ error = .unexpectedOutput (String.ofList line) := by
  rw [← exists_describes_iff, parseLine]
  simp only [← ofLine?_eq_some_iff]
  cases ofLine? line <;> simp [eq_comm]

-----------------------------------------------------------------------------------------
-- Windows that are written
-----------------------------------------------------------------------------------------

/-- A window that its line can hold: no field is cut short, and the line is not. -/
structure Listable (window : Window) : Prop where
  opens : window.terminal.id.toList.head? = some '@'
  idTab : '\t' ∉ window.terminal.id.toList
  idFeed : '\n' ∉ window.terminal.id.toList
  /-- The status is a signed 32-bit number. -/
  status : ∀ status ∈ window.terminal.exitStatus, -0x80000000 ≤ status ∧ status < 0x80000000
  nameFeed : '\n' ∉ window.terminal.name.toList
  nameEnd : window.terminal.name.toList.getLast? ≠ some '\r'

/-- A written status of 32 bits is read back, as its numeral is trimmed to itself. -/
theorem readStatus_writeInt {n : Int} (low : -0x80000000 ≤ n) (high : n < 0x80000000)
    : readStatus ['1'] (Text.Decimal.writeInt n).toList = some n := by
  have unblank : ∀ c ∈ (Text.Decimal.writeInt n).toList, Text.isBlank c = false := by
    intro c member
    rcases Text.Decimal.writeInt_chars member with rfl | digit
    · decide
    · exact Text.isBlank_of_isDigit digit
  rw [readStatus, if_pos rfl, Text.trim_of_unblank unblank,
    Text.Decimal.readInt32?_writeInt low high, Option.getD_some]

/-- The fields of a window's line: those between the id and the name are numerals or empty, and
they give the window's status and whether it is active. -/
theorem Listable.exists_fields (h : window.Listable)
    : ∃ dead status active,
        window.line
          = [window.terminal.id.toList, dead, status, active].flatMap (· ++ ['\t'])
            ++ window.terminal.name.toList
        ∧ readStatus dead status = window.terminal.exitStatus
        ∧ decide (active = ['1']) = window.active
        ∧ ∀ field ∈ [dead, status, active], ∀ c ∈ field,
            c = '-' ∨ Text.Decimal.isDigit c = true := by
  obtain ⟨⟨id, name, exitStatus⟩, active⟩ := window
  have flag : decide ([if active then '1' else '0'] = ['1']) = active := by cases active <;> rfl
  have digit : Text.Decimal.isDigit (if active then '1' else '0') = true := by cases active <;> rfl
  cases exitStatus with
  | none =>
      refine ⟨['0'], [], [if active then '1' else '0'], by simp [line], rfl, flag, ?_⟩
      have zero : Text.Decimal.isDigit '0' = true := rfl
      simp [zero, digit]
  | some status =>
      obtain ⟨low, high⟩ := h.status status rfl
      refine ⟨['1'], (Text.Decimal.writeInt status).toList, [if active then '1' else '0'],
        by simp [line], readStatus_writeInt low high, flag, ?_⟩
      have one : Text.Decimal.isDigit '1' = true := rfl
      have numeral : ∀ c ∈ (Text.Decimal.writeInt status).toList,
          c = '-' ∨ Text.Decimal.isDigit c = true :=
        fun c member => Text.Decimal.writeInt_chars member
      simpa [one, digit] using numeral

/-- A numeral holds no character of the format. -/
theorem notMem_numeral {field : List Char} {c : Char}
    (numeral : ∀ c ∈ field, c = '-' ∨ Text.Decimal.isDigit c = true) (unsigned : c ≠ '-')
    (other : Text.Decimal.isDigit c = false)
    : c ∉ field := by
  intro member
  rcases numeral c member with sign | digit
  · exact unsigned sign
  · rw [other] at digit
    contradiction

/-- The line of a window describes it. -/
theorem Listable.describes_line (h : window.Listable)
    : Describes window.line window := by
  obtain ⟨dead, status, active, fields, exited, flag, numerals⟩ := h.exists_fields
  have uncut : ∀ field ∈ [dead, status, active], '\t' ∉ field :=
    fun field member => notMem_numeral (numerals field member) (by decide) (by decide)
  have described
      : Describes
          ([window.terminal.id.toList, dead, status, active].flatMap (· ++ ['\t'])
            ++ window.terminal.name.toList) _ :=
    .fields h.opens (List.forall_mem_cons.mpr ⟨h.idTab, uncut⟩)
  rw [← fields, exited, flag] at described
  simpa using described

/-- The line of a window has no line feed, as none of its fields has one. -/
theorem Listable.notMem_line (h : window.Listable)
    : '\n' ∉ window.line := by
  obtain ⟨dead, status, active, fields, _, _, numerals⟩ := h.exists_fields
  have unfed : ∀ field ∈ [dead, status, active], '\n' ∉ field :=
    fun field member => notMem_numeral (numerals field member) (by decide) (by decide)
  rw [fields]
  simpa [h.idFeed, h.nameFeed] using unfed

/-- A line ends as its name does, or with a tab. -/
theorem Listable.getLast?_line (h : window.Listable)
    : window.line.getLast? ≠ some '\r' := by
  have ends := h.nameEnd
  simp only [line, List.getLast?_append, List.getLast?_cons]
  cases last : window.terminal.name.toList.getLast? with
  | none => simp
  | some c => simpa [last] using ends

/-- The windows of a listing: each has a line in the format, and there may be blank lines between
them. -/
inductive Listing : List Window → List Char → Prop
  | nil : Listing [] []
  | blank {windows line output} (blank : ∀ c ∈ line, Text.isBlank c) (one : '\n' ∉ line)
    (later : Listing windows output)
    : Listing windows (line ++ '\n' :: output)
  | window {window windows output} (listable : window.Listable) (later : Listing windows output)
    : Listing (window :: windows) (window.line ++ '\n' :: output)

/-- The lines of a listing that are not blank describe its windows, by induction on the listing. -/
theorem Listing.describes {windows : List Window} {output : List Char}
    (h : Listing windows output)
    : List.Forall₂ Describes (listingLines output) windows := by
  induction h with
  | nil => exact .nil
  | @blank windows line output blank one _ ih =>
      have skipped : listingLines (line ++ '\n' :: output) = listingLines output := by
        have blank' : (Text.withoutLast '\r' line).all Text.isBlank := by
          rw [Text.withoutLast, List.all_eq_true]
          split
          · exact fun c member => blank c (List.dropLast_subset line member)
          · exact blank
        rw [listingLines, Text.outputLines_line_append one]
        simp [blank', listingLines]
      rwa [skipped]
  | @window window windows output listable _ ih =>
      have described := listable.describes_line
      have kept : listingLines (window.line ++ '\n' :: output)
          = window.line :: listingLines output := by
        have shown : window.line.all Text.isBlank = false := by
          rw [List.all_eq_false]
          have opens := (exists_describes_iff.mp ⟨_, described⟩).1
          exact ⟨'@', List.mem_of_mem_head? opens, by decide⟩
        rw [listingLines, Text.outputLines_line_append listable.notMem_line,
          Text.withoutLast_of_ne listable.getLast?_line]
        simp [shown, listingLines]
      rw [kept]
      exact .cons described ih

-----------------------------------------------------------------------------------------
-- Listings
-----------------------------------------------------------------------------------------

/-- An output is read if its lines describe windows, by reading line by line. -/
theorem parseList_eq_ok_iff {output : String} {windows : List Window}
    : parseList output = .ok windows
      ↔ List.Forall₂ Describes (listingLines output.toList) windows := by
  simp only [parseList, mapM_eq_ok_iff, parseLine_eq_ok_iff]

/-- A line that is not reported: it is blank or describes a window. -/
def Passes (line : List Char) : Prop :=
  (∀ c ∈ line, Text.isBlank c) ∨ WellFormed line

/-- A line passes if it is well-formed unless it is blank, by cases on whether it is. -/
theorem passes_iff
    : Passes line ↔ (!line.all Text.isBlank) = true → WellFormed line := by
  rw [Passes, or_iff_not_imp_left]
  simp

/-- An output can be read if every line passes, by reading line by line. -/
theorem exists_parseList_iff {output : String}
    : (∃ windows, parseList output = .ok windows)
      ↔ ∀ line ∈ Text.outputLines output.toList, Passes line := by
  simp only [parseList, exists_mapM_eq_ok_iff, parseLine_eq_ok_iff, exists_describes_iff,
    listingLines, List.mem_filter, and_imp, passes_iff]

/-- The first line that does not pass is reported, by finding it among the lines that are not blank.
-/
theorem parseList_eq_error_iff {output : String} {error : HostError}
    : parseList output = .error error
      ↔ ∃ before line after,
          Text.outputLines output.toList = before ++ line :: after
          ∧ (∀ earlier ∈ before, Passes earlier)
          ∧ ¬Passes line
          ∧ error = .unexpectedOutput (String.ofList line) := by
  simp only [parseList, mapM_eq_error_iff, parseLine_eq_ok_iff, exists_describes_iff,
    parseLine_eq_error_iff, listingLines]
  constructor
  -- Behind the well formed lines there may be blank ones, which pass as well.
  · rintro ⟨shown, line, rest, split, wellFormed, malformed, rfl⟩
    obtain ⟨before, behind, lines, rfl, later⟩ := List.filter_eq_append_iff.mp split
    obtain ⟨skipped, after, rfl, blank, shows, _⟩ := List.filter_eq_cons_iff.mp later
    refine ⟨before ++ skipped, line, after, by simp [lines], ?_,
      fun passes => malformed (passes_iff.mp passes shows), rfl⟩
    intro earlier member
    rw [passes_iff]
    intro shows
    rcases List.mem_append.mp member with front | gap
    · exact wellFormed earlier (List.mem_filter.mpr ⟨front, shows⟩)
    · exact absurd shows (blank earlier gap)
  · rintro ⟨before, line, after, lines, passes, stuck, rfl⟩
    obtain ⟨shows, malformed⟩ := Classical.not_imp.mp (mt passes_iff.mpr stuck)
    rw [lines, List.filter_append, List.filter_cons, if_pos shows]
    refine ⟨_, line, _, rfl, ?_, malformed, rfl⟩
    intro earlier member
    obtain ⟨front, shows⟩ := List.mem_filter.mp member
    exact passes_iff.mp (passes earlier front) shows

/-- Reading undoes writing, for all windows that can be listed. Any output is read if and only if
each of its lines is blank or begins as a window's id and has four tabs; then it is read as one
window for each line that is not blank, in their order. Otherwise the first other line is
reported. -/
theorem listing_decoded
    : (∀ {windows : List Window} {output : String},
          Listing windows output.toList → parseList output = .ok windows)
      ∧ ∀ output : String,
          (∀ windows,
              parseList output = .ok windows
              ↔ List.Forall₂ Describes (listingLines output.toList) windows)
          ∧ ((∃ windows, parseList output = .ok windows)
            ↔ ∀ line ∈ Text.outputLines output.toList, Passes line)
          ∧ ∀ error,
              parseList output = .error error
              ↔ ∃ before line after,
                  Text.outputLines output.toList = before ++ line :: after
                  ∧ (∀ earlier ∈ before, Passes earlier)
                  ∧ ¬Passes line
                  ∧ error = .unexpectedOutput (String.ofList line) := by
  refine ⟨fun listing => parseList_eq_ok_iff.mpr listing.describes, fun output => ?_⟩
  exact ⟨fun _ => parseList_eq_ok_iff, exists_parseList_iff, fun _ => parseList_eq_error_iff⟩

/-- A name with a tab, a dead window without a name, and blank lines behind both. -/
theorem listing_decoded_dead_window
    : let live : Window := ⟨⟨"@1", "hs:\trun", none⟩, true⟩
      let dead : Window := ⟨⟨"@12", "", some (-9)⟩, false⟩
      let output := "@1\t0\t\t1\ths:\trun\n \r\n@12\t1\t-9\t0\t\n\n"
      Listing [live, dead] output.toList ∧ parseList output = .ok [live, dead] := by
  intro live dead output
  have status : (Text.Decimal.writeInt (.negSucc 8)).toList = ['-', '9'] := by
    rw [Text.Decimal.toList_writeInt_negSucc, Text.Decimal.digits]
    rfl
  have written
      : live.line ++ '\n' :: ([' ', '\r'] ++ '\n' :: (dead.line ++ '\n' :: ([] ++ ['\n'])))
        = output.toList := by
    simp only [live, dead, output, line, show (-9 : Int) = .negSucc 8 from rfl,
      String.toList_append, status]
    rfl
  have liveListable : live.Listable := by constructor <;> decide
  have deadListable : dead.Listable := by constructor <;> decide
  have listing : Listing [live, dead] output.toList := by
    rw [← written]
    exact .window liveListable
      (.blank (by simp [Text.isBlank]) (by decide)
        (.window deadListable (.blank (by simp) (by simp) .nil)))
  exact ⟨listing, listing_decoded.1 listing⟩

end Tmux.Window

end CellRunner

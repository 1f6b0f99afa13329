import CellRunner.Proofs.CommandLine.Spellings

/-!
The arguments of a send request are a row of parts: paths, and flags with the argument behind
each. They are read part by part, so what they ask for depends on the values of every flag and
not on how the flags are mixed.
-/

namespace CellRunner.CommandLine

/-- A path, which must not look like a flag, or a flag with its value, which may be anything. -/
inductive SendPart where
  | path (text : String) (plain : isLongFlag text = false)
  | setting (flag : SendFlag) (value : String)

namespace SendPart

def arguments : SendPart → List String
  | path text _ => [text]
  | setting flag value => [flag.text, value]

def path? : SendPart → Option String
  | path text _ => some text
  | setting _ _ => none

def value? (wanted : SendFlag) : SendPart → Option String
  | path _ _ => none
  | setting flag value => if flag = wanted then some value else none

end SendPart

/-- The arguments that the parts are written as. -/
def spelledOut (parts : List SendPart) : List String :=
  parts.flatMap SendPart.arguments

def pathsOf (parts : List SendPart) : List String :=
  parts.filterMap SendPart.path?

/-- The values of a flag in their order. -/
def valuesOf (flag : SendFlag) (parts : List SendPart) : List String :=
  parts.filterMap (SendPart.value? flag)

-----------------------------------------------------------------------------------------
-- Reading part by part
-----------------------------------------------------------------------------------------

theorem SendFlag.text_of_ofText? {argument : String} {flag : SendFlag}
    (known : SendFlag.ofText? argument = some flag)
    : flag.text = argument := by
  simpa using List.find?_some known

namespace SendDraft

/-- The draft with a part put in; nothing for a second path or a value that the flag cannot
have. -/
def put? (draft : SendDraft) : SendPart → Option SendDraft
  | .path text _ => if draft.path.isSome then none else some { draft with path := some text }
  | .setting flag value => draft.set? flag value

/-- Arguments that are read are the arguments of a row of parts. -/
theorem exists_parts {draft final : SendDraft} {arguments : List String}
    (read : draft.read arguments = .ok final)
    : ∃ parts, arguments = spelledOut parts := by
  fun_induction SendDraft.read draft arguments with
  | case1 => exact ⟨[], rfl⟩
  | case2 draft argument rest _ next added ih =>
      obtain ⟨parts, rfl⟩ := ih read
      simp only [addPath] at added
      split at added
      · cases added
      · next fresh =>
          have plain : isLongFlag argument = false := by
            simp only [Bool.or_eq_true, not_or, Bool.not_eq_true] at fresh
            exact fresh.1
          exact ⟨.path argument plain :: parts, by simp [spelledOut, SendPart.arguments]⟩
  | case3 => cases read
  | case4 => cases read
  | case5 draft argument flag known value rest next _ ih =>
      obtain ⟨parts, rfl⟩ := ih read
      have same : flag.text = argument := SendFlag.text_of_ofText? known
      exact ⟨.setting flag value :: parts, by simp [spelledOut, SendPart.arguments, same]⟩
  | case6 => cases read

/-- The parts are put in one after the other. -/
theorem read_spelledOut {draft final : SendDraft} {parts : List SendPart}
    : draft.read (spelledOut parts) = .ok final ↔ parts.foldlM put? draft = some final := by
  induction parts generalizing draft with
  | nil => simp [spelledOut, SendDraft.read]
  | cons part rest ih =>
      rw [List.foldlM_cons]
      cases part with
      | path text plain =>
          have arguments : spelledOut (.path text plain :: rest) = text :: spelledOut rest := by
            simp [spelledOut, SendPart.arguments]
          rw [arguments, SendDraft.read, SendFlag.ofText?_of_plain plain]
          cases known : draft.path with
          | some _ => simp [addPath, put?, known]
          | none => simp [addPath, put?, known, plain, ih]
      | setting flag value =>
          have arguments : spelledOut (.setting flag value :: rest)
              = flag.text :: value :: spelledOut rest := by
            simp [spelledOut, SendPart.arguments]
          rw [arguments, SendDraft.read, SendFlag.ofText?_text]
          cases set : draft.set? flag value with
          | none => simp [put?, set]
          | some next => simp [put?, set, ih]

end SendDraft

-----------------------------------------------------------------------------------------
-- The last values
-----------------------------------------------------------------------------------------

/-- What a flag comes to with several values: each of them spells something, and the last one
counts. Without a value, what was there before counts. -/
structure Comes {α : Type} (spells : String → α → Prop) (earlier : Option α)
    (values : List String) (last : Option α)
    : Prop where
  spelled : ∀ value ∈ values, ∃ a, spells value a
  missing : values = [] → last = earlier
  counts : ∀ value, values.getLast? = some value → ∃ a, last = some a ∧ spells value a

namespace Comes

variable {α : Type} {spells : String → α → Prop} {earlier last : Option α}

theorem nil
    : Comes spells earlier [] last ↔ last = earlier :=
  ⟨fun h => h.missing rfl, fun same => ⟨by simp, fun _ => same, by simp⟩⟩

theorem cons {value : String} {values : List String}
    : Comes spells earlier (value :: values) last
      ↔ ∃ a, spells value a ∧ Comes spells (some a) values last := by
  cases values with
  | nil =>
      simp only [nil]
      constructor
      · intro h
        obtain ⟨a, rfl, spelled⟩ := h.counts value rfl
        exact ⟨a, spelled, rfl⟩
      · rintro ⟨a, spelled, rfl⟩
        refine ⟨by simpa using ⟨a, spelled⟩, by simp, ?_⟩
        intro final only
        obtain rfl : value = final := by simpa using only
        exact ⟨a, rfl, spelled⟩
  | cons second more =>
      constructor
      · intro h
        obtain ⟨a, first⟩ := h.spelled value List.mem_cons_self
        exact ⟨a, first, fun later member => h.spelled later (List.mem_cons_of_mem _ member),
          by simp, fun final ends => h.counts final (by rwa [List.getLast?_cons_cons])⟩
      · rintro ⟨a, first, h⟩
        refine ⟨?_, by simp, fun final ends => h.counts final (by rwa [← List.getLast?_cons_cons])⟩
        intro later member
        rcases List.mem_cons.mp member with rfl | behind
        · exact ⟨a, first⟩
        · exact h.spelled later behind

end Comes

/-- What parts make of a draft. -/
structure Collected (draft : SendDraft) (parts : List SendPart) (final : SendDraft) : Prop where
  path : final.path.toList = draft.path.toList ++ pathsOf parts
  since : Comes SpellsNumber draft.since (valuesOf .since parts) final.since
  before : Comes SpellsEnd draft.before (valuesOf .before parts) final.before
  selection : Comes SpellsSelection draft.selection (valuesOf .selection parts) final.selection
  command : Comes Eq draft.command (valuesOf .command parts) final.command

theorem collected_nil {draft final : SendDraft}
    : Collected draft [] final ↔ draft = final := by
  constructor
  · rintro ⟨path, since, before, selection, command⟩
    rcases draft with ⟨draftPath, _, _, _, _⟩
    rcases final with ⟨finalPath, _, _, _, _⟩
    obtain rfl := Comes.nil.mp since
    obtain rfl := Comes.nil.mp before
    obtain rfl := Comes.nil.mp selection
    obtain rfl := Comes.nil.mp command
    rw [pathsOf, List.filterMap_nil, List.append_nil] at path
    have same : finalPath = draftPath := by
      cases finalPath <;> cases draftPath <;> simp_all
    rw [same]
  · rintro rfl
    exact ⟨by simp [pathsOf], Comes.nil.mpr rfl, Comes.nil.mpr rfl, Comes.nil.mpr rfl,
      Comes.nil.mpr rfl⟩

/-- A part changes one field of the draft, and only the values for this field are one more. -/
theorem collected_cons {draft final : SendDraft} {part : SendPart} {rest : List SendPart}
    : Collected draft (part :: rest) final
      ↔ ∃ next, draft.put? part = some next ∧ Collected next rest final := by
  cases part with
  | path text plain =>
      cases known : draft.path with
      | some first =>
          refine iff_of_false ?_ (by simp [SendDraft.put?, known])
          rintro ⟨path, _, _, _, _⟩
          have two := congrArg List.length path
          have one := Option.length_toList_le (o := final.path)
          simp only [known, Option.toList_some, pathsOf, List.filterMap_cons, SendPart.path?,
            List.length_append, List.length_cons, List.length_nil] at two
          omega
      | none =>
          simp only [SendDraft.put?, known, Option.isSome_none, Bool.false_eq_true, if_false,
            Option.some.injEq, exists_eq_left']
          constructor
          · rintro ⟨path, since, before, selection, command⟩
            exact ⟨by simpa [known, pathsOf, SendPart.path?] using path, since, before, selection,
              command⟩
          · rintro ⟨path, since, before, selection, command⟩
            exact ⟨by simpa [known, pathsOf, SendPart.path?] using path, since, before, selection,
              command⟩
  | setting flag value =>
      cases flag with
      | since =>
          simp only [SendDraft.put?, SendDraft.set?, Option.map_eq_some_iff,
            Text.Decimal.readWord?_eq_some_iff]
          constructor
          · rintro ⟨path, since, before, selection, command⟩
            obtain ⟨n, number, later⟩ := Comes.cons.mp since
            exact ⟨_, ⟨n, number, rfl⟩, path, later, before, selection, command⟩
          · rintro ⟨_, ⟨n, number, rfl⟩, path, later, before, selection, command⟩
            exact ⟨path, Comes.cons.mpr ⟨n, number, later⟩, before, selection, command⟩
      | before =>
          simp only [SendDraft.put?, SendDraft.set?, Option.map_eq_some_iff,
            readRangeEnd?_eq_some_iff]
          constructor
          · rintro ⟨path, since, before, selection, command⟩
            obtain ⟨stop, spelled, later⟩ := Comes.cons.mp before
            exact ⟨_, ⟨stop, spelled, rfl⟩, path, since, later, selection, command⟩
          · rintro ⟨_, ⟨stop, spelled, rfl⟩, path, since, later, selection, command⟩
            exact ⟨path, since, Comes.cons.mpr ⟨stop, spelled, later⟩, selection, command⟩
      | selection =>
          simp only [SendDraft.put?, SendDraft.set?, Option.map_eq_some_iff,
            readSelection?_eq_some_iff]
          constructor
          · rintro ⟨path, since, before, selection, command⟩
            obtain ⟨selected, spelled, later⟩ := Comes.cons.mp selection
            exact ⟨_, ⟨selected, spelled, rfl⟩, path, since, before, later, command⟩
          · rintro ⟨_, ⟨selected, spelled, rfl⟩, path, since, before, later, command⟩
            exact ⟨path, since, before, Comes.cons.mpr ⟨selected, spelled, later⟩, command⟩
      | command =>
          simp only [SendDraft.put?, SendDraft.set?, Option.some.injEq, exists_eq_left']
          constructor
          · rintro ⟨path, since, before, selection, command⟩
            obtain ⟨_, rfl, later⟩ := Comes.cons.mp command
            exact ⟨path, since, before, selection, later⟩
          · rintro ⟨path, since, before, selection, later⟩
            exact ⟨path, since, before, selection, Comes.cons.mpr ⟨value, rfl, later⟩⟩

theorem collected_iff {draft final : SendDraft} {parts : List SendPart}
    : parts.foldlM SendDraft.put? draft = some final ↔ Collected draft parts final := by
  induction parts generalizing draft with
  | nil => simp [collected_nil]
  | cons part rest ih =>
      rw [List.foldlM_cons, collected_cons]
      simp only [bind, Option.bind_eq_some_iff, ih]

end CellRunner.CommandLine

import CellRunner.Proofs.CommandLine.SendGrammar
import Mathlib.Data.List.Perm.Basic

/-!
Which command lines are send requests. The arguments of `send` are accepted exactly if they are
written in its grammar, and then they ask for one path and for the last value of each flag; so
the order of parts for different flags does not matter.
-/

namespace CellRunner.CommandLine

-----------------------------------------------------------------------------------------
-- Options for the program
-----------------------------------------------------------------------------------------

inductive GlobalOption where
  | workspace (short : Bool) (directory : String)
  | logLevel (level : String)

namespace GlobalOption

def arguments : GlobalOption → List String
  | workspace short directory => [if short then "-w" else "--workspace", directory]
  | logLevel level => ["--log-level", level]

def directory? : GlobalOption → Option String
  | workspace _ directory => some directory
  | logLevel _ => none

def level? : GlobalOption → Option String
  | workspace _ _ => none
  | logLevel level => some level

end GlobalOption

/-- A command line of `send` behind options for the program. -/
def sendLine (given : List GlobalOption) (arguments : List String) : List String :=
  given.flatMap GlobalOption.arguments ++ "send" :: arguments

/-- What a command line of `send` is parsed to: the last workspace and the last log level that
are given, and the request. -/
def sendInvocation (given : List GlobalOption) (request : SendRequest) : Invocation where
  workspace := (given.filterMap GlobalOption.directory?).getLast?
  logLevel := (given.filterMap GlobalOption.level?).getLast?
  action := .request (.send request)

/-- The options in front of a send request are read first, the last one of a kind counting, by
induction on the options. -/
theorem read_sendLine (options : Options) (given : List GlobalOption) (arguments : List String)
    : options.read (sendLine given arguments)
      = (readSend arguments).map (fun request =>
          ⟨(given.filterMap GlobalOption.directory?).getLast?.or options.workspace,
            (given.filterMap GlobalOption.level?).getLast?.or options.logLevel,
            .request (.send request)⟩) := by
  induction given generalizing options with
  | nil =>
      cases read : readSend arguments
        <;> simp [sendLine, Options.read, readRequest, read, Except.map, Options.invoke]
  | cons first rest ih =>
      cases first with
      | workspace short directory =>
          have next : options.read (sendLine (.workspace short directory :: rest) arguments)
              = { options with workspace := some directory }.read (sendLine rest arguments) := by
            cases short <;> simp [sendLine, GlobalOption.arguments, Options.read]
          rw [next, ih]
          simp [GlobalOption.directory?, GlobalOption.level?, List.getLast?_cons]
      | logLevel level =>
          have next : options.read (sendLine (.logLevel level :: rest) arguments)
              = { options with logLevel := some level }.read (sendLine rest arguments) := by
            simp [sendLine, GlobalOption.arguments, Options.read]
          rw [next, ih]
          simp [GlobalOption.directory?, GlobalOption.level?, List.getLast?_cons]

/-- A line is a send request if what follows its options reads as one, by reading the options first.
-/
theorem ofArguments_sendLine {given : List GlobalOption} {arguments : List String}
    {invocation : Invocation}
    : Invocation.ofArguments (sendLine given arguments) = .ok invocation
      ↔ ∃ request,
          readSend arguments = .ok request ∧ invocation = sendInvocation given request := by
  rw [Invocation.ofArguments, read_sendLine]
  cases readSend arguments with
  | error => simp [Except.map]
  | ok request => simp [Except.map, sendInvocation, eq_comm]

-----------------------------------------------------------------------------------------
-- What parts ask for
-----------------------------------------------------------------------------------------

/-- The rules of the grammar beyond its parts. -/
structure Grammatical (parts : List SendPart) : Prop where
  onePath : (pathsOf parts).length = 1
  numbers : ∀ value ∈ valuesOf .since parts, ∃ n, SpellsNumber value n
  ends : ∀ value ∈ valuesOf .before parts, ∃ stop, SpellsEnd value stop
  selections : ∀ value ∈ valuesOf .selection parts, ∃ selection, SpellsSelection value selection
  paired : valuesOf .since parts = [] ↔ valuesOf .before parts = []
  exclusive : valuesOf .since parts = [] ∨ valuesOf .selection parts = []

/-- The request that parts are written for. -/
structure Asks (parts : List SendPart) (request : SendRequest) : Prop where
  path : pathsOf parts = [request.path]
  since : Comes SpellsNumber none (valuesOf .since parts) (request.range.map (·.since))
  before : Comes SpellsEnd none (valuesOf .before parts) (request.range.map (·.before))
  selection : Comes SpellsSelection none (valuesOf .selection parts) request.selection
  command : Comes Eq none (valuesOf .command parts) request.command
  exclusive : request.range = none ∨ request.selection = none

namespace Comes

variable {α : Type} {spells : String → α → Prop} {values : List String} {last : Option α}

/-- There is a last value if there are values at all, by cases on how it comes. -/
theorem eq_none_iff (h : Comes spells none values last)
    : last = none ↔ values = [] := by
  constructor
  · intro absent
    cases final : values.getLast? with
    | none => exact List.getLast?_eq_none_iff.mp final
    | some value =>
        obtain ⟨a, present, _⟩ := h.counts value final
        simp [absent] at present
  · exact h.missing

/-- Values that are all spelled have a last one, by induction on the values. -/
theorem exists_of_spelled (spelled : ∀ value ∈ values, ∃ a, spells value a)
    : ∃ last, Comes spells none values last := by
  cases final : values.getLast? with
  | none => exact ⟨none, spelled, fun _ => rfl, by simp [final]⟩
  | some value =>
      obtain ⟨a, counts⟩ := spelled value (List.mem_of_getLast? final)
      refine ⟨some a, spelled, ?_, ?_⟩
      · rintro rfl
        simp at final
      · intro other same
        obtain rfl : value = other := by simpa [final] using same
        exact ⟨a, rfl, counts⟩

/-- At most one value that spells what is there. -/
theorem of_toList {text : α → String} (spelled : ∀ a, last = some a → spells (text a) a)
    : Comes spells none (last.toList.map text) last := by
  cases last with
  | none => exact nil.mpr rfl
  | some a => exact cons.mpr ⟨a, spelled a rfl, nil.mpr rfl⟩

end Comes

namespace SendDraft

/-- A draft has a range if both bounds are given or neither is, by cases on the bounds. -/
theorem range_eq_ok_iff {draft : SendDraft} {range : Option LineRange}
    : draft.range = .ok range
      ↔ draft.since = range.map (·.since) ∧ draft.before = range.map (·.before) := by
  rcases draft with ⟨_, _ | since, _ | before, _, _⟩
    <;> rcases range with _ | ⟨first, stop⟩
    <;> simp [SendDraft.range]

/-- A draft makes a request if it has a path and not both a range and a selection, by cases on what
is given. -/
theorem finish_iff {draft : SendDraft} {request : SendRequest}
    : draft.finish = .ok request
      ↔ draft.path = some request.path
        ∧ draft.since = request.range.map (·.since)
        ∧ draft.before = request.range.map (·.before)
        ∧ draft.selection = request.selection
        ∧ draft.command = request.command
        ∧ (request.range = none ∨ request.selection = none) := by
  have course : draft.finish = .ok request
      ↔ ∃ range path,
          draft.range = .ok range
          ∧ draft.path = some path
          ∧ (range = none ∨ draft.selection = none)
          ∧ (⟨path, range, draft.selection, draft.command⟩ : SendRequest) = request := by
    cases ranged : draft.range with
    | error => simp [finish, ranged, bind, Except.bind]
    | ok range =>
        cases range <;> cases selected : draft.selection <;> cases named : draft.path
          <;> simp [finish, ranged, selected, named, bind, Except.bind, pure, Except.pure, throw,
            throwThe, MonadExceptOf.throw]
  rw [course]
  constructor
  · rintro ⟨range, path, ranged, named, exclusive, rfl⟩
    obtain ⟨since, before⟩ := range_eq_ok_iff.mp ranged
    exact ⟨named, since, before, rfl, rfl, exclusive⟩
  · rintro ⟨named, since, before, selected, wanted, exclusive⟩
    exact ⟨request.range, request.path, range_eq_ok_iff.mpr ⟨since, before⟩, named,
      by rwa [selected], by rw [selected, wanted]⟩

end SendDraft

/-- Arguments are read as the request that their parts ask for, by what reading collects of each
part. -/
theorem readSend_spelledOut {parts : List SendPart} {request : SendRequest}
    : readSend (spelledOut parts) = .ok request ↔ Asks parts request := by
  have collected : readSend (spelledOut parts) = .ok request
      ↔ ∃ final, Collected {} parts final ∧ final.finish = .ok request := by
    simp only [← collected_iff, ← SendDraft.read_spelledOut, readSend]
    cases SendDraft.read {} (spelledOut parts) <;> simp [bind, Except.bind]
  rw [collected]
  constructor
  · rintro ⟨final, ⟨path, since, before, selection, command⟩, finished⟩
    obtain ⟨onePath, hasSince, hasBefore, hasSelection, hasCommand, exclusive⟩ :=
      SendDraft.finish_iff.mp finished
    exact ⟨by simpa [onePath] using path.symm, hasSince ▸ since, hasBefore ▸ before,
      hasSelection ▸ selection, hasCommand ▸ command, exclusive⟩
  · rintro ⟨path, since, before, selection, command, exclusive⟩
    exact ⟨⟨_, _, _, _, _⟩, ⟨by simp [path], since, before, selection, command⟩,
      SendDraft.finish_iff.mpr ⟨rfl, rfl, rfl, rfl, rfl, exclusive⟩⟩

/-- Parts are grammatical if they ask for a request, by putting the request together from the values
that come last. -/
theorem grammatical_iff {parts : List SendPart}
    : Grammatical parts ↔ ∃ request, Asks parts request := by
  constructor
  · rintro ⟨onePath, numbers, ends, selections, paired, exclusive⟩
    obtain ⟨path, only⟩ := List.length_eq_one_iff.mp onePath
    obtain ⟨since, hasSince⟩ := Comes.exists_of_spelled numbers
    obtain ⟨before, hasBefore⟩ := Comes.exists_of_spelled ends
    obtain ⟨selection, hasSelection⟩ := Comes.exists_of_spelled selections
    obtain ⟨command, hasCommand⟩ : ∃ command, Comes Eq none (valuesOf .command parts) command :=
      Comes.exists_of_spelled (fun value _ => ⟨value, rfl⟩)
    have together : since = none ↔ before = none := by
      rw [hasSince.eq_none_iff, hasBefore.eq_none_iff, paired]
    have apart : since = none ∨ selection = none := by
      rwa [hasSince.eq_none_iff, hasSelection.eq_none_iff]
    obtain ⟨range, rfl, rfl⟩ : ∃ range : Option LineRange,
        since = range.map (·.since) ∧ before = range.map (·.before) := by
      rcases since with _ | since <;> rcases before with _ | before
      · exact ⟨none, rfl, rfl⟩
      · simp at together
      · simp at together
      · exact ⟨some ⟨since, before⟩, rfl, rfl⟩
    exact ⟨⟨path, range, selection, command⟩, only, hasSince, hasBefore, hasSelection, hasCommand,
      by simpa using apart⟩
  · rintro ⟨request, path, since, before, selection, command, exclusive⟩
    refine ⟨by simp [path], since.spelled, before.spelled, selection.spelled, ?_, ?_⟩
    · rw [← since.eq_none_iff, ← before.eq_none_iff, Option.map_eq_none_iff,
        Option.map_eq_none_iff]
    · rwa [← since.eq_none_iff, ← selection.eq_none_iff, Option.map_eq_none_iff]

-----------------------------------------------------------------------------------------
-- The order of parts
-----------------------------------------------------------------------------------------

/-- The same paths, and for every flag the same values, in the same order. Between different
flags the order may be another one. -/
structure SameGroups (parts others : List SendPart) : Prop where
  paths : pathsOf parts = pathsOf others
  values : ∀ flag, valuesOf flag parts = valuesOf flag others

theorem SameGroups.symm {parts others : List SendPart} (same : SameGroups parts others)
    : SameGroups others parts :=
  ⟨same.paths.symm, fun flag => (same.values flag).symm⟩

/-- What parts ask for is told by their groups alone. -/
theorem Asks.of_same {parts others : List SendPart} {request : SendRequest}
    (asks : Asks parts request) (same : SameGroups parts others)
    : Asks others request :=
  ⟨same.paths ▸ asks.path, same.values .since ▸ asks.since, same.values .before ▸ asks.before,
    same.values .selection ▸ asks.selection, same.values .command ▸ asks.command, asks.exclusive⟩

/-- Where nothing is given twice, every order has the same groups. -/
theorem SameGroups.of_perm {parts others : List SendPart} (perm : parts.Perm others)
    (onePath : (pathsOf others).length ≤ 1)
    (oneValue : ∀ flag, (valuesOf flag others).length ≤ 1)
    : SameGroups parts others := by
  have short {texts permuted : List String} (perm : permuted.Perm texts)
      (few : texts.length ≤ 1)
      : permuted = texts := by
    rcases texts with _ | ⟨text, _ | _⟩
    · exact List.perm_nil.mp perm
    · exact List.perm_singleton.mp perm
    · simp at few
  exact ⟨short (perm.filterMap _) onePath, fun flag => short (perm.filterMap _) (oneValue flag)⟩

-----------------------------------------------------------------------------------------
-- Printed requests
-----------------------------------------------------------------------------------------

/-- A request whose numbers are machine words, whose selection is in order, and which has at
most one of a range and a selection. -/
structure Regular (request : SendRequest) : Prop where
  since : ∀ range, request.range = some range → range.since < Text.Decimal.wordLimit
  before
    : ∀ range n, request.range = some range → range.before = .line n → n < Text.Decimal.wordLimit
  selection
    : ∀ selection, request.selection = some selection →
      PositionFits selection.start ∧ PositionFits selection.stop
        ∧ selection.start ≤ selection.stop
  exclusive : request.range = none ∨ request.selection = none

/-- The parts that a request is printed as. -/
def printed (request : SendRequest) (plain : isLongFlag request.path = false) : List SendPart :=
  .path request.path plain
    :: (request.range.toList.map (fun range =>
          .setting .since (Text.Decimal.write range.since))
        ++ request.range.toList.map (fun range => .setting .before range.before.text)
        ++ request.selection.toList.map (fun selection =>
          .setting .selection (selectionText selection))
        ++ request.command.toList.map (fun command => .setting .command command))

/-- The printed parts of a request hold its path, by cases on what is given. -/
theorem pathsOf_printed (request : SendRequest) (plain : isLongFlag request.path = false)
    : pathsOf (printed request plain) = [request.path] := by
  simp [printed, pathsOf, SendPart.path?, List.filterMap_append, List.filterMap_map,
    Function.comp_def]

/-- The values that a request is printed with for a flag. -/
def printedValues (request : SendRequest) : SendFlag → List String
  | .since => (request.range.map (·.since)).toList.map Text.Decimal.write
  | .before => (request.range.map (·.before)).toList.map RangeEnd.text
  | .selection => request.selection.toList.map selectionText
  | .command => request.command.toList.map id

/-- The printed parts of a request hold its values for each flag, by cases on the flag and on what
is given. -/
theorem valuesOf_printed (request : SendRequest) (plain : isLongFlag request.path = false)
    (flag : SendFlag)
    : valuesOf flag (printed request plain) = printedValues request flag := by
  rcases request with ⟨path, range, selection, command⟩
  cases range <;> cases selection <;> cases command <;> cases flag <;> rfl

/-- The printed parts of a request ask for it, by reading back each printed value. -/
theorem asks_printed {request : SendRequest} (plain : isLongFlag request.path = false)
    (regular : Regular request)
    : Asks (printed request plain) request := by
  refine ⟨pathsOf_printed request plain, ?_, ?_, ?_, ?_, regular.exclusive⟩
    <;> rw [valuesOf_printed] <;> apply Comes.of_toList
  · intro since present
    obtain ⟨range, given, rfl⟩ := Option.map_eq_some_iff.mp present
    exact .write (regular.since range given)
  · intro before present
    obtain ⟨range, given, rfl⟩ := Option.map_eq_some_iff.mp present
    exact readRangeEnd?_eq_some_iff.mp (readRangeEnd?_text fun n => regular.before range n given)
  · intro selection given
    obtain ⟨start, stop, ordered⟩ := regular.selection selection given
    exact spellsSelection_text start stop ordered
  · intro command _
    rfl

/-- Parts in another order have the groups of the printed ones, as no group of these has two
members. -/
theorem sameGroups_printed {request : SendRequest} {plain : isLongFlag request.path = false}
    {parts : List SendPart} (perm : parts.Perm (printed request plain))
    : SameGroups parts (printed request plain) := by
  refine .of_perm perm (by simp [pathsOf_printed]) fun flag => ?_
  rw [valuesOf_printed]
  cases flag <;> simp [printedValues, Option.length_toList_le]

-----------------------------------------------------------------------------------------
-- Command lines of send requests
-----------------------------------------------------------------------------------------

/-- A selection that is asked for is ordered, as reading orders its positions. -/
theorem Asks.selection_ordered {parts : List SendPart} {request : SendRequest}
    (asks : Asks parts request) {selection : Selection} (given : request.selection = some selection)
    : selection.start ≤ selection.stop := by
  cases final : (valuesOf .selection parts).getLast? with
  | none =>
      have absent := asks.selection.missing (List.getLast?_eq_none_iff.mp final)
      simp [given] at absent
  | some value =>
      obtain ⟨_, present, _, _, a, b, _, _, _, rfl⟩ := asks.selection.counts value final
      obtain rfl := Option.some.inj (given.symm.trans present)
      exact Selection.between_ordered a b

/-- A line with options is a send request if its parts ask for one, by both readings. -/
theorem ofArguments_spelledOut {given : List GlobalOption} {parts : List SendPart}
    {invocation : Invocation}
    : Invocation.ofArguments (sendLine given (spelledOut parts)) = .ok invocation
      ↔ ∃ request, Asks parts request ∧ invocation = sendInvocation given request := by
  simp only [ofArguments_sendLine, readSend_spelledOut]

/-- Arguments that are read as a request are made of parts, by following what reading takes off. -/
theorem exists_parts_of_readSend {arguments : List String} {request : SendRequest}
    (read : readSend arguments = .ok request)
    : ∃ parts, arguments = spelledOut parts := by
  cases drafted : SendDraft.read {} arguments with
  | error => simp [readSend, drafted, bind, Except.bind] at read
  | ok final => exact SendDraft.exists_parts drafted

/-- Behind any options for the program, the arguments of `send` are accepted exactly if they are
parts in any order that keep the rules of the grammar. The request has the one path and the last
value of every flag, and its selection is in order. Every order of the parts that a request is
printed as is read back as this request, and parts for different flags may change places. -/
theorem send_arguments_grammar (given : List GlobalOption)
    : (∀ arguments,
        (∃ invocation, Invocation.ofArguments (sendLine given arguments) = .ok invocation)
        ↔ ∃ parts, arguments = spelledOut parts ∧ Grammatical parts)
      ∧ (∀ parts invocation,
          Invocation.ofArguments (sendLine given (spelledOut parts)) = .ok invocation
          ↔ ∃ request, Asks parts request ∧ invocation = sendInvocation given request)
      ∧ (∀ parts request selection,
          Asks parts request →
          request.selection = some selection →
          selection.start ≤ selection.stop)
      ∧ (∀ request (plain : isLongFlag request.path = false),
          Regular request →
          ∀ parts,
            parts.Perm (printed request plain) →
            Invocation.ofArguments (sendLine given (spelledOut parts))
              = .ok (sendInvocation given request))
      ∧ ∀ parts others,
          SameGroups parts others →
          ∀ invocation,
            Invocation.ofArguments (sendLine given (spelledOut parts)) = .ok invocation
            ↔ Invocation.ofArguments (sendLine given (spelledOut others)) = .ok invocation := by
  refine ⟨?accepted, fun _ _ => ofArguments_spelledOut, ?ordered,
    ?printed, ?permuted⟩
  case accepted =>
    intro arguments
    constructor
    · rintro ⟨invocation, accepted⟩
      obtain ⟨request, read, rfl⟩ := ofArguments_sendLine.mp accepted
      obtain ⟨parts, rfl⟩ := exists_parts_of_readSend read
      exact ⟨parts, rfl, grammatical_iff.mpr ⟨request, readSend_spelledOut.mp read⟩⟩
    · rintro ⟨parts, rfl, grammatical⟩
      obtain ⟨request, asks⟩ := grammatical_iff.mp grammatical
      exact ⟨_, ofArguments_spelledOut.mpr ⟨request, asks, rfl⟩⟩
  case ordered =>
    intro parts request selection asks present
    exact asks.selection_ordered present
  case printed =>
    intro request plain regular parts perm
    have asks : Asks parts request :=
      (asks_printed plain regular).of_same (sameGroups_printed perm).symm
    exact ofArguments_spelledOut.mpr ⟨request, asks, rfl⟩
  case permuted =>
    intro parts others same invocation
    simp only [ofArguments_spelledOut]
    constructor
    · rintro ⟨request, asks, rfl⟩
      exact ⟨request, asks.of_same same, rfl⟩
    · rintro ⟨request, asks, rfl⟩
      exact ⟨request, asks.of_same same.symm, rfl⟩

/-- A command that looks like a flag stands before the selection and the path, and another
command has been given up for it; the later one of two workspaces counts. -/
theorem send_arguments_grammar_mixed
    : ∃ given request parts plain others,
        given = [.workspace true "a", .logLevel "debug", .workspace false "b"]
        ∧ request = ⟨"x.edh", none, some ⟨⟨0, 1⟩, ⟨2, 3⟩⟩, some "--since"⟩
        ∧ Regular request
        ∧ parts.Perm (printed request plain)
        ∧ sendLine given (spelledOut parts)
          = ["-w", "a", "--log-level", "debug", "--workspace", "b", "send", "--cmd", "--since",
              "--selection", "0:1-2:3", "x.edh"]
        ∧ Invocation.ofArguments (sendLine given (spelledOut parts))
          = .ok ⟨some "b", some "debug", .request (.send request)⟩
        ∧ spelledOut others
          = ["--cmd", "hs", "x.edh", "--selection", "2:3-+0:1", "--cmd", "--since"]
        ∧ Invocation.ofArguments (sendLine given (spelledOut others))
          = .ok ⟨some "b", some "debug", .request (.send request)⟩ := by
  have selection : SpellsSelection "2:3-+0:1" ⟨⟨0, 1⟩, ⟨2, 3⟩⟩ :=
    readSelection?_eq_some_iff.mp (by decide)
  let request : SendRequest := ⟨"x.edh", none, some ⟨⟨0, 1⟩, ⟨2, 3⟩⟩, some "--since"⟩
  have digit {n : Nat} (small : n < 10)
      : Text.Decimal.write n = String.ofList [Text.Decimal.digit n] := by
    rw [Text.Decimal.write, Text.Decimal.digits, if_pos small]
  have shown : selectionText ⟨⟨0, 1⟩, ⟨2, 3⟩⟩ = "0:1-2:3" := by
    simp [selectionText, positionText, digit, Text.Decimal.digit]
  have plain : isLongFlag request.path = false := by decide
  let given : List GlobalOption :=
    [.workspace true "a", .logLevel "debug", .workspace false "b"]
  let others : List SendPart :=
    [.setting .command "hs", .path "x.edh" plain, .setting .selection "2:3-+0:1",
      .setting .command "--since"]
  have regular : Regular request := by
    refine ⟨by simp [request], by simp [request], ?_, .inl rfl⟩
    rintro _ ⟨⟩
    exact ⟨⟨by decide, by decide⟩, ⟨by decide, by decide⟩, by decide⟩
  have asks : Asks others request :=
    ⟨rfl, Comes.nil.mpr rfl, Comes.nil.mpr rfl,
      Comes.cons.mpr ⟨_, selection, Comes.nil.mpr rfl⟩,
      Comes.cons.mpr ⟨_, rfl, Comes.cons.mpr ⟨_, rfl, Comes.nil.mpr rfl⟩⟩, .inl rfl⟩
  have grammar := send_arguments_grammar given
  refine ⟨given, request, (printed request plain).reverse, plain, others, rfl, rfl, regular,
    List.reverse_perm _, ?_, grammar.2.2.2.1 request plain regular _ (List.reverse_perm _), rfl,
    (grammar.2.1 others _).mpr ⟨request, asks, rfl⟩⟩
  simp [given, request, sendLine, GlobalOption.arguments, printed, spelledOut, SendPart.arguments,
    SendFlag.text, shown]

end CellRunner.CommandLine

import CellRunner.Config
import CellRunner.Project.Discovery
import CellRunner.Proofs.Project.FileOrder
import CellRunner.Proofs.Session.Exchange
import Mathlib.Data.List.Forall2
import Mathlib.Data.List.Perm.Basic

/-!
The commands that a workspace offers. They are the first occurrences of the commands of its
well-formed project files, in the order of the files; so neither the order in which a walk finds
the files nor a malformed file makes a difference.
-/

namespace CellRunner.Project

-----------------------------------------------------------------------------------------
-- What a file offers
-----------------------------------------------------------------------------------------

/-- The member `cmd` and the commands that it stands for. -/
inductive Shape : Option Json.Value → List String → Prop where
  | missing : Shape none []
  | null : Shape (some .null) []
  | one (command : String) : Shape (some (.string command)) [command]
  | many (commands : List String) : Shape (some (.array (commands.map .string))) commands

/-- A well-formed file can be read, is UTF-8, and holds a JSON object with such a member. -/
inductive Offers : Except FileError ByteArray → List String → Prop where
  | object {bytes text members commands}
      (utf8 : String.fromUTF8? bytes = some text)
      (json : Json.Value.parse? text = some (.object members))
      (shape : Shape (Json.Value.member? members "cmd") commands)
      : Offers (.ok bytes) commands

/-- A file contributes what it offers, and nothing if it is malformed. -/
def Contributes (content : Except FileError ByteArray) (commands : List String) : Prop :=
  Offers content commands ∨ (∀ others, ¬ Offers content others) ∧ commands = []

/-- A list is read as commands if all of its items are strings, by induction on the items. -/
theorem mapM_string?_eq_some_iff {items : List Json.Value} {commands : List String}
    : items.mapM Json.Value.string? = some commands ↔ items = commands.map .string := by
  induction items generalizing commands with
  | nil => cases commands <;> simp
  | cons item items ih =>
      have known : (item :: items).mapM Json.Value.string? = some commands
          ↔ ∃ first, item = .string first ∧ ∃ rest, items = rest.map .string
            ∧ first :: rest = commands := by
        cases item <;> simp [List.mapM_cons, Json.Value.string?, Option.bind_eq_some_iff, ih]
      rw [known]
      cases commands <;> simp [eq_comm]

/-- A member gives the commands that its shape stands for, by cases on the member. -/
theorem commandsOf?_eq_some_iff {member : Option Json.Value} {commands : List String}
    : commandsOf? member = some commands ↔ Shape member commands := by
  constructor
  · intro read
    unfold commandsOf? at read
    split at read
    · obtain rfl := Option.some.inj read
      exact .missing
    · obtain rfl := Option.some.inj read
      exact .null
    · obtain rfl := Option.some.inj read
      exact .one _
    · obtain rfl := mapM_string?_eq_some_iff.mp read
      exact .many commands
    · cases read
  · rintro (_ | _ | _ | _)
    · rfl
    · rfl
    · rfl
    · exact mapM_string?_eq_some_iff.mpr rfl

/-- The text of a file, if there is one. -/
def textOf? : Except FileError ByteArray → Option String
  | .ok bytes => String.fromUTF8? bytes
  | .error _ => none

def offered? (content : Except FileError ByteArray) : Option (List String) :=
  (textOf? content).bind (fun text => (readCommands text).toOption)

/-- A text gives commands if it is an object whose member has a shape, by cases on what it is parsed
to. -/
theorem readCommands_eq_ok_iff {text : String} {commands : List String}
    : readCommands text = .ok commands
      ↔ ∃ members,
          Json.Value.parse? text = some (.object members)
          ∧ Shape (Json.Value.member? members "cmd") commands := by
  simp only [← commandsOf?_eq_some_iff]
  unfold readCommands
  split
  · next malformed => simp [malformed]
  · next members object =>
      simp only [object, Option.some.injEq, Json.Value.object.injEq, exists_eq_left']
      cases commandsOf? (Json.Value.member? members "cmd") <;> simp
  · next value other parsed =>
      refine iff_of_false (by simp) ?_
      rintro ⟨members, object, _⟩
      exact other members (Option.some.inj (parsed.symm.trans object))

/-- A content offers what it is read as, by decoding it and reading its text. -/
theorem offered?_eq_some_iff {content : Except FileError ByteArray} {commands : List String}
    : offered? content = some commands ↔ Offers content commands := by
  constructor
  · intro offered
    obtain ⟨text, decoded, read⟩ := Option.bind_eq_some_iff.mp offered
    have accepted : readCommands text = .ok commands := by
      cases result : readCommands text <;> simp_all [Except.toOption]
    obtain ⟨members, json, shape⟩ := readCommands_eq_ok_iff.mp accepted
    cases content with
    | error => cases decoded
    | ok bytes => exact .object decoded json shape
  · rintro ⟨utf8, json, shape⟩
    have read := readCommands_eq_ok_iff.mpr ⟨_, json, shape⟩
    simp [offered?, textOf?, utf8, read, Except.toOption]

/-- A content contributes what it offers or else nothing, by cases on whether it offers anything. -/
theorem contributes_iff {content : Except FileError ByteArray} {commands : List String}
    : Contributes content commands ↔ commands = (offered? content).getD [] := by
  simp only [Contributes, ← offered?_eq_some_iff]
  cases offered? content <;> simp [eq_comm]

-----------------------------------------------------------------------------------------
-- First occurrences
-----------------------------------------------------------------------------------------

/-- The commands that are not blank, each once and in the order of their first occurrences. -/
structure FirstOccurrences (all kept : List String) : Prop where
  mem : ∀ command, command ∈ kept ↔ command ∈ all ∧ Text.allBlank command = false
  nodup : kept.Nodup
  ordered : kept.Pairwise (fun a b => all.idxOf a < all.idxOf b)

/-- Taking out other items does not change which of two items occurs first. -/
theorem idxOf_filter_lt_iff {keep : String → Bool} {items : List String} {a b : String}
    (keepA : keep a = true) (keepB : keep b = true)
    : (items.filter keep).idxOf a < (items.filter keep).idxOf b
      ↔ items.idxOf a < items.idxOf b := by
  induction items with
  | nil => simp
  | cons first rest ih =>
      by_cases kept : keep first = true
      · rw [List.filter_cons_of_pos kept]
        rcases eq_or_ne first a with rfl | notA
          <;> rcases eq_or_ne first b with rfl | notB
          <;> simp [List.idxOf_cons_ne, *]
      · have notA : first ≠ a := by rintro rfl; exact kept keepA
        have notB : first ≠ b := by rintro rfl; exact kept keepB
        simp [List.filter_cons_of_neg kept, notA, notB, ih]

/-- Erasing repetitions keeps each item once and in the order of first occurrences, by recursion on
the items that differ from the first one. -/
theorem eraseDups_nodup_ordered (items : List String)
    : items.eraseDups.Nodup
      ∧ items.eraseDups.Pairwise (fun a b => items.idxOf a < items.idxOf b) := by
  match items with
  | [] => simp
  | first :: rest =>
      have smaller : (rest.filter (fun item => !item == first)).length < (first :: rest).length :=
        Nat.lt_succ_of_le (List.length_filter_le _ _)
      obtain ⟨nodup, ordered⟩ := eraseDups_nodup_ordered (rest.filter (fun item => !item == first))
      have others : ∀ item ∈ (rest.filter (fun item => !item == first)).eraseDups,
          first ≠ item := by
        intro item inside
        have kept := (List.mem_filter.mp (List.mem_eraseDups.mp inside)).2
        rintro rfl
        simp at kept
      rw [List.eraseDups_cons]
      refine ⟨List.nodup_cons.mpr ⟨fun inside => others _ inside rfl, nodup⟩,
        List.pairwise_cons.mpr ⟨?_, ordered.imp_of_mem ?_⟩⟩
      · intro item inside
        simp [List.idxOf_cons_ne _ (others item inside)]
      · intro a b insideA insideB before
        have keepA : (!a == first) = true := by simpa using (others a insideA).symm
        have keepB : (!b == first) = true := by simpa using (others b insideB).symm
        rw [idxOf_filter_lt_iff keepA keepB] at before
        simpa [List.idxOf_cons_ne _ (others a insideA), List.idxOf_cons_ne _ (others b insideB)]
          using before
termination_by items.length
decreasing_by exact smaller

/-- Dropping blank commands and repetitions leaves the first occurrences, as dropping the blank ones
keeps the order. -/
theorem firstOccurrences_eraseDups (all : List String)
    : FirstOccurrences all (all.filter (fun command => !Text.allBlank command)).eraseDups := by
  obtain ⟨nodup, ordered⟩ :=
    eraseDups_nodup_ordered (all.filter (fun command => !Text.allBlank command))
  have kept : ∀ command ∈ (all.filter (fun command => !Text.allBlank command)).eraseDups,
      (!Text.allBlank command) = true :=
    fun command inside => (List.mem_filter.mp (List.mem_eraseDups.mp inside)).2
  refine ⟨by simp, nodup, ordered.imp_of_mem ?_⟩
  intro a b insideA insideB before
  exact (idxOf_filter_lt_iff (kept a insideA) (kept b insideB)).mp before

/-- There is one list of first occurrences. -/
theorem FirstOccurrences.unique {all kept others : List String} (h : FirstOccurrences all kept)
    (h' : FirstOccurrences all others)
    : kept = others := by
  have perm : kept.Perm others :=
    (List.perm_ext_iff_of_nodup h.nodup h'.nodup).mpr
      (fun command => (h.mem command).trans (h'.mem command).symm)
  exact perm.eq_of_pairwise (fun _ _ _ _ first second => absurd second first.asymm) h.ordered
    h'.ordered

-----------------------------------------------------------------------------------------
-- The list of a workspace
-----------------------------------------------------------------------------------------

/-- The commands of the project files among those that a walk finds: the files in their order,
the contribution of each, and the first occurrences in all of them together. -/
def Lists (walked : List String) (content : String → Except FileError ByteArray)
    (commands : List String) : Prop :=
  ∃ ordered contributions,
    ordered.Perm (walked.filter isProjectFile)
    ∧ ordered.Pairwise Path.Precedes
    ∧ List.Forall₂ (fun path => Contributes (content path)) ordered contributions
    ∧ FirstOccurrences contributions.flatten commands

/-- A project file that a walk finds and that is well-formed, and what it offers. -/
structure Supplies (walked : List String) (content : String → Except FileError ByteArray)
    (path : String) (commands : List String) : Prop where
  walked : path ∈ walked
  named : isProjectFile path = true
  offers : Offers (content path) commands

/-- Files without a well-formed content can be left out. -/
theorem flatten_contributions {content : String → Except FileError ByteArray}
    {ordered : List String} {contributions : List (List String)}
    (each : List.Forall₂ (fun path => Contributes (content path)) ordered contributions)
    : contributions.flatten
      = (ordered.filter (fun path => (offered? (content path)).isSome)).flatMap
          (fun path => (offered? (content path)).getD []) := by
  induction each with
  | nil => rfl
  | @cons path commands ordered contributions first _ ih =>
      obtain rfl := contributes_iff.mp first
      cases offered : offered? (content path) <;> simp [offered, ih]

/-- The well-formed files among those that are put in order. -/
theorem mem_wellFormed {walked ordered : List String}
    {content : String → Except FileError ByteArray}
    (perm : ordered.Perm (walked.filter isProjectFile)) {path : String}
    : path ∈ ordered.filter (fun path => (offered? (content path)).isSome)
      ↔ ∃ offer, Supplies walked content path offer := by
  rw [List.mem_filter, perm.mem_iff, List.mem_filter, Option.isSome_iff_exists]
  constructor
  · rintro ⟨⟨inside, named⟩, offer, offered⟩
    exact ⟨offer, inside, named, offered?_eq_some_iff.mp offered⟩
  · rintro ⟨offer, inside, named, offers⟩
    exact ⟨⟨inside, named⟩, offer, offered?_eq_some_iff.mpr offers⟩

/-- The list depends on nothing but what the well-formed project files offer. -/
theorem Lists.eq_of_supplies {walked others : List String}
    {content contents : String → Except FileError ByteArray} {commands commands' : List String}
    (h : Lists walked content commands) (h' : Lists others contents commands')
    (same : ∀ path offer, Supplies walked content path offer ↔ Supplies others contents path offer)
    : commands = commands' := by
  obtain ⟨ordered, contributions, perm, inOrder, each, first⟩ := h
  obtain ⟨ordered', contributions', perm', inOrder', each', first'⟩ := h'
  have files : ordered.filter (fun path => (offered? (content path)).isSome)
      = ordered'.filter (fun path => (offered? (contents path)).isSome) := by
    refine Path.eq_of_precedes ?_ (inOrder.filter _) (inOrder'.filter _)
    refine (List.perm_ext_iff_of_nodup ((inOrder.imp Path.Precedes.ne).filter _)
      ((inOrder'.imp Path.Precedes.ne).filter _)).mpr fun path => ?_
    rw [mem_wellFormed perm, mem_wellFormed perm']
    exact exists_congr (same path)
  have contributed : contributions.flatten = contributions'.flatten := by
    rw [flatten_contributions each, flatten_contributions each', ← files]
    refine List.flatMap_congr fun path inside => ?_
    obtain ⟨offer, supplies⟩ := (mem_wellFormed perm).mp inside
    rw [offered?_eq_some_iff.mpr supplies.offers,
      offered?_eq_some_iff.mpr ((same path offer).mp supplies).offers]
  exact (contributed ▸ first).unique first'

-----------------------------------------------------------------------------------------
-- Discovery
-----------------------------------------------------------------------------------------

variable {σ : Type}

/-- What a walk finds from a state, which it leaves as it is: every project file once, and the
content of each or why it cannot be read. -/
structure Finds (files : FileAccess (StateM σ)) (walk : StateM σ (List String)) (s : σ)
    (walked : List String) (content : String → Except FileError ByteArray)
    : Prop where
  walks : walk.run s = (walked, s)
  once
    : (walked.filter isProjectFile).Pairwise
        (fun a b => Path.components a ≠ Path.components b)
  read
    : ∀ path ∈ walked.filter isProjectFile, exec (files.read path) s = (content path, s)

/-- A program goes on from what its first part gives. -/
theorem run_bind_of_run {α β : Type} {program : StateM σ α} {s after : σ} {a : α}
    (next : α → StateM σ β) (h : program.run s = (a, after))
    : (program >>= next).run s = (next a).run after := by
  rw [StateT.run_bind, h]
  rfl

/-- A file is read as its text if it has one, by cases on its content. -/
theorem run_readFile {files : FileAccess (StateM σ)} {s : σ} {path : String}
    {content : Except FileError ByteArray} (read : exec (files.read path) s = (content, s))
    : (readFile files path).run s = ((path, textOf? content), s) := by
  obtain ⟨result, decoded, text⟩ : ∃ result,
      exec (files.readText path) s = (result, s) ∧ result.toOption = textOf? content := by
    rw [FileAccess.readText]
    cases content with
    | error error => exact ⟨.error error, exec_bind_of_error _ read, rfl⟩
    | ok bytes =>
        rw [exec_bind_of_ok _ read]
        cases utf8 : String.fromUTF8? bytes with
        | none => exact ⟨.error .notText, rfl, utf8.symm⟩
        | some text => exact ⟨.ok text, rfl, utf8.symm⟩
  have course : (files.readText path).run.run s = (result, s) := decoded
  rw [readFile, run_bind_of_run _ course, ← text]
  rfl

/-- Files are read one after the other, by induction on the paths. -/
theorem run_mapM_readFile {files : FileAccess (StateM σ)} {s : σ} {paths : List String}
    {content : String → Except FileError ByteArray}
    (read : ∀ path ∈ paths, exec (files.read path) s = (content path, s))
    : (paths.mapM (readFile files)).run s
      = (paths.map (fun path => (path, textOf? (content path))), s) := by
  induction paths with
  | nil => rfl
  | cons path paths ih =>
      have first := run_readFile (read path List.mem_cons_self)
      have rest := ih fun other inside => read other (List.mem_cons_of_mem _ inside)
      rw [List.mapM_cons, run_bind_of_run _ first, run_bind_of_run _ rest]
      rfl

/-- What is collected from the files that a walk finds is listed by them, as sorting them puts them
in their order. -/
theorem collect_lists {walked : List String} (content : String → Except FileError ByteArray)
    (once
      : (walked.filter isProjectFile).Pairwise
          (fun a b => Path.components a ≠ Path.components b))
    : Lists walked content
        (collect ((walked.filter isProjectFile).map
          (fun path => (path, textOf? (content path))))) := by
  let ordered := (walked.filter isProjectFile).mergeSort (fun a b => (Path.depthOrder a b).isLE)
  have sorted : ((walked.filter isProjectFile).map
        (fun path => (path, textOf? (content path)))).mergeSort
          (fun a b => (Path.depthOrder a.1 b.1).isLE)
      = ordered.map (fun path => (path, textOf? (content path))) :=
    (List.map_mergeSort (f := fun path => (path, textOf? (content path)))
      (fun _ _ _ _ => rfl)).symm
  refine ⟨ordered, ordered.map (fun path => (offered? (content path)).getD []),
    List.mergeSort_perm _ _, Path.pairwise_precedes once, ?_, ?_⟩
  · rw [List.forall₂_map_right_iff, List.forall₂_same]
    exact fun path _ => contributes_iff.mpr rfl
  · rw [collect, sorted, List.flatMap_map]
    exact firstOccurrences_eraseDups _

/-- The files that a walk finds are read and their commands collected, by the runs of both. -/
theorem run_discoverBy {files : FileAccess (StateM σ)} {walk : StateM σ (List String)} {s : σ}
    {walked : List String} {content : String → Except FileError ByteArray}
    (finds : Finds files walk s walked content)
    : (discoverBy files walk).run s
      = (collect ((walked.filter isProjectFile).map
          (fun path => (path, textOf? (content path)))), s) := by
  have read := run_mapM_readFile finds.read
  rw [discoverBy, run_bind_of_run _ finds.walks, run_bind_of_run _ read]
  rfl

/-- The texts of files, by path. -/
structure Shelf where
  texts : List (String × String)

namespace Shelf

def content (shelf : Shelf) (path : String) : Except FileError ByteArray :=
  match shelf.texts.lookup path with
  | some text => .ok text.toUTF8
  | none => .error .notFound

def access (shelf : Shelf) : FileAccess (StateM Unit) where
  read path := liftExcept (shelf.content path)
  kind path := pure (if (shelf.texts.lookup path).isSome then some .file else none)
  names _ := pure []
  realPath _ := pure none

end Shelf

/-- The commands that are discovered are those of the project files in their order: what each
well-formed one offers, without blank commands and repetitions. Another walk at which the same
well-formed files offer the same leads to the same commands, in whatever order they are found
and whatever else is there. The first command is the default, before the configured one. -/
theorem discover_lists {files : FileAccess (StateM σ)} {walk : StateM σ (List String)} {s : σ}
    {walked : List String} {content : String → Except FileError ByteArray}
    (finds : Finds files walk s walked content)
    : ∃ commands,
        (discoverBy files walk).run s = (commands, s)
        ∧ Lists walked content commands
        ∧ (∀ others, Lists walked content others → others = commands)
        ∧ commands.Nodup
        ∧ (∀ command ∈ commands, Text.allBlank command = false)
        ∧ (∀ (τ : Type) (files' : FileAccess (StateM τ)) walk' (t : τ) walked' content',
            Finds files' walk' t walked' content' →
            (∀ path offer,
              Supplies walked content path offer ↔ Supplies walked' content' path offer) →
            (discoverBy files' walk').run t = (commands, t))
        ∧ ∀ config : Config,
            (config.setup commands).defaultCommand
              = commands.head?.getD config.policy.defaultCommand := by
  have lists := collect_lists content finds.once
  refine ⟨_, run_discoverBy finds, lists, ?unique, ?distinct, ?visible, ?independent, fun _ => rfl⟩
  case unique =>
    exact fun others also => also.eq_of_supplies lists (fun _ _ => .rfl)
  case distinct =>
    obtain ⟨_, _, _, _, _, first⟩ := lists
    exact first.nodup
  case visible =>
    obtain ⟨_, _, _, _, _, first⟩ := lists
    exact fun command kept => ((first.mem command).mp kept).2
  case independent =>
    intro τ files' walk' t walked' content' finds' same
    rw [run_discoverBy finds', lists.eq_of_supplies (collect_lists _ finds'.once) same]

/-- A project file that offers `a`, one below it that offers `b` and `a` around a blank command,
and one that is not JSON. The walk comes to them from the last to the first; with the last one
gone and the others found the other way round, the commands are the same. -/
theorem discover_lists_three_files
    : ∃ (shelf fewer : Shelf) (walked found : List String),
        shelf.texts
          = [ ("./haskit.json", "\x7b\"cmd\": \"a\"\x7d"),
              ("./b/haskit.json", "\x7b\"cmd\": [\"b\", \" \", \"a\"]\x7d"),
              ("./x/haskit.json", "\x7b") ]
        ∧ walked = ["./x/haskit.json", "./b/haskit.json", "./haskit.json"]
        ∧ found = ["./haskit.json", "./b/haskit.json"]
        ∧ fewer.texts = shelf.texts.take 2
        ∧ Finds shelf.access (pure walked) () walked shelf.content
        ∧ Finds fewer.access (pure found) () found fewer.content
        ∧ (discoverBy shelf.access (pure walked)).run () = (["a", "b"], ())
        ∧ (discoverBy fewer.access (pure found)).run () = (["a", "b"], ()) := by
  let shelf : Shelf :=
    ⟨[ ("./haskit.json", "\x7b\"cmd\": \"a\"\x7d"),
        ("./b/haskit.json", "\x7b\"cmd\": [\"b\", \" \", \"a\"]\x7d"),
        ("./x/haskit.json", "\x7b") ]⟩
  let fewer : Shelf := ⟨shelf.texts.take 2⟩
  let walked := ["./x/haskit.json", "./b/haskit.json", "./haskit.json"]
  let found := ["./haskit.json", "./b/haskit.json"]
  have finds : Finds shelf.access (pure walked) () walked shelf.content :=
    ⟨rfl, by decide, fun _ _ => exec_liftExcept _ _⟩
  have finds' : Finds fewer.access (pure found) () found fewer.content :=
    ⟨rfl, by decide, fun _ _ => exec_liftExcept _ _⟩
  obtain ⟨commands, run, lists, unique, -, -, independent, -⟩ := discover_lists finds
  have malformed : ∀ offer, ¬ Offers (shelf.content "./x/haskit.json") offer := by
    have nothing : offered? (shelf.content "./x/haskit.json") = none := by decide +kernel
    intro offer offers
    rw [← offered?_eq_some_iff, nothing] at offers
    contradiction
  have listed : Lists walked shelf.content ["a", "b"] := by
    refine ⟨["./haskit.json", "./b/haskit.json", "./x/haskit.json"],
      [["a"], ["b", " ", "a"], []], by decide, ?_, ?_, ?_⟩
    · exact List.Pairwise.imp (R := fun a b => Path.depthOrder a b = .lt)
        Path.depthOrder_eq_lt_iff.mp (by decide)
    · exact .cons (contributes_iff.mpr (by decide +kernel))
        (.cons (contributes_iff.mpr (by decide +kernel)) (.cons (.inr ⟨malformed, rfl⟩) .nil))
    · refine ⟨fun command => ?_, by decide, by decide⟩
      constructor
      · intro kept
        have visible : ∀ command ∈ ["a", "b"],
            command ∈ ["a", "b", " ", "a"] ∧ Text.allBlank command = false := by decide
        exact visible command kept
      · rintro ⟨inside, visible⟩
        have kept : ∀ command ∈ ["a", "b", " ", "a"],
            Text.allBlank command = false → command ∈ ["a", "b"] := by decide
        exact kept command inside visible
  have same (path : String) (offer : List String)
      : Supplies walked shelf.content path offer ↔ Supplies found fewer.content path offer := by
    constructor
    · rintro ⟨inside, named, offers⟩
      obtain rfl | rfl | rfl : path = "./x/haskit.json" ∨ path = "./b/haskit.json"
          ∨ path = "./haskit.json" := by simpa [walked] using inside
      · exact absurd offers (malformed offer)
      · exact ⟨by decide, named, offers⟩
      · exact ⟨by decide, named, offers⟩
    · rintro ⟨inside, named, offers⟩
      obtain rfl | rfl : path = "./haskit.json" ∨ path = "./b/haskit.json" := by
        simpa [found] using inside
      · exact ⟨by decide, named, offers⟩
      · exact ⟨by decide, named, offers⟩
  obtain rfl := unique _ listed
  exact ⟨shelf, fewer, walked, found, rfl, rfl, rfl, rfl, finds, finds', run,
    independent Unit fewer.access (pure found) () found fewer.content finds' same⟩

end CellRunner.Project

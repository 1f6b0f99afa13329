import CellRunner.CommandLine.Arguments
import CellRunner.Proofs.Session.PickedCommand
import CellRunner.Proofs.Session.Starts
import CellRunner.Proofs.Text.WordRuns

/-!
The commands that sessions are launched with. A command's text, whether it is desired or accepted by
a chooser, stands for its words, or for those of the default command if it has none. The launcher
gets them one by one, and the name of the session gives them back.
-/

namespace CellRunner

/-- The command that a session's name gives behind the policy's mark. -/
def SessionPolicy.namedCommand (policy : SessionPolicy) (name : String) : List String :=
  Text.words (String.ofList (name.toList.drop policy.mark.toList.length))

/-- The name of a session that is launched gives the tokens back, by splitting what is behind the
mark. -/
theorem SessionPolicy.namedCommand_launched {policy : SessionPolicy} {tokens : List String}
    (each : ∀ token ∈ tokens, Text.IsWord token)
    : policy.namedCommand (policy.launchSpec tokens).name = tokens := by
  rw [namedCommand, launchSpec, String.toList_append, List.drop_left, String.ofList_toList,
    Text.words_intercalate_words each]

/-- The text of a command that a chooser accepted. -/
def Exchange.accepted? : Exchange → Option String
  | .choose _ (.ok (.accepted commandLine)) => some commandLine
  | _ => none

/-- The text of the command for a new session: the desired one, or else the accepted one. -/
def commandGiven {σ : Type} (desired : Option String) (notes : Notes σ) : Option String :=
  desired.or (notes.findSome? (·.2.accepted?))

namespace SessionSetup

/-- A session is launched for the text of a command: the launcher gets the words of the text, and
the session is known by them. -/
structure LaunchedFor (setup : SessionSetup) (commandLine : String) (tokens : List String)
    (spec : LaunchSpec)
    : Prop where
  /-- The tokens are the words of the text, or those of the default command. -/
  runs
    : Text.Runs commandLine.toList tokens ∧ tokens ≠ []
      ∨ Text.Runs commandLine.toList [] ∧ Text.Runs setup.defaultCommand.toList tokens
  program : spec.program = setup.policy.launcher
  args : spec.args = setup.policy.launcherArgs ++ tokens
  name : spec.name = setup.policy.mark ++ " ".intercalate tokens
  named : setup.policy.namedCommand spec.name = tokens
  recognized
    : ∀ terminal : Terminal,
        terminal.name = spec.name → terminal.isAlive → setup.policy.recognizes terminal

/-- The words of a command are its own if it has any, and otherwise those of the default command. -/
theorem runs_commandWords (setup : SessionSetup) (commandLine : String)
    : Text.Runs commandLine.toList (setup.commandWords commandLine)
          ∧ setup.commandWords commandLine ≠ []
        ∨ Text.Runs commandLine.toList []
          ∧ Text.Runs setup.defaultCommand.toList (setup.commandWords commandLine) := by
  by_cases none : Text.words commandLine = []
  · refine .inr ⟨Text.words_eq_iff.mp none, Text.words_eq_iff.mp ?_⟩
    simp [commandWords, none]
  · have own : setup.commandWords commandLine = Text.words commandLine := by
      simp [commandWords, none]
    rw [own]
    exact .inl ⟨Text.words_eq_iff.mp rfl, none⟩

/-- The words of a command are words, whichever text they come from. -/
theorem isWord_commandWords {setup : SessionSetup} {commandLine token : String}
    (member : token ∈ setup.commandWords commandLine)
    : Text.IsWord token := by
  rcases setup.runs_commandWords commandLine with ⟨own, _⟩ | ⟨_, default⟩
  · exact own.isWord token member
  · exact default.isWord token member

/-- A launch of the words of a command is one for the command, by the lemmas about its parts. -/
theorem launchedFor_launchSpec (setup : SessionSetup) (commandLine : String)
    : setup.LaunchedFor commandLine (setup.commandWords commandLine)
        (setup.policy.launchSpec (setup.commandWords commandLine)) where
  runs := setup.runs_commandWords commandLine
  program := rfl
  args := rfl
  name := rfl
  named := SessionPolicy.namedCommand_launched fun _ => isWord_commandWords
  recognized _ named alive := SessionPolicy.recognizes_launched named alive

/-- The text of a command determines what it is launched with. -/
theorem LaunchedFor.tokens_eq {setup : SessionSetup} {commandLine : String}
    {tokens : List String} {spec : LaunchSpec} (h : setup.LaunchedFor commandLine tokens spec)
    : tokens = setup.commandWords commandLine := by
  rcases h.runs with ⟨own, some⟩ | ⟨none, default⟩
  · have words : Text.words commandLine = tokens := Text.words_eq_iff.mpr own
    simp [commandWords, words, some]
  · have words : Text.words commandLine = [] := Text.words_eq_iff.mpr none
    have words' : Text.words setup.defaultCommand = tokens := Text.words_eq_iff.mpr default
    simp [commandWords, words, words']

-----------------------------------------------------------------------------------------
-- What requests launch
-----------------------------------------------------------------------------------------

variable {σ : Type} {setup : SessionSetup} {host : TerminalHost (StateM σ)}
  {chooser : CommandChooser (StateM σ)} {desired : Option String} {s after : σ} {notes : Notes σ}

/-- What a text would launch. -/
def launchOf (setup : SessionSetup) (commandLine : String) : LaunchSpec :=
  setup.policy.launchSpec (setup.commandWords commandLine)

/-- Launches of two parts follow each other. -/
theorem launches_append (notes more : Notes σ)
    : launches (notes ++ more) = launches notes ++ launches more :=
  List.filterMap_append

/-- A command that is given later counts if none was given before, by the search for the first one.
-/
theorem commandGiven_append (desired : Option String) (notes more : Notes σ)
    : commandGiven desired (notes ++ more)
      = (commandGiven desired notes).or (more.findSome? (·.2.accepted?)) := by
  rw [commandGiven, commandGiven, List.findSome?_append, Option.or_assoc]

/-- Obtaining a command launches nothing and gives the words of its text, by cases on the course. -/
theorem Obtaining.given {command : Option (List String)}
    (h : Obtaining setup chooser s desired notes (.ok command) after)
    : CellRunner.launches notes = []
      ∧ (commandGiven desired notes).map setup.commandWords = command := by
  cases h with
  | desired line => exact ⟨rfl, rfl⟩
  | cancelled asked => exact ⟨rfl, rfl⟩
  | accepted asked => exact ⟨rfl, rfl⟩

/-- What is launched is the given command, if there is one, and nothing else. -/
def LaunchesGiven (setup : SessionSetup) (desired : Option String) (notes : Notes σ) : Prop :=
  launches notes = ((commandGiven desired notes).map setup.launchOf).toList

/-- Opening a session launches the command that is given, by the courses of its parts. -/
theorem Opening.launchesGiven {result : Except SessionError (Option Terminal)}
    (h : Opening setup host chooser desired s notes result after)
    : setup.LaunchesGiven desired notes := by
  cases h with
  | fails obtained =>
      cases obtained with
      | fails asked => rfl
  | cancelled obtained =>
      obtain ⟨quiet, none⟩ := obtained.given
      rw [LaunchesGiven, quiet, Option.map_eq_none_iff.mp none]
      rfl
  | starts obtained started =>
      obtain ⟨quiet, some⟩ := obtained.given
      obtain ⟨line, given, rfl⟩ := Option.map_eq_some_iff.mp some
      rw [LaunchesGiven, launches_append, quiet, started.launches, commandGiven_append, given]
      rfl

/-- Looking for a session launches nothing, and no command is asked for. -/
theorem Finding.launches {result : Except HostError (Option Terminal)}
    (h : Finding setup host s notes result after)
    : CellRunner.launches notes = [] ∧ notes.findSome? (·.2.accepted?) = none := by
  cases h <;> exact ⟨rfl, rfl⟩

-----------------------------------------------------------------------------------------
-- Launches and their commands
-----------------------------------------------------------------------------------------

/-- For the given command, if there is one, a session is launched, and for nothing else. -/
def LaunchesCommand (setup : SessionSetup) (desired : Option String) (notes : Notes σ) : Prop :=
  List.Forall₂ (fun commandLine spec => ∃ tokens, setup.LaunchedFor commandLine tokens spec)
    (commandGiven desired notes).toList (launches notes)

/-- A session is looked for first. If none is found, one is launched for the given command; if one
is found or the search fails, nothing is launched. -/
def LaunchesUnlessFound (setup : SessionSetup) (host : TerminalHost (StateM σ))
    (desired : Option String) (s : σ) (notes : Notes σ)
    : Prop :=
  ∃ searching found middle later,
    notes = searching ++ later
    ∧ Finding setup host s searching found middle
    ∧ match found with
      | .ok none => setup.LaunchesCommand desired notes
      | _ => launches notes = []

/-- What is launched for the given command has its words, by the words of the launch. -/
theorem LaunchesGiven.launchesCommand (h : setup.LaunchesGiven desired notes)
    : setup.LaunchesCommand desired notes := by
  rw [LaunchesCommand, h]
  cases commandGiven desired notes with
  | none => exact .nil
  | some line => exact .cons ⟨_, setup.launchedFor_launchSpec line⟩ .nil

/-- A request for a session launches one unless it finds one, by cases on the search. -/
theorem Resolving.launchesUnlessFound {result : Except SessionError (Option Terminal)}
    (h : Resolving setup host chooser desired s notes result after)
    : setup.LaunchesUnlessFound host desired s notes := by
  cases h with
  | fails found => exact ⟨_, _, _, [], by rw [List.append_nil], found, found.launches.1⟩
  | reuses found => exact ⟨_, _, _, [], by rw [List.append_nil], found, found.launches.1⟩
  | opens found opened =>
      obtain ⟨quiet, unasked⟩ := found.launches
      have given := opened.launchesGiven
      refine ⟨_, _, _, _, rfl, found, LaunchesGiven.launchesCommand ?_⟩
      rw [LaunchesGiven, commandGiven] at given
      rwa [LaunchesGiven, commandGiven, launches_append, quiet, List.findSome?_append, unasked,
        Option.none_or]

/-- A call that pastes neither launches a session nor gives a command. -/
theorem LaunchesUnlessFound.concat_sendText {state : σ} {terminal : Terminal} {text : String}
    {submit : Bool} {answer : Except HostError Unit}
    (h : setup.LaunchesUnlessFound host desired s notes)
    : setup.LaunchesUnlessFound host desired s
        (notes ++ [(state, .sendText terminal text submit answer)]) := by
  obtain ⟨searching, found, middle, later, rfl, search, launched⟩ := h
  refine ⟨searching, found, middle, later ++ [(state, .sendText terminal text submit answer)],
    List.append_assoc _ _ _, search, ?_⟩
  have quiet : launches (searching ++ later ++ [(state, .sendText terminal text submit answer)])
      = launches (searching ++ later) := by
    simp [launches, Exchange.launch?]
  have unasked : commandGiven desired
        (searching ++ later ++ [(state, .sendText terminal text submit answer)])
      = commandGiven desired (searching ++ later) := by
    rw [commandGiven_append]
    simp [Exchange.accepted?]
  rcases found with error | _ | session
  · exact quiet.trans launched
  · rw [LaunchesCommand, quiet, unasked]
    exact launched
  · exact quiet.trans launched

/-- A delivery launches a session unless it finds one, as its request for a session does. -/
theorem Delivering.launchesUnlessFound {frame : Frame} {result : Except SessionError Delivery}
    (h : Delivering setup host chooser frame desired s notes result after)
    : setup.LaunchesUnlessFound host desired s notes := by
  cases h with
  | fails resolved => exact resolved.launchesUnlessFound
  | cancelled resolved => exact resolved.launchesUnlessFound
  | sends resolved pasted => exact resolved.launchesUnlessFound.concat_sendText

/-- The words of joined arguments are those of the arguments, or the default command's. -/
theorem commandWords_intercalate (setup : SessionSetup) (arguments : List String)
    : setup.commandWords (" ".intercalate arguments)
      = if arguments.flatMap Text.words = [] then Text.words setup.defaultCommand
        else arguments.flatMap Text.words := by
  simp [commandWords, Text.words_intercalate]

/-- Whether a command is desired or chosen, a session for it is launched with its words, or with
those of the default command, and is named by them. A request that first looks for a session
launches nothing if it finds one or the search fails, and a delivery without a frame makes no call.
The arguments of `new` are one command, whose words are those of the arguments; arguments that are
words reach the launcher as they are. -/
theorem launched_for_command (setup : SessionSetup)
    : (∀ {σ : Type} (host : TerminalHost (StateM σ)) (chooser : CommandChooser (StateM σ))
          (desired : Option String) (s : σ),
          ∃ notes result after,
            Does (setup.openSession host chooser desired)
              (setup.openSession host.watched chooser.watched desired) s notes result after
            ∧ setup.LaunchesCommand desired notes)
      ∧ (∀ {σ : Type} (host : TerminalHost (StateM σ)) (chooser : CommandChooser (StateM σ))
          (desired : Option String) (s : σ),
          ∃ notes result after,
            Does (setup.resolveSession host chooser desired)
              (setup.resolveSession host.watched chooser.watched desired) s notes result after
            ∧ setup.LaunchesUnlessFound host desired s notes)
      ∧ (∀ {σ : Type} (host : TerminalHost (StateM σ)) (chooser : CommandChooser (StateM σ))
          (sourceName : String) (totalLines : Nat) (excerpt : Excerpt) (desired : Option String)
          (s : σ),
          ∃ notes result after,
            Does (setup.deliver host chooser sourceName totalLines excerpt desired)
              (setup.deliver host.watched chooser.watched sourceName totalLines excerpt desired) s
              notes result after
            ∧ match Frame.ofExcerpt? excerpt totalLines sourceName with
              | none => notes = []
              | some _ => setup.LaunchesUnlessFound host desired s notes)
      ∧ ∀ arguments : List String,
          arguments ≠ []
          → (∀ options : CommandLine.Options,
              options.read ("new" :: arguments)
                = .ok
                    (options.invoke
                      (.request (.openSession (some (" ".intercalate arguments))))))
            ∧ ∀ tokens spec,
                setup.LaunchedFor (" ".intercalate arguments) tokens spec
                → tokens
                    = (if arguments.flatMap Text.words = [] then Text.words setup.defaultCommand
                      else arguments.flatMap Text.words)
                  ∧ (∀ argument ∈ arguments,
                      Text.IsWord argument → Text.words argument = [argument])
                  ∧ ((∀ argument ∈ arguments, Text.IsWord argument) → tokens = arguments) := by
  refine ⟨?opened, ?resolved, ?delivered, ?arguments⟩
  case opened =>
    intro σ host chooser desired s
    obtain ⟨notes, result, after, does, course⟩ := setup.openSession_does host chooser desired s
    exact ⟨notes, result, after, does, course.launchesGiven.launchesCommand⟩
  case resolved =>
    intro σ host chooser desired s
    obtain ⟨notes, result, after, does, course⟩ := setup.resolveSession_does host chooser desired s
    exact ⟨notes, result, after, does, course.launchesUnlessFound⟩
  case delivered =>
    intro σ host chooser sourceName totalLines excerpt desired s
    cases planned : Frame.ofExcerpt? excerpt totalLines sourceName with
    | none => exact ⟨_, _, _, setup.deliver_empty host chooser planned desired s, rfl⟩
    | some frame =>
        obtain ⟨notes, result, after, does, course⟩ :=
          setup.deliver_does host chooser planned desired s
        exact ⟨notes, result, after, does, course.launchesUnlessFound⟩
  case arguments =>
    intro arguments some
    refine ⟨?_, ?_⟩
    · intro options
      simp [CommandLine.Options.read, CommandLine.readRequest, CommandLine.readOpen, some,
        Except.map]
    · intro tokens spec launched
      rw [launched.tokens_eq, commandWords_intercalate]
      refine ⟨rfl, fun argument _ word => word.words_eq, fun words => ?_⟩
      rw [Text.flatMap_words words, if_neg some]

/-- Three words for a new session reach the launcher as they are, and nothing but blanks stands for
the default command. -/
theorem launched_for_command_new
    : let setup : SessionSetup := ⟨{}, ["stack repl"], []⟩
      let arguments := ["cabal", "run", "exe:repl"]
      let spec := setup.launchOf "cabal run exe:repl"
      (∃ notes result after,
        Does (setup.openSession Rehearsal.host Rehearsal.chooser (some "cabal run exe:repl"))
            (setup.openSession Rehearsal.host.watched Rehearsal.chooser.watched
              (some "cabal run exe:repl"))
            ⟨[], none, 0, [], [], []⟩ notes result after
          ∧ setup.LaunchesCommand (some "cabal run exe:repl") notes)
        ∧ arguments ≠ []
        ∧ (∀ argument ∈ arguments, Text.IsWord argument)
        ∧ setup.LaunchedFor "cabal run exe:repl" (setup.commandWords "cabal run exe:repl") spec
        ∧ setup.commandWords "cabal run exe:repl" = arguments
        ∧ spec.args = ["epm", "x", "cabal", "run", "exe:repl"]
        ∧ setup.LaunchedFor "\t " (setup.commandWords "\t ") (setup.launchOf "\t ")
        ∧ setup.commandWords "\t " = ["stack", "repl"] := by
  intro setup arguments spec
  obtain ⟨opened, _, _, new⟩ := launched_for_command setup
  obtain ⟨_, verbatim⟩ := new arguments (by decide)
  have words : ∀ argument ∈ arguments, Text.IsWord argument := by decide
  have launched := setup.launchedFor_launchSpec "cabal run exe:repl"
  have tokens : setup.commandWords "cabal run exe:repl" = arguments :=
    (verbatim _ spec launched).2.2 words
  have blank := setup.launchedFor_launchSpec "\t "
  obtain ⟨_, default⟩ := new ["\t", ""] (by decide)
  refine ⟨opened Rehearsal.host Rehearsal.chooser _ _, by decide, words, launched, tokens, ?_,
    blank, ?_⟩
  · have args := launched.args
    rw [tokens] at args
    exact args
  · rw [(default _ _ blank).1]
    decide

end SessionSetup

end CellRunner

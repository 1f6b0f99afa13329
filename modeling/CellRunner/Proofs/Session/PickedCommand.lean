import CellRunner.Host.Rehearsal
import CellRunner.Proofs.Picker.Settling
import CellRunner.Proofs.Session.Course
import CellRunner.Proofs.Text.Words

/-!
Sessions opened from a picker. The row on which the choice settles says what is launched: the first
row names the command for the query, whether that is the query or the default command, and the
other rows are named by theirs. A dismissed picker launches nothing.
-/

namespace CellRunner

/-- A chooser that opens a picker of a height on its menu and presses keys; it fails if they leave
the choice open. -/
def Picker.chooser {m : Type → Type} [Monad m] (height : Nat) (presses : List KeyPress)
    : CommandChooser m where
  choose menu :=
    match ((opened menu height).pressAll presses).2 with
    | some choice => pure choice
    | none => throw "The picker was left open."

theorem Picker.exec_choose {σ : Type} {menu : CommandMenu} {height : Nat}
    {presses : List KeyPress} {choice : Choice}
    (settled : ((opened menu height).pressAll presses).2 = some choice) (s : σ)
    : exec ((Picker.chooser height presses : CommandChooser (StateM σ)).choose menu) s
      = (.ok choice, s) := by
  simp only [chooser, settled, exec_pure]

/-- What a call asks the host to launch. -/
def Exchange.launch? : Exchange → Option LaunchSpec
  | .createTerminal spec _ => some spec
  | _ => none

/-- What the host was asked to launch, in order. -/
def launches {σ : Type} (notes : Notes σ) : List LaunchSpec :=
  notes.filterMap (·.2.launch?)

namespace SessionSetup

variable {σ : Type} {setup : SessionSetup} {host : TerminalHost (StateM σ)}
  {chooser : CommandChooser (StateM σ)} {s middle after : σ} {notes : Notes σ}

/-- The words that a command line stands for are its own, unless it is blank. -/
theorem commandWords_eq (setup : SessionSetup) (commandLine : String)
    : setup.commandWords commandLine
      = Text.words
          (if Text.allBlank commandLine then setup.defaultCommand else commandLine) := by
  by_cases blank : Text.allBlank commandLine
  · simp [commandWords, blank, (Text.words_eq_nil_iff commandLine).mpr blank]
  · have some := mt (Text.words_eq_nil_iff commandLine).mp blank
    simp [commandWords, blank, some]

theorem Creating.launches {command : List String} {result : Except HostError Terminal}
    (h : Creating setup host command s notes result after)
    : launches notes = [setup.policy.launchSpec command] := by
  cases h <;> rfl

/-- Opening a session launches the command that the chooser answers, and it launches it once. -/
theorem openSession_choice (host : TerminalHost (StateM σ)) {choice : Choice}
    (asked : exec (chooser.choose setup.menu) s = (.ok choice, middle))
    : ∃ notes result after,
        Does (setup.openSession host chooser none)
          (setup.openSession host.watched chooser.watched none) s notes result after
        ∧ match choice with
          | .accepted commandLine =>
              launches notes = [setup.policy.launchSpec (setup.commandWords commandLine)]
          | .cancelled => launches notes = [] ∧ result = .ok none := by
  obtain ⟨notes, result, after, does, course⟩ := setup.openSession_does host chooser none s
  refine ⟨notes, result, after, does, ?_⟩
  cases course with
  | fails obtained =>
      cases obtained with
      | fails failed => simp [asked] at failed
  | cancelled obtained =>
      cases obtained with
      | cancelled dismissed =>
          obtain ⟨same, _⟩ := Prod.mk.inj (asked.symm.trans dismissed)
          obtain rfl := Except.ok.inj same
          exact ⟨rfl, rfl⟩
  | starts obtained started =>
      cases obtained with
      | accepted answered =>
          obtain ⟨same, _⟩ := Prod.mk.inj (asked.symm.trans answered)
          obtain rfl := Except.ok.inj same
          exact started.launches

/-- What is launched, by the key press that settles the choice and the row on which it does. -/
inductive LaunchesRow (setup : SessionSetup) (picker : Picker) (keyPress : KeyPress)
    (launched : List LaunchSpec) (result : Except SessionError (Option Terminal))
    : Prop
  /-- Enter on the first row launches the command that the row's description ends in. -/
  | entered {item shown} (enter : keyPress.key = .enter)
    (row : picker.items[picker.selected]? = some item) (kind : item.kind = .entered)
    (described : item.description = "Run: " ++ setup.menu.launcherHint ++ " " ++ shown)
    (args : launched.map (·.args) = [setup.policy.launcherArgs ++ Text.words shown])
  | candidate {item} (enter : keyPress.key = .enter)
    (row : picker.items[picker.selected]? = some item) (kind : item.kind = .candidate)
    (args
      : launched.map (·.args)
        = [setup.policy.launcherArgs
            ++ Text.words (if Text.allBlank item.label then setup.defaultCommand else item.label)])
  /-- A digit launches the candidate that shows it. -/
  | numbered {c number index item} (typed : keyPress.key = .char c)
    (digit : Picker.numberOf? c = some number) (shown : picker.numberAt index = some number)
    (row : picker.items[index]? = some item) (kind : item.kind = .candidate)
    (args
      : launched.map (·.args)
        = [setup.policy.launcherArgs
            ++ Text.words (if Text.allBlank item.label then setup.defaultCommand else item.label)])
  | dismissed (key : keyPress.key = .escape ∨ keyPress.key = .char 'c' ∧ keyPress.control)
    (nothing : launched = []) (cancelled : result = .ok none)

/-- What the picker shows is what is launched: once, for a choice that settles on a row, and not
at all for one that is dismissed. -/
theorem launches_shown_row (setup : SessionSetup) (host : TerminalHost (StateM σ)) (height : Nat)
    (positive : 0 < height) (presses : List KeyPress) (s : σ) {picker : Picker}
    {keyPress : KeyPress}
    (settling
      : (Picker.opened setup.menu height).settling? presses = some (picker, keyPress))
    : ∃ notes result after,
        Does (setup.openSession host (Picker.chooser height presses) none)
          (setup.openSession host.watched (Picker.chooser height presses).watched none) s notes
          result after
        ∧ LaunchesRow setup picker keyPress (launches notes) result := by
  obtain ⟨coherent, choice, settled, settles⟩ :=
    (Picker.coherent_opened setup.menu positive).settling settling
  obtain ⟨notes, result, after, does, launched⟩ :=
    openSession_choice host (Picker.exec_choose settled s)
  refine ⟨notes, result, after, does, ?_⟩
  cases settles with
  | @entered item enter row kind =>
      have query : item = .ofQuery setup.menu picker.query := by
        rcases coherent.row row with query | other
        · exact query
        · simp [kind] at other
      refine .entered enter row kind (congrArg Picker.Item.description query) ?_
      rw [launched, commandWords_eq, query]
      rfl
  | candidate enter row kind =>
      refine .candidate enter row kind ?_
      rw [launched, commandWords_eq]
      rfl
  | numbered typed digit shown row kind =>
      refine .numbered typed digit shown row kind ?_
      rw [launched, commandWords_eq]
      rfl
  | dismissed key => exact .dismissed key launched.1 launched.2

/-- A typed blank and Enter launch the first project command, which is what the row shows. -/
theorem launches_shown_row_blank
    : let setup : SessionSetup := ⟨{}, ["cabal run repl", "stack run"], [⟨"  ", none⟩]⟩
      let presses : List KeyPress := [⟨.down, false⟩, ⟨.char ' ', false⟩, ⟨.enter, false⟩]
      ∃ picker keyPress notes result after,
        0 < 2
        ∧ (Picker.opened setup.menu 2).settling? presses = some (picker, keyPress)
        ∧ picker.items[picker.selected]?
          = some ⟨.entered, " ", "Run: epm x cabal run repl"⟩
        ∧ Does (setup.openSession Rehearsal.host (Picker.chooser 2 presses) none)
            (setup.openSession Rehearsal.host.watched (Picker.chooser 2 presses).watched none)
            ⟨[], none, 0, [], [], []⟩ notes result after
        ∧ LaunchesRow setup picker keyPress (launches notes) result
        ∧ (launches notes).map (·.args) = [["epm", "x", "cabal", "run", "repl"]] := by
  intro setup presses
  have settling : (Picker.opened setup.menu 2).settling? presses
      = some
          (((Picker.opened setup.menu 2).actAll [.press ⟨.down, false⟩, .press ⟨.char ' ', false⟩]),
            ⟨.enter, false⟩) := by
    decide
  obtain ⟨notes, result, after, does, launched⟩ :=
    launches_shown_row setup Rehearsal.host 2 (by decide) presses ⟨[], none, 0, [], [], []⟩ settling
  have first : ((Picker.opened setup.menu 2).actAll
        [.press ⟨.down, false⟩, .press ⟨.char ' ', false⟩]).items[0]?
      = some ⟨.entered, " ", "Run: epm x cabal run repl"⟩ := by
    decide
  refine ⟨_, _, notes, result, after, by decide, settling, first, does, launched, ?_⟩
  cases launched with
  | @entered item shown enter row kind described args =>
      obtain rfl := Option.some.inj (first.symm.trans row)
      have hint : "Run: " ++ setup.menu.launcherHint ++ " " = "Run: epm x " := by decide
      have ends : "Run: epm x " ++ "cabal run repl" = "Run: epm x " ++ shown := by
        rw [← hint, ← described]
        decide
      rw [String.append_right_inj] at ends
      rw [args, ← ends]
      decide
  | candidate enter row kind =>
      obtain rfl := Option.some.inj (first.symm.trans row)
      contradiction
  | numbered typed => contradiction
  | dismissed key => simp at key

end SessionSetup

end CellRunner

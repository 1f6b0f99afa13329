import CellRunner.Proofs.Tmux.ScriptedRuns
import CellRunner.Proofs.Tmux.WindowListing
import CellRunner.Tmux.Host

/-!
The processes behind each operation of the tmux host, when tmux is scripted. What a reply says is
told by its text alone. A query passes without a server, everything else needs a status of zero,
and what creates a window has to print one.
-/

namespace CellRunner.Tmux

-----------------------------------------------------------------------------------------
-- What a reply says
-----------------------------------------------------------------------------------------

def succeeded (reply : ProcessResult) : Bool :=
  reply.status = 0

def printed (reply : ProcessResult) : String :=
  Text.Utf8.decodeLossy reply.stdout

def complaint (reply : ProcessResult) : String :=
  String.ofList (Text.trim (Text.Utf8.decodeLossy reply.stderr).toList)

/-- A failure for want of a server: the error text has one of three phrases in it. -/
def LacksServer (reply : ProcessResult) : Prop :=
  succeeded reply = false
  ∧ ∃ phrase ∈ ["no server running", "error connecting to", "no current"],
      phrase.toList <:+: (complaint reply).toList

/-- A line shows a window: there are four fields with a tab behind each of them, and all of the rest
is the name. The window is dead if the second field is `1`, and then the third one gives its exit
status, which is `-1` if it is no number. -/
inductive Shows : List Char → Window → Prop
  | live {id dead status active name : List Char} (opens : id.head? = some '@')
    (uncut : ∀ field ∈ [id, dead, status, active], '\t' ∉ field) (alive : dead ≠ ['1'])
    : Shows ([id, dead, status, active].flatMap (· ++ ['\t']) ++ name)
        ⟨⟨String.ofList id, String.ofList name, none⟩, active = ['1']⟩
  | dead {id status active name : List Char} (opens : id.head? = some '@')
    (uncut : ∀ field ∈ [id, ['1'], status, active], '\t' ∉ field)
    : Shows ([id, ['1'], status, active].flatMap (· ++ ['\t']) ++ name)
        ⟨⟨String.ofList id, String.ofList name,
            some ((Text.Decimal.readInt32? (Text.trim status)).getD (-1))⟩,
          active = ['1']⟩

/-- An output lists windows: each line shows one, but for the blank lines. -/
def Lists (output : String) (windows : List Window) : Prop :=
  List.Forall₂ Shows
    ((Text.outputLines output.toList).filter (·.any (fun c => !Text.isBlank c))) windows

/-- The windows in the reply to a query; a reply that there is no server says that there are
none. -/
inductive Answers : ProcessResult → List Window → Prop
  | listing {reply windows} (success : succeeded reply = true)
    (lists : Lists (printed reply) windows)
    : Answers reply windows
  | serverless {reply} (missing : LacksServer reply) : Answers reply []

/-- The reply to the creation of a window announces its terminal: that of the first window in a
listing. -/
def Announces (reply : ProcessResult) (terminal : Terminal) : Prop :=
  succeeded reply = true
  ∧ ∃ window later, Lists (printed reply) (window :: later) ∧ window.terminal = terminal

/-- The phrases of a missing server are looked for in the error text, by the meaning of each
search. -/
theorem saysNoServer_iff {stderr : String}
    : saysNoServer stderr = true
      ↔ ∃ phrase ∈ ["no server running", "error connecting to", "no current"],
          phrase.toList <:+: stderr.toList := by
  simp [saysNoServer, Text.contains_iff]

/-- Showing a window is describing it, by cases on whether the window is dead. -/
theorem shows_iff {line : List Char} {window : Window}
    : Shows line window ↔ Window.Describes line window := by
  constructor
  · intro shows_
    cases shows_ with
    | @live id dead status active name opens uncut alive =>
        have described := @Window.Describes.fields id dead status active name opens uncut
        rwa [Window.readStatus, if_neg alive] at described
    | dead opens uncut => exact .fields opens uncut
  · intro described
    cases described with
    | @fields id dead status active name opens uncut =>
        by_cases exited : dead = ['1']
        · subst exited
          exact .dead opens uncut
        · rw [Window.readStatus, if_neg exited]
          exact .live opens uncut exited

/-- The windows that an output lists are those that are read in it, by what is read line by
line. -/
theorem lists_iff {output : String} {windows : List Window}
    : Lists output windows ↔ Window.parseList output = .ok windows := by
  have unblank : (fun line : List Char => line.any (fun c => !Text.isBlank c))
      = fun line => !line.all Text.isBlank :=
    funext fun _ => List.not_all_eq_any_not.symm
  have same : Shows = Window.Describes :=
    funext fun _ => funext fun _ => propext shows_iff
  rw [Window.parseList_eq_ok_iff, Lists, Window.listingLines, same, unblank]

-----------------------------------------------------------------------------------------
-- Steps
-----------------------------------------------------------------------------------------

namespace Step

variable (program : String)

/-- A process that has to succeed. -/
def command (args : List String) (input : String) : Step :=
  ⟨⟨program, args, input⟩, fun reply => succeeded reply = true⟩

/-- A process whose output is read as a listing of windows. -/
def query (args : List String) : Step :=
  ⟨⟨program, args, ""⟩, fun reply => ∃ windows, Answers reply windows⟩

/-- The question whether there is a server. -/
def probe : Step :=
  ⟨⟨program, ["list-sessions"], ""⟩, fun reply => succeeded reply = true ∨ LacksServer reply⟩

/-- The creation of a window, in a new session if there is no server. -/
def opening (server : Bool) (spec : LaunchSpec) : Step :=
  ⟨⟨program,
      (if server then ["new-window", "-d"] else ["new-session", "-d", "-s", "haskit"])
        ++ ["-P", "-F", Window.format, "-n", spec.name, "--", spec.program] ++ spec.args,
      ""⟩,
    fun reply => ∃ terminal, Announces reply terminal⟩

def option (id name value : String) : Step :=
  command program ["set-option", "-w", "-t", id, name, value] ""

end Step

-----------------------------------------------------------------------------------------
-- Runs of tmux
-----------------------------------------------------------------------------------------

variable (program : String)

/-- What a run of tmux gives for a reply. -/
def judged (args : List String) (reply : ProcessResult) : Except HostError String :=
  if succeeded reply then .ok (printed reply)
  else
    .error
      (.commandFailed (program ++ " " ++ args.head?.getD "")
        ("exit status: " ++ Text.Decimal.write reply.status) (complaint reply))

/-- A run of tmux starts one process and judges the reply, by cases on the exit status. -/
theorem exec_run (args : List String) (input : Option String) (script : Script)
    : exec (run Script.runner program args input) script
      = (judged program args (reply script.replies 0),
        script.play [⟨program, args, input.getD ""⟩]) := by
  have served
      : exec ((Script.runner.run program args input).adapt (HostError.spawn program)) script
        = (.ok (reply script.replies 0), script.play [⟨program, args, input.getD ""⟩]) := by
    rw [reply, ← List.head?_eq_getElem?, Script.play, List.length_singleton, List.drop_one]
    rfl
  rw [run, exec_bind_of_ok _ served]
  by_cases passed : (reply script.replies 0).status = 0
  · simp [judged, succeeded, printed, passed]
  · simp only [judged, succeeded, passed, decide_false, if_false, Bool.false_eq_true]
    rfl

/-- A run of tmux is one step and gives what the process printed, by what it makes of the
reply. -/
theorem runs_run (args : List String) (input : Option String) (replies : List ProcessResult)
    : Runs (run Script.runner program args input) replies
        [.command program args (input.getD "")] (.ok (printed (reply replies 0))) := by
  refine .one (exec_run program args input) (fun passed => if_pos passed) (fun failed => ?_)
  exact ⟨_, if_neg failed⟩

/-- What a run of tmux gives for a reply if a missing server is no failure. -/
def judgedIfServer (args : List String) (reply : ProcessResult)
    : Except HostError (Option String) :=
  if !succeeded reply && saysNoServer (complaint reply) then .ok none
  else (judged program args reply).map some

/-- A reply without a server is told by its error text, by the meaning of the search in it. -/
theorem lacksServer_iff {reply : ProcessResult}
    : LacksServer reply ↔ (!succeeded reply && saysNoServer (complaint reply)) = true := by
  rw [LacksServer, Bool.and_eq_true, Bool.not_eq_true', saysNoServer_iff]

/-- A run that forgives a missing server starts one process, by cases on the reply. -/
theorem exec_runIfServer (args : List String) (script : Script)
    : exec (runIfServer Script.runner program args) script
      = (judgedIfServer program args (reply script.replies 0),
        script.play [⟨program, args, ""⟩]) := by
  rw [runIfServer, exec_tryCatch, exec_map, exec_run]
  cases passed : succeeded (reply script.replies 0) with
  | true => simp [judgedIfServer, judged, passed, Except.map]
  | false =>
      cases missing : saysNoServer (complaint (reply script.replies 0)) <;>
        simp [judgedIfServer, judged, passed, missing, Except.map]

/-- A run that forgives a missing server gives nothing exactly without one, by cases on the
reply. -/
theorem judgedIfServer_eq_none_iff {args : List String} {reply : ProcessResult}
    : judgedIfServer program args reply = .ok none ↔ LacksServer reply := by
  rw [judgedIfServer, lacksServer_iff, judged]
  cases succeeded reply <;> cases saysNoServer (complaint reply) <;> simp [Except.map]

/-- A run that forgives a missing server gives an output exactly if the process has succeeded, by
cases on the reply. -/
theorem judgedIfServer_eq_some_iff {args : List String} {reply : ProcessResult} {output : String}
    : judgedIfServer program args reply = .ok (some output)
      ↔ succeeded reply = true ∧ printed reply = output := by
  rw [judgedIfServer, judged]
  cases succeeded reply <;> cases saysNoServer (complaint reply) <;> simp [Except.map]

/-- The question whether there is a server gives a listing of its sessions if there is one, by what
a run that forgives a missing server makes of the reply. -/
theorem runs_probe (replies : List ProcessResult)
    : ∃ server,
        server.isSome = succeeded (reply replies 0)
        ∧ Runs (runIfServer Script.runner program ["list-sessions"]) replies [.probe program]
            (.ok server) := by
  refine ⟨if succeeded (reply replies 0) then some (printed (reply replies 0)) else none, ?_, ?_⟩
  · cases succeeded (reply replies 0) <;> rfl
  · refine .one (exec_runIfServer program _) ?_ ?_
    · rintro (passed | missing)
      · rw [if_pos passed]
        exact (judgedIfServer_eq_some_iff program).mpr ⟨passed, rfl⟩
      · rw [missing.1]
        exact (judgedIfServer_eq_none_iff program).mpr missing
    · intro failed
      obtain ⟨unpassed, present⟩ := not_or.mp failed
      cases given : judgedIfServer program ["list-sessions"] (reply replies 0) with
      | error error => exact ⟨error, rfl⟩
      | ok server =>
          cases server with
          | none => exact absurd ((judgedIfServer_eq_none_iff program).mp given) present
          | some output => exact absurd ((judgedIfServer_eq_some_iff program).mp given).1 unpassed

/-- What a query gives for a reply. -/
def judgedWindows (args : List String) (reply : ProcessResult) : Except HostError (List Window) :=
  match judgedIfServer program args reply with
  | .error error => .error error
  | .ok none => .ok []
  | .ok (some output) => Window.parseList output

/-- A query starts one process and reads the reply, by cases on what the process gives. -/
theorem exec_query (args : List String) (script : Script)
    : exec (query Script.runner program args) script
      = (judgedWindows program args (reply script.replies 0),
        script.play [⟨program, args, ""⟩]) := by
  rw [query, exec_bind, exec_runIfServer, judgedWindows]
  rcases judgedIfServer program args (reply script.replies 0) with error | output | output
  · rfl
  · rfl
  · simp

/-- A query gives the windows that the reply answers with, by cases on what the process gives. -/
theorem judgedWindows_eq_ok_iff {args : List String} {reply : ProcessResult}
    {windows : List Window}
    : judgedWindows program args reply = .ok windows ↔ Answers reply windows := by
  rw [judgedWindows]
  constructor
  · intro gives
    split at gives
    · contradiction
    · next given =>
        obtain rfl := Except.ok.inj gives
        exact .serverless ((judgedIfServer_eq_none_iff program).mp given)
    · next output given =>
        obtain ⟨passed, rfl⟩ := (judgedIfServer_eq_some_iff program).mp given
        exact .listing passed (lists_iff.mpr gives)
  · intro answers
    cases answers with
    | listing success lists =>
        rw [(judgedIfServer_eq_some_iff program).mpr ⟨success, rfl⟩]
        exact lists_iff.mp lists
    | serverless missing => rw [(judgedIfServer_eq_none_iff program).mpr missing]

/-- The windows that a query takes a reply to answer with, which are none if the reply cannot be
read. -/
structure Takes (reply : ProcessResult) (windows : List Window) : Prop where
  only : ∀ listed, Answers reply listed → listed = windows
  answers : windows ≠ [] → Answers reply windows

/-- What is picked from the windows taken is picked from an answer, unless it is picked from no
window at all. -/
theorem Takes.picks_iff {reply : ProcessResult} {windows : List Window}
    (takes : Takes reply windows) {pick : List Window → Option Terminal}
    (nothing : pick [] = none) {terminal : Terminal}
    : (∃ listed, Answers reply listed ∧ pick listed = some terminal)
      ↔ pick windows = some terminal := by
  constructor
  · rintro ⟨listed, answers, picks⟩
    rwa [← takes.only listed answers]
  · intro picks
    refine ⟨windows, takes.answers ?_, picks⟩
    rintro rfl
    rw [nothing] at picks
    contradiction

/-- A query is one step, and it gives the windows that it takes the reply to answer with, by what
it makes of the reply. A reply that cannot be read does not pass, whatever would be given. -/
theorem runs_query (args : List String) (replies : List ProcessResult)
    : ∃ windows,
        Takes (reply replies 0) windows
        ∧ Runs (query Script.runner program args) replies [.query program args] (.ok windows) := by
  have given (windows : List Window) :=
    @judgedWindows_eq_ok_iff program args (reply replies 0) windows
  by_cases read : ∃ windows, Answers (reply replies 0) windows
  · obtain ⟨windows, answers⟩ := read
    have only (others : List Window) (same : Answers (reply replies 0) others)
        : others = windows := by
      have both := ((given others).mpr same).symm.trans ((given windows).mpr answers)
      exact Except.ok.inj both
    exact ⟨windows, ⟨only, fun _ => answers⟩,
      .reading (exec_query program args) given fun others same => by rw [only others same]⟩
  · have unread (windows : List Window) (answers : Answers (reply replies 0) windows) : False :=
      read ⟨windows, answers⟩
    exact ⟨[], ⟨fun windows answers => (unread windows answers).elim, fun some => absurd rfl some⟩,
      .reading (exec_query program args) given
        fun windows answers => (unread windows answers).elim⟩

-----------------------------------------------------------------------------------------
-- Creating a window
-----------------------------------------------------------------------------------------

/-- A run of tmux that has to announce a window. -/
def announced (args : List String) : ExceptT HostError (StateM Script) Terminal := do
  let output ← run Script.runner program args none
  match ← Window.parseList output with
  | [] => throw (.unexpectedOutput output)
  | window :: _ => return window.terminal

/-- What a run that has to announce a window gives for a reply. -/
def judgedCreated (args : List String) (reply : ProcessResult) : Except HostError Terminal :=
  match judged program args reply with
  | .error error => .error error
  | .ok output =>
      match Window.parseList output with
      | .error error => .error error
      | .ok [] => .error (.unexpectedOutput output)
      | .ok (window :: _) => .ok window.terminal

/-- An announcement starts one process and reads the reply, by cases on what is read. -/
theorem exec_announced (args : List String) (script : Script)
    : exec (announced program args) script
      = (judgedCreated program args (reply script.replies 0),
        script.play [⟨program, args, ""⟩]) := by
  rw [announced, exec_bind, exec_run, judgedCreated]
  rcases judged program args (reply script.replies 0) with error | output
  · rfl
  · simp only [exec_bind, exec_liftM]
    rcases Window.parseList output with error | windows
    · rfl
    · cases windows <;> rfl

/-- An announcement gives the terminal that the reply announces, by cases on what is read. -/
theorem judgedCreated_eq_ok_iff {args : List String} {reply : ProcessResult} {terminal : Terminal}
    : judgedCreated program args reply = .ok terminal ↔ Announces reply terminal := by
  simp only [Announces, lists_iff]
  cases passed : succeeded reply with
  | false => simp [judgedCreated, judged, passed]
  | true =>
      simp only [judgedCreated, judged, passed, if_true, true_and]
      rcases Window.parseList (printed reply) with error | windows
      · simp
      · cases windows <;> simp

/-- The creation of a window is one step, by what is made of the reply. -/
theorem runs_announced (server : Bool) (spec : LaunchSpec) (replies : List ProcessResult)
    {terminal : Terminal}
    (announces : ∀ created, Announces (reply replies 0) created → created = terminal)
    : Runs (announced program (Step.opening program server spec).invocation.args) replies
        [.opening program server spec] (.ok terminal) :=
  .reading (exec_announced program _) (fun _ => judgedCreated_eq_ok_iff program)
    fun created created_ => by rw [announces created created_]

/-- A window is created by four runs of tmux, the second of which announces it, by the order of the
program. -/
theorem createWindow_eq (spec : LaunchSpec)
    : createWindow Script.runner program spec = do
        let server ← runIfServer Script.runner program ["list-sessions"]
        let terminal ← announced program (Step.opening program server.isSome spec).invocation.args
        let _ ← run Script.runner program
          (Step.option program terminal.id "remain-on-exit" "on").invocation.args none
        let _ ← run Script.runner program
          (Step.option program terminal.id "automatic-rename" "off").invocation.args none
        return terminal := by
  simp only [createWindow, announced, bind_assoc]
  refine bind_congr fun server => bind_congr fun output => bind_congr fun windows => ?_
  cases windows with
  | nil => rfl
  | cons window later => simp only [pure_bind]; rfl

/-- The steps of creating a window: the server is asked for, the window is created with it or
without it, and the terminal that is announced gets its options. -/
def creatingSteps (server : Bool) (spec : LaunchSpec) (terminal : Terminal) : List Step :=
  [ .probe program,
    .opening program server spec,
    .option program terminal.id "remain-on-exit" "on",
    .option program terminal.id "automatic-rename" "off" ]

/-- The creation of a window runs its steps, by the runs of its four processes. -/
theorem runs_createWindow (spec : LaunchSpec) (replies : List ProcessResult) {terminal : Terminal}
    (announces : ∀ created, Announces (reply replies 1) created → created = terminal)
    : Runs (createWindow Script.runner program spec) replies
        (creatingSteps program (succeeded (reply replies 0)) spec terminal) (.ok terminal) := by
  obtain ⟨server, known, probed⟩ := runs_probe program replies
  have opened
      : Runs (announced program (Step.opening program server.isSome spec).invocation.args)
          (replies.drop 1) [.opening program server.isSome spec] (.ok terminal) :=
    runs_announced program server.isSome spec _ (by rwa [reply_drop])
  rw [createWindow_eq, creatingSteps, ← known]
  refine probed.bind (opened.bind ?_)
  refine (runs_run program _ none _).bind ?_
  exact (runs_run program _ none _).map _

/-- A text is loaded into the paste buffer, pasted into a window and submitted. -/
def pastingSteps (session : Terminal) (text : String) : List Step :=
  [ .command program ["load-buffer", "-b", "haskit", "-"] text,
    .command program ["paste-buffer", "-d", "-b", "haskit", "-t", session.id] "",
    .command program ["send-keys", "-t", session.id, "Enter"] "" ]

/-- A text is pasted by its steps, by the runs of the three processes. -/
theorem runs_pasteText (session : Terminal) (text : String) (replies : List ProcessResult)
    : Runs (pasteText Script.runner program session text true) replies
        (pastingSteps program session text) (.ok ()) := by
  rw [pasteText]
  refine (runs_run program _ _ _).bind ?_
  refine (runs_run program _ _ _).bind ?_
  exact (runs_run program _ _ _).map _

end CellRunner.Tmux

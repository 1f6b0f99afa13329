import CellRunner.Proofs.Session.Course
import CellRunner.Proofs.Tmux.HostProcesses

/-!
The processes of a delivery. The replies to the first two decide whether a session is reused; if
not, a command has to be given or chosen before a window is created for it. The frame goes to tmux
last, and only into the session that was found or created.
-/

namespace CellRunner.Tmux

/-- A chooser that answers on its own, without tmux. -/
def answering (answer : CommandMenu → Except String Choice) : CommandChooser (StateM Script) where
  choose menu := liftExcept (answer menu)

-----------------------------------------------------------------------------------------
-- Sessions in a reply
-----------------------------------------------------------------------------------------

/-- A terminal holds a session: its process lives, and its name begins with the policy's mark. -/
def HoldsSession (policy : SessionPolicy) (terminal : Terminal) : Prop :=
  terminal.exitStatus = none ∧ policy.mark.toList <+: terminal.name.toList

/-- The reply to the question for the focus gives a session: the first active window holds one. -/
def Focuses (policy : SessionPolicy) (reply : ProcessResult) (session : Terminal) : Prop :=
  ∃ windows window,
    Answers reply windows
    ∧ windows.find? (·.active) = some window
    ∧ window.terminal = session
    ∧ HoldsSession policy session

/-- The reply to the question for all windows gives a session: no window in front of it holds
one. -/
def Presents (policy : SessionPolicy) (reply : ProcessResult) (session : Terminal) : Prop :=
  ∃ windows before after,
    Answers reply windows
    ∧ windows.map (·.terminal) = before ++ session :: after
    ∧ HoldsSession policy session
    ∧ ∀ earlier ∈ before, ¬HoldsSession policy earlier

/-- A policy recognizes the terminals that hold a session, by the two conditions. -/
theorem recognizes_iff {policy : SessionPolicy} {terminal : Terminal}
    : policy.recognizes terminal = true ↔ HoldsSession policy terminal := by
  simp [SessionPolicy.recognizes, Terminal.isAlive, HoldsSession]

/-- The focus is picked from the windows of the reply, by the meaning of the search for it. -/
theorem focuses_iff {policy : SessionPolicy} {reply : ProcessResult} {session : Terminal}
    : Focuses policy reply session
      ↔ ∃ windows,
          Answers reply windows
          ∧ ((windows.find? (·.active)).map (·.terminal)).filter policy.recognizes
            = some session := by
  simp only [Focuses, Option.filter_eq_some_iff, Option.map_eq_some_iff, recognizes_iff]
  constructor
  · rintro ⟨windows, window, answers, active, same, holds⟩
    exact ⟨windows, answers, ⟨window, active, same⟩, holds⟩
  · rintro ⟨windows, answers, ⟨window, active, same⟩, holds⟩
    exact ⟨windows, window, answers, active, same, holds⟩

/-- A session is picked from the windows of the reply, by the meaning of the search for it. -/
theorem presents_iff {policy : SessionPolicy} {reply : ProcessResult} {session : Terminal}
    : Presents policy reply session
      ↔ ∃ windows,
          Answers reply windows
          ∧ (windows.map (·.terminal)).find? policy.recognizes = some session := by
  simp only [Presents, List.find?_eq_some_iff_append, Bool.not_eq_true', ← Bool.not_eq_true,
    recognizes_iff]
  constructor
  · rintro ⟨windows, before, after, answers, split, holds, first⟩
    exact ⟨windows, answers, holds, before, after, split, first⟩
  · rintro ⟨windows, answers, holds, before, after, split, first⟩
    exact ⟨windows, before, after, answers, split, holds, first⟩

-----------------------------------------------------------------------------------------
-- Steps of a delivery
-----------------------------------------------------------------------------------------

variable (setup : SessionSetup) (answer : CommandMenu → Except String Choice)
  (desired : Option String) (program : String)

/-- The question for the window with the focus. -/
def focusStep : Step :=
  .query program ["display-message", "-p", Window.format]

/-- The question for all windows. -/
def listingStep : Step :=
  .query program ["list-windows", "-a", "-F", Window.format]

/-- The steps of looking for a session, and the session that they find: the windows are listed
unless the focus is on a session. -/
inductive FindingSteps (policy : SessionPolicy) (program : String) (replies : List ProcessResult)
    : List Step → Option Terminal → Prop
  | focused {session} (focus : Focuses policy (reply replies 0) session)
    : FindingSteps policy program replies [focusStep program] (some session)
  | listed {session} (unfocused : ∀ other, ¬Focuses policy (reply replies 0) other)
    (listing : Presents policy (reply replies 1) session)
    : FindingSteps policy program replies [focusStep program, listingStep program] (some session)
  | missing (unfocused : ∀ other, ¬Focuses policy (reply replies 0) other)
    (unlisted : ∀ other, ¬Presents policy (reply replies 1) other)
    : FindingSteps policy program replies [focusStep program, listingStep program] none

/-- The command for a session that has to be started; none if the menu is dismissed. -/
def commandFor : Except SessionError (Option (List String)) :=
  match desired with
  | some line => .ok (some (setup.commandWords line))
  | none =>
      match answer setup.menu with
      | .error cause => .error (.chooser cause)
      | .ok .cancelled => .ok none
      | .ok (.accepted line) => .ok (some (setup.commandWords line))

/-- A window is created for a session and shown. -/
def startingSteps (server : Bool) (spec : LaunchSpec) (session : Terminal) : List Step :=
  creatingSteps program server spec session
    ++ [.command program ["select-window", "-t", session.id] ""]

/-- The steps of sending a frame, and what becomes of it if every step passes. A session that has
to be started is the one that the reply to its creation announces; without an announcement the
steps do not get past the creation. -/
inductive SendingSteps (setup : SessionSetup) (answer : CommandMenu → Except String Choice)
    (desired : Option String) (program : String) (frame : Frame) (replies : List ProcessResult)
    : List Step → Except SessionError Delivery → Prop
  | reused {finding session}
    (found : FindingSteps setup.policy program replies finding (some session))
    : SendingSteps setup answer desired program frame replies
        (finding ++ pastingSteps program session frame.render) (.ok (.sent session frame))
  | started {finding command session}
    (missing : FindingSteps setup.policy program replies finding none)
    (given : commandFor setup answer desired = .ok (some command))
    (announces : ∀ created, Announces (reply replies 3) created → created = session)
    : SendingSteps setup answer desired program frame replies
        (finding
          ++ startingSteps program (succeeded (reply replies 2)) (setup.policy.launchSpec command)
            session
          ++ pastingSteps program session frame.render)
        (.ok (.sent session frame))
  | dismissed {finding} (missing : FindingSteps setup.policy program replies finding none)
    (given : commandFor setup answer desired = .ok none)
    : SendingSteps setup answer desired program frame replies finding (.ok .cancelled)
  | failed {finding error} (missing : FindingSteps setup.policy program replies finding none)
    (given : commandFor setup answer desired = .error error)
    : SendingSteps setup answer desired program frame replies finding (.error error)

/-- Both questions are asked before a session is missed, by cases on the steps. -/
theorem FindingSteps.length_eq_two {policy : SessionPolicy} {program : String}
    {replies : List ProcessResult} {finding : List Step}
    (missing : FindingSteps policy program replies finding none)
    : finding.length = 2 := by
  cases missing
  rfl

-----------------------------------------------------------------------------------------
-- Runs of the session operations
-----------------------------------------------------------------------------------------

/-- A session is looked for by its steps, by cases on what is picked from the two replies. -/
theorem runs_findSession (replies : List ProcessResult)
    : ∃ finding found,
        FindingSteps setup.policy program replies finding found
        ∧ Runs (setup.findSession (host Script.runner program)) replies finding (.ok found) := by
  obtain ⟨windows, taken, asked⟩ :=
    runs_query program ["display-message", "-p", Window.format] replies
  obtain ⟨all, allTaken, listed⟩ :=
    runs_query program ["list-windows", "-a", "-F", Window.format] (replies.drop 1)
  rw [reply_drop] at allTaken
  have focus (session : Terminal) := focuses_iff.trans
    (taken.picks_iff rfl : _ ↔ ((windows.find? (·.active)).map (·.terminal)).filter
      setup.policy.recognizes = some session)
  have listing (session : Terminal) := presents_iff.trans
    (allTaken.picks_iff rfl : _ ↔ (all.map (·.terminal)).find? setup.policy.recognizes
      = some session)
  replace asked := asked.map (fun windows => (windows.find? (·.active)).map (·.terminal))
  replace listed := listed.map (fun windows => windows.map (·.terminal))
  rw [SessionSetup.findSession]
  cases known : ((windows.find? (·.active)).map (·.terminal)).filter setup.policy.recognizes with
  | some session =>
      refine ⟨_, _, .focused ((focus session).mpr known), asked.bind ?_⟩
      simp only [known, Option.isSome_some, if_true]
      exact .pure _
  | none =>
      have unfocused (other : Terminal) : ¬Focuses setup.policy (reply replies 0) other := by
        rw [focus, known]
        exact nofun
      have asks
          : Runs (setup.findSession (host Script.runner program)) replies
              [focusStep program, listingStep program]
              (.ok ((all.map (·.terminal)).find? setup.policy.recognizes)) := by
        refine asked.bind ?_
        simp only [known, Option.isSome_none, Bool.false_eq_true, if_false]
        exact listed.map _
      cases first : (all.map (·.terminal)).find? setup.policy.recognizes with
      | some session =>
          rw [first] at asks
          exact ⟨_, _, .listed unfocused ((listing session).mpr first), asks⟩
      | none =>
          have unlisted (other : Terminal) : ¬Presents setup.policy (reply replies 1) other := by
            rw [listing, first]
            exact nofun
          rw [first] at asks
          exact ⟨_, _, .missing unfocused unlisted, asks⟩

/-- A session is started by its steps, by the runs of creating a window and showing it. -/
theorem runs_createSession (command : List String) (replies : List ProcessResult)
    {session : Terminal}
    (announces : ∀ created, Announces (reply replies 1) created → created = session)
    : Runs (setup.createSession (host Script.runner program) command) replies
        (startingSteps program (succeeded (reply replies 0)) (setup.policy.launchSpec command)
          session)
        (.ok session) := by
  have created
      : Runs
          ((host Script.runner program).createTerminal (setup.policy.launchSpec command)) replies
          (creatingSteps program (succeeded (reply replies 0)) (setup.policy.launchSpec command)
            session)
          (.ok session) :=
    runs_createWindow program _ replies announces
  have shown (after : List ProcessResult)
      : Runs ((host Script.runner program).showTerminal session) after
          [.command program ["select-window", "-t", session.id] ""] (.ok ()) :=
    (runs_run program _ none after).map _
  rw [SessionSetup.createSession, startingSteps]
  exact created.bind ((shown _).map _)

/-- The command is obtained without a step, by cases on where it comes from. -/
theorem runs_obtainCommand (replies : List ProcessResult)
    : Runs (setup.obtainCommand (answering answer) desired) replies []
        (commandFor setup answer desired) := by
  refine .still fun script => ?_
  unfold SessionSetup.obtainCommand commandFor
  cases desired with
  | some line => rfl
  | none =>
      simp only [answering]
      rw [exec_bind, exec_adapt, exec_liftExcept]
      rcases answer setup.menu with cause | choice
      · rfl
      · cases choice <;> rfl

/-- A session is opened for a command by the steps of starting it, by the runs of both. -/
theorem runs_openSession_of_command {command : List String}
    (given : commandFor setup answer desired = .ok (some command)) (replies : List ProcessResult)
    {session : Terminal}
    (announces : ∀ created, Announces (reply replies 1) created → created = session)
    : Runs (setup.openSession (host Script.runner program) (answering answer) desired) replies
        (startingSteps program (succeeded (reply replies 0)) (setup.policy.launchSpec command)
          session)
        (.ok (some session)) := by
  have obtained := runs_obtainCommand setup answer desired replies
  have started := (runs_createSession setup program command replies announces).adapt
    SessionError.host
  rw [given] at obtained
  exact obtained.bind (started.map some)

/-- No session is opened when the menu is dismissed, by the run of obtaining a command. -/
theorem runs_openSession_of_dismissal (given : commandFor setup answer desired = .ok none)
    (replies : List ProcessResult)
    : Runs (setup.openSession (host Script.runner program) (answering answer) desired) replies []
        (.ok none) := by
  have obtained := runs_obtainCommand setup answer desired replies
  rw [given] at obtained
  exact obtained.bind (.pure none)

/-- No session is opened when the chooser fails, by the run of obtaining a command. -/
theorem runs_openSession_of_failure {error : SessionError}
    (given : commandFor setup answer desired = .error error) (replies : List ProcessResult)
    : Runs (setup.openSession (host Script.runner program) (answering answer) desired) replies []
        (.error error) := by
  have obtained := runs_obtainCommand setup answer desired replies
  rw [given] at obtained
  exact obtained.bind_error _

/-- If no session is found, one is opened by the steps behind those of looking for it, by the runs
of both. -/
theorem runs_resolveSession {finding opening : List Step} {replies : List ProcessResult}
    {opened : Except SessionError (Option Terminal)}
    (looked
      : Runs ((setup.findSession (host Script.runner program)).adapt SessionError.host) replies
          finding (.ok none))
    (opens
      : Runs (setup.openSession (host Script.runner program) (answering answer) desired)
          (replies.drop finding.length) opening opened)
    : Runs (setup.resolveSession (host Script.runner program) (answering answer) desired) replies
        (finding ++ opening) opened :=
  looked.bind opens

/-- Whatever the reply to a creation, there is a terminal that it announces if it announces any, by
what is made of the reply. -/
theorem exists_announced (reply : ProcessResult)
    : ∃ session, ∀ created, Announces reply created → created = session := by
  by_cases announces : ∃ session, Announces reply session
  · obtain ⟨session, announces⟩ := announces
    refine ⟨session, fun created others => ?_⟩
    have given (terminal : Terminal) := @judgedCreated_eq_ok_iff "" [] reply terminal
    exact Except.ok.inj (((given created).mpr others).symm.trans ((given session).mpr announces))
  · exact ⟨⟨"", "", none⟩, fun created others => absurd ⟨created, others⟩ announces⟩

/-- A frame is sent by its steps, by the runs of looking for a session, opening one and
pasting. -/
theorem runs_deliver {frame : Frame} {sourceName : String} {totalLines : Nat} {excerpt : Excerpt}
    (planned : Frame.ofExcerpt? excerpt totalLines sourceName = some frame)
    (replies : List ProcessResult)
    : ∃ steps finish,
        SendingSteps setup answer desired program frame replies steps finish
        ∧ Runs
            (setup.deliver (host Script.runner program) (answering answer) sourceName totalLines
              excerpt desired)
            replies steps finish := by
  obtain ⟨finding, found, steps, looked⟩ := runs_findSession setup program replies
  replace looked := looked.adapt SessionError.host
  have sent (session : Terminal) (after : List ProcessResult) :=
    ((runs_pasteText program session frame.render after).adapt SessionError.host).map
      (fun _ => Delivery.sent session frame)
  -- `delta` rather than the equation of `deliver`, whose proof computes the frame.
  delta SessionSetup.deliver
  simp only [planned]
  cases found with
  | some session =>
      have reached
          : Runs (setup.resolveSession (host Script.runner program) (answering answer) desired)
              replies finding (.ok (some session)) := by
        rw [← List.append_nil finding]
        exact looked.bind (.pure _)
      exact ⟨_, _, .reused steps, reached.bind (sent session _)⟩
  | none =>
      have reached {opening opened} :=
        @runs_resolveSession setup answer desired program finding opening replies opened looked
      cases given : commandFor setup answer desired with
      | error error =>
          have stopped := reached (runs_openSession_of_failure setup answer desired program given _)
          rw [List.append_nil] at stopped
          exact ⟨_, _, .failed steps given, stopped.bind_error _⟩
      | ok command =>
          cases command with
          | none =>
              have stopped :=
                reached (runs_openSession_of_dismissal setup answer desired program given _)
              refine ⟨_, _, .dismissed steps given, ?_⟩
              rw [← List.append_nil finding, ← List.append_nil (finding ++ [])]
              exact stopped.bind (.pure _)
          | some command =>
              obtain ⟨session, announces⟩ := exists_announced (reply replies 3)
              have later (n : Nat)
                  : reply (replies.drop finding.length) n = reply replies (2 + n) := by
                rw [steps.length_eq_two, reply_drop]
              have opens := runs_openSession_of_command setup answer desired program given
                (replies.drop finding.length) (by rwa [later])
              rw [later] at opens
              exact ⟨_, _, .started steps given announces, (reached opens).bind (sent session _)⟩

/-- Whatever tmux replies, a delivery without a line to send starts no process. With a frame, it
starts the processes of its steps up to the first reply that does not pass, which fails it, and
the frame is delivered as the steps say if all of them pass. -/
theorem delivery_processes (sourceName : String) (totalLines : Nat) (excerpt : Excerpt)
    (script : Script)
    : ∃ result after,
        exec
          (setup.deliver (host Script.runner program) (answering answer) sourceName totalLines
            excerpt desired)
          script
        = (result, after)
        ∧ match Frame.ofExcerpt? excerpt totalLines sourceName with
          | none => after = script ∧ result = .ok .empty
          | some frame =>
              ∃ steps finish invocations passed,
                SendingSteps setup answer desired program frame script.replies steps finish
                ∧ Starts steps script.replies invocations passed
                ∧ invocations <+: steps.map (·.invocation)
                ∧ after.invocations = script.invocations ++ invocations
                ∧ Ends finish result passed := by
  cases planned : Frame.ofExcerpt? excerpt totalLines sourceName with
  | none =>
      have nothing := setup.deliver_empty (host Script.runner program) (answering answer) planned
        desired script
      exact ⟨_, _, nothing.plain, rfl, rfl⟩
  | some frame =>
      obtain ⟨steps, finish, sending, runs⟩ :=
        runs_deliver setup answer desired program planned script.replies
      obtain ⟨result, invocations, passed, run, starts, ends⟩ := runs script rfl
      exact ⟨result, _, run, steps, finish, invocations, passed, sending, starts, starts.isPrefix,
        rfl, ends⟩

/-- Without a server a session is started in a new tmux session, and a listing that names no window
ends the delivery there. -/
example
    : let setup : SessionSetup := ⟨{}, [], []⟩
      let missing : ProcessResult :=
        { stderr := "no server running on /tmp/tmux-0/default\n".toUTF8, status := 1 }
      let delivery := setup.deliver (host Script.runner "tmux") (answering fun _ => .ok .cancelled)
        "demo" 2 ⟨0, 2, "a\n"⟩ (some "cabal repl")
      let (result, after) := exec delivery ⟨[missing, missing, missing, {}], []⟩
      after.invocations.map (fun process => process.args.head?)
          = [some "display-message", some "list-windows", some "list-sessions", some "new-session"]
        ∧ result = .error (.host (.unexpectedOutput "")) := by
  decide +kernel

end CellRunner.Tmux

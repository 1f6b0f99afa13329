import CellRunner.Proofs.Tmux.HostProcesses
import Mathlib.Logic.Function.Basic

/-!
Two programs that paste a text at the same time. Each of them is the row of processes that it
starts; a schedule says whose process tmux serves next, and every turn is written down with what
it types. A call to paste goes through its stages, whatever the other one does.
-/

namespace CellRunner.Tmux

-----------------------------------------------------------------------------------------
-- Programs as their processes
-----------------------------------------------------------------------------------------

/-- What a program does up to its end: it starts a process, and goes on when this has ended. -/
inductive Talk (α : Type) where
  | finished (a : α)
  | waiting (process : Invocation) (resume : Except String ProcessResult → Talk α)

namespace Talk

variable {α β : Type}

def bind : Talk α → (α → Talk β) → Talk β
  | finished a, next => next a
  | waiting process resume, next => waiting process (fun reply => (resume reply).bind next)

instance : Monad Talk where
  pure := finished
  bind := bind

def runner : ProcessRunner Talk where
  run program args input := ExceptT.mk (waiting ⟨program, args, input.getD ""⟩ finished)

def result? : Talk α → Option α
  | finished a => some a
  | waiting _ _ => none

end Talk

/-- Whether a process was started and succeeded. -/
def passed : Except String ProcessResult → Bool
  | .ok reply => succeeded reply
  | .error _ => false

/-- What a run of tmux gives for a reply, or for the reason why there is none. -/
def concluded (program : String) (args : List String)
    : Except String ProcessResult → Except HostError String
  | .ok reply => judged program args reply
  | .error cause => .error (.spawn program cause)

/-- A process that succeeds gives an output, by the judgement of its reply. -/
theorem concluded_of_passed (program : String) (args : List String)
    {reply : Except String ProcessResult} (h : passed reply = true)
    : ∃ output, concluded program args reply = .ok output := by
  cases reply with
  | ok reply => exact ⟨printed reply, if_pos h⟩
  | error cause => cases h

/-- A process that fails or cannot be started gives an error, by cases on the reply. -/
theorem concluded_of_not_passed (program : String) (args : List String)
    {reply : Except String ProcessResult} (h : passed reply = false)
    : ∃ error, concluded program args reply = .error error := by
  cases reply with
  | ok reply =>
      have failure : succeeded reply = false := h
      exact ⟨_, by rw [concluded, judged, if_neg (by simp [failure])]⟩
  | error cause => exact ⟨_, rfl⟩

/-- A run of tmux waits for one process and goes on with what it has concluded. -/
theorem run_bind_talk {β : Type} (program : String) (args : List String) (input : Option String)
    (next : String → ExceptT HostError Talk β)
    : (run Talk.runner program args input >>= next).run
      = .waiting ⟨program, args, input.getD ""⟩ (fun reply =>
          match concluded program args reply with
          | .ok output => (next output).run
          | .error error => .finished (.error error)) := by
  refine congrArg (Talk.waiting _) (funext fun reply => ?_)
  cases reply with
  | error cause => rfl
  | ok reply =>
      have course
          : (do
              if reply.status = 0 then return Text.Utf8.decodeLossy reply.stdout
              else
                throw (.commandFailed (program ++ " " ++ args.head?.getD "")
                  ("exit status: " ++ Text.Decimal.write reply.status) (complaint reply))
            : ExceptT HostError Talk String).run
            = .finished (judged program args reply) := by
        by_cases success : reply.status = 0
        · simp only [judged, succeeded, success, decide_true, if_true]
          rfl
        · simp only [judged, succeeded, success, decide_false, if_false, Bool.false_eq_true]
          rfl
      refine (congrArg (Talk.bind · (ExceptT.bindCont next)) course).trans ?_
      rw [concluded]
      cases judged program args reply <;> rfl

-----------------------------------------------------------------------------------------
-- Stages of a call
-----------------------------------------------------------------------------------------

/-- A call to paste a text, with the tmux program that it is made through. -/
structure Call where
  program : String
  terminal : Terminal
  text : String
  submit : Bool

/-- What a call does next. -/
inductive Stage where
  | loading
  | pasting
  | entering
  | ended (result : Except HostError Unit)

namespace Call

def load (call : Call) : Invocation :=
  ⟨call.program, ["load-buffer", "-b", bufferName, "-"], call.text⟩

def paste (call : Call) : Invocation :=
  ⟨call.program, ["paste-buffer", "-d", "-b", bufferName, "-t", call.terminal.id], ""⟩

def enter (call : Call) : Invocation :=
  ⟨call.program, ["send-keys", "-t", call.terminal.id, "Enter"], ""⟩

/-- What is left of the call from a stage on. -/
def rest (call : Call) : Stage → ExceptT HostError Talk Unit
  | .loading =>
      pasteText Talk.runner call.program call.terminal call.text call.submit
  | .pasting => do
      let _ ← run Talk.runner call.program call.paste.args none
      if call.submit then
        let _ ← run Talk.runner call.program call.enter.args none
  | .entering => do
      let _ ← run Talk.runner call.program call.enter.args none
  | .ended result => ExceptT.mk (pure result)

def process? (call : Call) : Stage → Option Invocation
  | .loading => some call.load
  | .pasting => some call.paste
  | .entering => some call.enter
  | .ended _ => none

/-- A call without a process has ended, by cases on the stage. -/
theorem ended_of_idle {call : Call} {stage : Stage} (idle : call.process? stage = none)
    : ∃ result, stage = .ended result := by
  cases stage with
  | ended result => exact ⟨result, rfl⟩
  | _ => cases idle

/-- The stage after one whose process has passed. -/
def following (call : Call) : Stage → Stage
  | .loading => .pasting
  | .pasting => if call.submit then .entering else .ended (.ok ())
  | .entering => .ended (.ok ())
  | .ended result => .ended result

/-- The stage after a process, which ends the call if it fails. -/
def next (call : Call) (stage : Stage) (process : Invocation) (reply : Except String ProcessResult)
    : Stage :=
  match concluded call.program process.args reply with
  | .ok _ => call.following stage
  | .error error => .ended (.error error)

/-- What is left of a call waits for the process of its stage and goes on at the next one, by cases
on the stage. -/
theorem run_rest {call : Call} {stage : Stage} {process : Invocation}
    (h : call.process? stage = some process)
    : (call.rest stage).run
      = .waiting process (fun reply => (call.rest (call.next stage process reply)).run) := by
  have conclude (stage : Stage) (process : Invocation)
      {goOn : String → ExceptT HostError Talk Unit}
      (after : ∀ output, (goOn output).run = (call.rest (call.following stage)).run)
      (reply : Except String ProcessResult)
      : (match concluded call.program process.args reply with
          | .ok output => (goOn output).run
          | .error error => .finished (.error error))
        = (call.rest (call.next stage process reply)).run := by
    rw [next]
    cases concluded call.program process.args reply with
    | ok output => exact after output
    | error error => rfl
  cases stage with
  | loading =>
      obtain rfl := Option.some.inj h
      rw [rest, pasteText, run_bind_talk]
      exact congrArg _ (funext (conclude .loading call.load fun _ => rfl))
  | pasting =>
      obtain rfl := Option.some.inj h
      rw [rest, run_bind_talk]
      refine congrArg _ (funext (conclude .pasting call.paste fun _ => ?_))
      rw [following]
      cases call.submit <;> rfl
  | entering =>
      obtain rfl := Option.some.inj h
      rw [rest, run_bind_talk]
      exact congrArg _ (funext (conclude .entering call.enter fun _ => rfl))
  | ended result => cases h

/-- A process that passes leads to the following stage, by what it gives. -/
theorem next_of_passed (call : Call) (stage : Stage) {process : Invocation}
    {reply : Except String ProcessResult} (h : passed reply = true)
    : call.next stage process reply = call.following stage := by
  obtain ⟨output, concludes⟩ :=
    concluded_of_passed call.program process.args h
  rw [next, concludes]

/-- A process that does not pass ends the call, by what it gives. -/
theorem next_of_not_passed (call : Call) (stage : Stage) {process : Invocation}
    {reply : Except String ProcessResult} (h : passed reply = false)
    : ∃ error, call.next stage process reply = .ended (.error error) := by
  obtain ⟨error, concludes⟩ :=
    concluded_of_not_passed call.program process.args h
  exact ⟨error, by rw [next, concludes]⟩

/-- The processes that a call has started on its way to a stage. -/
def Started (call : Call) (stage : Stage) (processes : List Invocation) : Prop :=
  match stage with
  | .loading => processes = []
  | .pasting => processes = [call.load]
  | .entering => processes = [call.load, call.paste]
  | .ended _ => processes <+: [call.load, call.paste, call.enter]

/-- A call starts a beginning of its three processes, by cases on the stage. -/
theorem Started.isPrefix {call : Call} {stage : Stage} {processes : List Invocation}
    (h : call.Started stage processes)
    : processes <+: [call.load, call.paste, call.enter] := by
  cases stage with
  | ended result => exact h
  | loading =>
      obtain rfl : processes = [] := h
      exact List.nil_prefix
  | pasting =>
      obtain rfl : processes = [call.load] := h
      exact ⟨[call.paste, call.enter], rfl⟩
  | entering =>
      obtain rfl : processes = [call.load, call.paste] := h
      exact ⟨[call.enter], rfl⟩

/-- A process leads to the following stage or ends the call with an error, by cases on whether it
passes. -/
theorem next_cases (call : Call) (stage : Stage) (process : Invocation)
    (reply : Except String ProcessResult)
    : call.next stage process reply = call.following stage
      ∨ ∃ error, call.next stage process reply = .ended (.error error) := by
  cases success : passed reply with
  | true => exact .inl (call.next_of_passed stage success)
  | false => exact .inr (call.next_of_not_passed stage success)

/-- The process of a stage comes behind those before it, by cases on the stage and on what the
process leads to. -/
theorem Started.next {call : Call} {stage : Stage} {process : Invocation}
    {processes : List Invocation} (h : call.Started stage processes)
    (running : call.process? stage = some process) (reply : Except String ProcessResult)
    : call.Started (call.next stage process reply) (processes ++ [process]) := by
  have ways := call.next_cases stage process reply
  cases stage with
  | ended result => cases running
  | loading =>
      obtain rfl : processes = [] := h
      obtain rfl := Option.some.inj running
      obtain follows | ⟨error, fails⟩ := ways
      · rw [follows]
        exact rfl
      · rw [fails]
        exact ⟨[call.paste, call.enter], rfl⟩
  | pasting =>
      obtain rfl : processes = [call.load] := h
      obtain rfl := Option.some.inj running
      obtain follows | ⟨error, fails⟩ := ways
      · rw [follows, following]
        cases call.submit
        · exact ⟨[call.enter], rfl⟩
        · exact rfl
      · rw [fails]
        exact ⟨[call.enter], rfl⟩
  | entering =>
      obtain rfl : processes = [call.load, call.paste] := h
      obtain rfl := Option.some.inj running
      obtain follows | ⟨error, fails⟩ := ways
      · rw [follows]
        exact ⟨[], rfl⟩
      · rw [fails]
        exact ⟨[], rfl⟩

end Call

-----------------------------------------------------------------------------------------
-- Two calls and a server
-----------------------------------------------------------------------------------------

/-- What serving a process comes to. -/
structure Outcome (σ : Type) where
  reply : Except String ProcessResult
  /-- The texts that are typed, each with its window. -/
  typed : List (String × String)
  state : σ

/-- A server that processes are run against, and what it has in the paste buffer. -/
structure Server (σ : Type) where
  serve : Invocation → σ → Outcome σ
  buffer : σ → Option String

/-- What the commands of a call do. A process that fails does nothing. -/
structure Server.Lawful {σ : Type} (server : Server σ) (call : Call) : Prop where
  load
    : ∀ s,
        let outcome := server.serve call.load s
        outcome.typed = []
        ∧ server.buffer outcome.state
          = if passed outcome.reply then some call.text else server.buffer s
  paste
    : ∀ s,
        let outcome := server.serve call.paste s
        if passed outcome.reply then
          ∃ text,
            server.buffer s = some text
            ∧ outcome.typed = [(call.terminal.id, text)]
            ∧ server.buffer outcome.state = none
        else outcome.typed = [] ∧ server.buffer outcome.state = server.buffer s
  enter
    : ∀ s,
        let outcome := server.serve call.enter s
        outcome.typed = [] ∧ server.buffer outcome.state = server.buffer s

inductive Party where
  | one
  | two
deriving DecidableEq, Repr

def Party.other : Party → Party
  | one => two
  | two => one

/-- A process that was served for a party. -/
structure Turn where
  party : Party
  process : Invocation
  reply : Except String ProcessResult
  typed : List (String × String)

/-- A server and two programs that run against it. -/
structure Joint (σ : Type) where
  state : σ
  talks : Party → Talk (Except HostError Unit)
  /-- The turns so far, the first one first. -/
  turns : List Turn := []

namespace Joint

variable {σ : Type}

def start (calls : Party → Call) (s : σ) : Joint σ where
  state := s
  talks party :=
    (pasteText Talk.runner (calls party).program (calls party).terminal (calls party).text
      (calls party).submit).run

/-- The next process of a party is served, unless the party has finished. -/
def step (server : Server σ) (joint : Joint σ) (party : Party) : Joint σ :=
  match joint.talks party with
  | .finished _ => joint
  | .waiting process resume =>
      let outcome := server.serve process joint.state
      { state := outcome.state
        talks := Function.update joint.talks party (resume outcome.reply)
        turns := joint.turns ++ [⟨party, process, outcome.reply, outcome.typed⟩] }

def run (server : Server σ) (joint : Joint σ) (schedule : List Party) : Joint σ :=
  schedule.foldl (step server) joint

/-- What a party has returned, if it has finished. -/
def result? (joint : Joint σ) (party : Party) : Option (Except HostError Unit) :=
  (joint.talks party).result?

end Joint

/-- What a party has typed, in all its turns. -/
def typedBy (party : Party) (turns : List Turn) : List (String × String) :=
  (turns.filter (·.party = party)).flatMap (·.typed)

end CellRunner.Tmux

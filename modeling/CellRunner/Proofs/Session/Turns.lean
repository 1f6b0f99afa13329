import CellRunner.Proofs.Session.Starts

/-!
Runs of requests against a rehearsed host, with whatever happens to its terminals in between.
A request starts a terminal only while no terminal is a session. So if the terminals are left
alone at most one is ever started, and every later request uses it.
-/

namespace CellRunner

/-- What may be asked of a session setup again and again. -/
inductive SessionRequest where
  | resolve (desired : Option String)
  | deliver (sourceName : String) (totalLines : Nat) (excerpt : Excerpt)
    (desired : Option String)

/-- What a request that succeeds comes to. -/
inductive SessionAnswer where
  | resolved (session : Option Terminal)
  | delivered (delivery : Delivery)
deriving DecidableEq, Repr

namespace SessionRequest

def carryOut {m : Type → Type} [Monad m] (setup : SessionSetup) (host : TerminalHost m)
    (chooser : CommandChooser m)
    : SessionRequest → ExceptT SessionError m SessionAnswer
  | .resolve desired => return .resolved (← setup.resolveSession host chooser desired)
  | .deliver sourceName totalLines excerpt desired =>
      return .delivered (← setup.deliver host chooser sourceName totalLines excerpt desired)

/-- The answer to a request that uses a session: a delivery without a line to send uses none. -/
def answerWith (session : Terminal) : SessionRequest → SessionAnswer
  | .resolve _ => .resolved (some session)
  | .deliver sourceName totalLines excerpt _ =>
      .delivered
        ((Frame.ofExcerpt? excerpt totalLines sourceName).elim .empty (.sent session))

end SessionRequest

/-- A request that was carried out: its exchanges with the host and the chooser, and its
result. -/
structure Turn where
  request : SessionRequest
  notes : Notes Rehearsal
  result : Except SessionError SessionAnswer

/-- The turn starts no terminal, pastes into no other one than the session, and uses the session
unless it fails. -/
structure Turn.Reuses (turn : Turn) (session : Terminal) : Prop where
  quiet : Quiet turn.notes
  pastes
    : ∀ s terminal text submit answer,
        (s, .sendText terminal text submit answer) ∈ turn.notes → terminal = session
  answers : ∀ answer, turn.result = .ok answer → answer = turn.request.answerWith session

namespace Rehearsal

/-- A step of a run. -/
inductive Step where
  | ask (request : SessionRequest)
  /-- Failures and answers for the calls to come. -/
  | prepare (failures : List (HostOperation × HostError)) (choices : List ScriptedChoice)
  | outside (event : Event)

/-- The requests of a run, one after the other: results and states are those of the requests
themselves, and the notes are those of their watched twins. -/
def turns (setup : SessionSetup) : Rehearsal → List Step → List Turn
  | _, [] => []
  | r, .ask request :: steps =>
      let (result, after) := exec (request.carryOut setup host chooser) r
      let watched := exec (request.carryOut setup host.watched chooser.watched) (r, [])
      ⟨request, watched.2.2, result⟩ :: turns setup after steps
  | r, .prepare failures choices :: steps =>
      turns setup { r with failures := failures, choices := choices } steps
  | r, .outside event :: steps => turns setup (r.apply event) steps

/-- Nothing happens to the terminals from outside. -/
def Undisturbed (steps : List Step) : Prop :=
  ∀ event, .outside event ∉ steps

end Rehearsal

-----------------------------------------------------------------------------------------
-- One request
-----------------------------------------------------------------------------------------

namespace SessionSetup

variable {setup : SessionSetup} {desired : Option String} {r after : Rehearsal}
  {notes : Notes Rehearsal} {session : Terminal}

theorem Resolving.reuses_sole {result : Except SessionError (Option Terminal)}
    (h : Resolving setup Rehearsal.host Rehearsal.chooser desired r notes result after)
    (sole : r.sessions setup.policy = [session])
    : Turn.Reuses ⟨.resolve desired, notes, result.map .resolved⟩ session where
  quiet := h.starting.quiet (by simp [sole])
  pastes s terminal text submit answer pasted :=
    absurd (List.mem_map_of_mem pasted) h.pastes_nothing
  answers := by
    have reused := h.reuse (Rehearsal.session?_of_sole sole)
    cases result with
    | error error => nofun
    | ok answer =>
        rintro _ ⟨⟩
        rw [reused answer rfl, SessionRequest.answerWith]

theorem Delivering.reuses_sole {frame : Frame} {result : Except SessionError Delivery}
    {excerpt : Excerpt} {totalLines : Nat} {sourceName : String}
    (h : Delivering setup Rehearsal.host Rehearsal.chooser frame desired r notes result after)
    (planned : Frame.ofExcerpt? excerpt totalLines sourceName = some frame)
    (sole : r.sessions setup.policy = [session])
    : Turn.Reuses ⟨.deliver sourceName totalLines excerpt desired, notes, result.map .delivered⟩
        session where
  quiet := h.starting.quiet (by simp [sole])
  pastes s terminal text submit answer pasted := by
    obtain ⟨_, _, target⟩ := h.target (List.mem_map_of_mem pasted)
    simp only [Rehearsal.session?_of_sole sole, Option.some.injEq, reduceCtorEq, false_and,
      or_false] at target
    exact target.symm
  answers := by
    have reused := h.reuse (Rehearsal.session?_of_sole sole)
    cases result with
    | error error => nofun
    | ok delivery =>
        rintro _ ⟨⟩
        simp only [reused delivery rfl, SessionRequest.answerWith, planned, Option.elim_some]

end SessionSetup

/-- Every request starts at most one session, only where it meets none, and uses the only
session that it meets. -/
theorem SessionRequest.carryOut_does (setup : SessionSetup) (request : SessionRequest)
    (r : Rehearsal)
    : ∃ notes result after,
        Does (request.carryOut setup Rehearsal.host Rehearsal.chooser)
          (request.carryOut setup Rehearsal.host.watched Rehearsal.chooser.watched) r notes
          result after
        ∧ Starting setup.policy r notes after
        ∧ ∀ session,
            r.sessions setup.policy = [session]
            → Turn.Reuses ⟨request, notes, result⟩ session := by
  cases request with
  | resolve desired =>
      obtain ⟨notes, result, after, does, course⟩ :=
        setup.resolveSession_does Rehearsal.host Rehearsal.chooser desired r
      exact ⟨_, _, _, does.map SessionAnswer.resolved, course.starting,
        fun _ => course.reuses_sole⟩
  | deliver sourceName totalLines excerpt desired =>
      cases planned : Frame.ofExcerpt? excerpt totalLines sourceName with
      | none =>
          have nothing := setup.deliver_empty Rehearsal.host Rehearsal.chooser planned desired r
          refine ⟨_, _, _, nothing.map SessionAnswer.delivered, ?_, ?_⟩
          · exact .of_quiet (by simp [Quiet]) (.refl r)
          · intro session _
            refine ⟨by simp [Quiet], by simp, ?_⟩
            rintro _ ⟨⟩
            simp only [SessionRequest.answerWith, planned, Option.elim_none]
      | some frame =>
          obtain ⟨notes, result, after, does, course⟩ :=
            setup.deliver_does Rehearsal.host Rehearsal.chooser planned desired r
          exact ⟨_, _, _, does.map SessionAnswer.delivered, course.starting,
            fun _ => course.reuses_sole planned⟩

namespace Rehearsal

variable {setup : SessionSetup} {steps : List Step} {r : Rehearsal}

theorem turns_ask {request : SessionRequest} {after : Rehearsal} {notes : Notes Rehearsal}
    {result : Except SessionError SessionAnswer} (steps : List Step)
    (does
      : Does (request.carryOut setup host chooser)
          (request.carryOut setup host.watched chooser.watched) r notes result after)
    : turns setup r (.ask request :: steps)
      = ⟨request, notes, result⟩ :: turns setup after steps := by
  simp only [turns, does.plain, does.watched, List.nil_append]

-----------------------------------------------------------------------------------------
-- Whole runs
-----------------------------------------------------------------------------------------

theorem Undisturbed.tail {step : Step} (h : Undisturbed (step :: steps)) : Undisturbed steps :=
  fun event member => h event (List.mem_cons_of_mem _ member)

/-- In any run, a terminal is asked for only while no terminal is a session. -/
theorem missing_of_started (setup : SessionSetup) (steps : List Step) (r : Rehearsal)
    : ∀ turn ∈ turns setup r steps,
        ∀ s spec answer,
          (s, .createTerminal spec answer) ∈ turn.notes → s.sessions setup.policy = [] := by
  induction steps generalizing r with
  | nil => simp [turns]
  | cons step steps ih =>
      cases step with
      | prepare failures choices => exact ih _
      | outside event => exact ih _
      | ask request =>
          obtain ⟨notes, result, after, does, starting, _⟩ := request.carryOut_does setup r
          rw [turns_ask steps does]
          intro turn member s spec answer asked
          rcases List.mem_cons.mp member with rfl | later
          · obtain ⟨terminals, missing⟩ := starting.missing s spec answer asked
            rwa [sessions, terminals]
          · exact ih after turn later s spec answer asked

/-- Once there is only one session, every request of an undisturbed run reuses it. -/
theorem reuses_of_sole {session : Terminal} (undisturbed : Undisturbed steps)
    (sole : r.sessions setup.policy = [session])
    : ∀ turn ∈ turns setup r steps, turn.Reuses session := by
  induction steps generalizing r with
  | nil => simp [turns]
  | cons step steps ih =>
      cases step with
      | outside event => exact absurd List.mem_cons_self (undisturbed event)
      | prepare failures choices => exact ih undisturbed.tail sole
      | ask request =>
          obtain ⟨notes, result, after, does, starting, reuses⟩ := request.carryOut_does setup r
          rw [turns_ask steps does]
          have kept : after.sessions setup.policy = [session] := by
            have nothing := (starting.quiet (by simp [sole])).started_eq_nil
            rw [starting.sessions, nothing, sole, List.append_nil]
          intro turn member
          rcases List.mem_cons.mp member with rfl | later
          · exact reuses session sole
          · exact ih undisturbed.tail kept turn later

/-- An undisturbed run starts at most one session, and none if it meets one. -/
theorem length_started_le (undisturbed : Undisturbed steps)
    : ((turns setup r steps).flatMap (started ·.notes)).length ≤ r.room setup.policy := by
  -- The bound is in terms of the state so that what one request starts narrows it for the rest.
  induction steps generalizing r with
  | nil => simp [turns]
  | cons step steps ih =>
      cases step with
      | outside event => exact absurd List.mem_cons_self (undisturbed event)
      | prepare failures choices => exact ih undisturbed.tail
      | ask request =>
          obtain ⟨notes, result, after, does, starting, _⟩ := request.carryOut_does setup r
          rw [turns_ask steps does, List.flatMap_cons, List.length_append]
          calc
            (started notes).length + ((turns setup after steps).flatMap (started ·.notes)).length
                ≤ (started notes).length + after.room setup.policy :=
              Nat.add_le_add_left (ih undisturbed.tail) _
            _ ≤ r.room setup.policy := starting.room

/-- In an undisturbed run, what a request started is reused by every later one. -/
theorem pairwise_reuses (undisturbed : Undisturbed steps)
    : (turns setup r steps).Pairwise
        (fun turn later => ∀ session ∈ started turn.notes, later.Reuses session) := by
  induction steps generalizing r with
  | nil => exact .nil
  | cons step steps ih =>
      cases step with
      | outside event => exact absurd List.mem_cons_self (undisturbed event)
      | prepare failures choices => exact ih undisturbed.tail
      | ask request =>
          obtain ⟨notes, result, after, does, starting, _⟩ := request.carryOut_does setup r
          rw [turns_ask steps does]
          refine List.pairwise_cons.mpr ⟨?_, ih undisturbed.tail⟩
          -- What this request started is the only session, and stays the only one.
          intro later member session fresh
          exact reuses_of_sole undisturbed.tail (starting.sole fresh) later member

/-- A terminal is asked for only while no terminal is a session, whatever happens in between. If
nothing happens to the terminals from outside, at most one is started over the whole run, and
every later request reuses it, even if the request that started it failed. -/
theorem one_session (setup : SessionSetup) (steps : List Step) (r : Rehearsal)
    : (∀ turn ∈ turns setup r steps,
        ∀ s spec answer,
          (s, .createTerminal spec answer) ∈ turn.notes
          → ∀ terminal ∈ s.terminals, ¬ setup.policy.recognizes terminal)
      ∧ (Undisturbed steps
          → ((turns setup r steps).flatMap (started ·.notes)).length ≤ 1
            ∧ (turns setup r steps).Pairwise
                (fun turn later => ∀ session ∈ started turn.notes, later.Reuses session)) := by
  refine ⟨?_, fun undisturbed => ⟨?_, pairwise_reuses undisturbed⟩⟩
  · intro turn member s spec answer asked
    have missing := missing_of_started setup steps r turn member s spec answer asked
    exact List.filter_eq_nil_iff.mp missing
  · exact Nat.le_trans (length_started_le undisturbed) (room_le r)

/-- A session that could not be shown is there for the next request. -/
example
    : let setup : SessionSetup := ⟨{}, [], []⟩
      let hidden : Rehearsal :=
        ⟨[], none, 0, [(.showTerminal, .unexpectedOutput "")], [], []⟩
      (turns setup hidden [.ask (.resolve (some "repl")), .ask (.resolve none)]).map
          (fun turn => ((started turn.notes).map (·.name), turn.result.toBool))
        = [(["Đ Session - repl"], false), ([], true)] := by
  decide +kernel

end Rehearsal

end CellRunner

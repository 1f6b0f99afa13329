import CellRunner.Proofs.Host.RehearsedCalls
import CellRunner.Proofs.Session.Course

/-!
The plan of a request: which calls it makes, in which order, as the rehearsed terminals and the
desired command fix it before the first call. A request goes through its plan until a call fails
or the menu is dismissed, and that call is then its last one.
-/

namespace CellRunner

inductive CallKind where
  | activeTerminal
  | terminals
  | choose
  | createTerminal
  | showTerminal
  | sendText
deriving DecidableEq, Repr

/-- Why a request stops before its plan is done. -/
inductive Stop where
  | failed (error : SessionError)
  | dismissed
deriving DecidableEq, Repr

namespace Exchange

def kind : Exchange → CallKind
  | .activeTerminal _ => .activeTerminal
  | .terminals _ => .terminals
  | .choose _ _ => .choose
  | .createTerminal _ _ => .createTerminal
  | .showTerminal _ _ => .showTerminal
  | .sendText _ _ _ _ => .sendText

/-- Whether a call that was answered in this way stops its request, and why. -/
def stop? : Exchange → Option Stop
  | .activeTerminal (.error error) => some (.failed (.host error))
  | .terminals (.error error) => some (.failed (.host error))
  | .choose _ (.error cause) => some (.failed (.chooser cause))
  | .choose _ (.ok .cancelled) => some .dismissed
  | .createTerminal _ (.error error) => some (.failed (.host error))
  | .showTerminal _ (.error error) => some (.failed (.host error))
  | .sendText _ _ _ (.error error) => some (.failed (.host error))
  | _ => none

end Exchange

/-- The calls go through a plan up to the first one that stops the request, if one does. -/
inductive Follows : List CallKind → List Exchange → Option Stop → Prop
  | completed : Follows [] [] none
  | stops (call) {plan stop} (stopped : call.stop? = some stop)
    : Follows (call.kind :: plan) [call] (some stop)
  | passes (call) {plan calls ending} (passed : call.stop? = none)
    (rest : Follows plan calls ending)
    : Follows (call.kind :: plan) (call :: calls) ending

namespace Follows

variable {first second : List CallKind} {calls more : List Exchange}

/-- A plan that is done may be continued by another one. -/
theorem append {ending : Option Stop} (done : Follows first calls none)
    (rest : Follows second more ending)
    : Follows (first ++ second) (calls ++ more) ending := by
  -- The ending is a variable for the induction; a stopped plan contradicts it.
  generalize finished : (none : Option Stop) = reached at done
  induction done with
  | completed => exact rest
  | stops _ _ => contradiction
  | passes call passed _ ih => exact .passes call passed (ih finished)

/-- A plan that was stopped might have had any other calls after it. -/
theorem append_plan {stop : Stop} (h : Follows first calls (some stop)) (later : List CallKind)
    : Follows (first ++ later) calls (some stop) := by
  generalize finished : some stop = ending at h
  induction h with
  | completed => contradiction
  | stops call stopped => exact .stops call stopped
  | passes call passed _ ih => exact .passes call passed (ih finished)

/-- Every call is one of the plan, by induction on the calls that are made. -/
theorem kind_mem {ending : Option Stop} (h : Follows first calls ending)
    : ∀ call ∈ calls, call.kind ∈ first := by
  induction h with
  | completed => simp
  | stops call _ => simp
  | passes call _ _ ih =>
      intro other member
      rcases List.mem_cons.mp member with rfl | later
      · exact List.mem_cons_self
      · exact List.mem_cons_of_mem _ (ih other later)

end Follows

namespace Stop

/-- A failure stops what comes after it. -/
def ofFailure {α : Type} : Except SessionError α → Option Stop
  | .error error => some (.failed error)
  | .ok _ => none

/-- A failure stops what comes after it, and so does an answer that gives nothing. -/
def ofAnswer {α : Type} : Except SessionError (Option α) → Option Stop
  | .error error => some (.failed error)
  | .ok none => some .dismissed
  | .ok (some _) => none

def ofDelivery : Except SessionError Delivery → Option Stop
  | .error error => some (.failed error)
  | .ok .cancelled => some .dismissed
  | .ok _ => none

end Stop

namespace Rehearsal

/-- The session to use: the focused terminal if it is a session, else the first session of the
terminals. -/
def session? (policy : SessionPolicy) (rehearsal : Rehearsal) : Option Terminal :=
  (rehearsal.focus.filter policy.recognizes).or (rehearsal.terminals.find? policy.recognizes)

end Rehearsal

/-- The calls to find a session. -/
def findingPlan (policy : SessionPolicy) (r : Rehearsal) : List CallKind :=
  if r.focus.any policy.recognizes then [.activeTerminal] else [.activeTerminal, .terminals]

/-- The calls to obtain a command: the chooser is not asked for a desired one. -/
def obtainingPlan (desired : Option String) : List CallKind :=
  if desired.isSome then [] else [.choose]

/-- The calls to open a session. -/
def openingPlan (desired : Option String) : List CallKind :=
  obtainingPlan desired ++ [.createTerminal, .showTerminal]

/-- The calls to find a session, or to open one if none is found. -/
def resolvingPlan (policy : SessionPolicy) (desired : Option String) (r : Rehearsal)
    : List CallKind :=
  findingPlan policy r ++ if (r.session? policy).isSome then [] else openingPlan desired

/-- The calls to deliver a frame. -/
def deliveringPlan (policy : SessionPolicy) (desired : Option String) (r : Rehearsal)
    : List CallKind :=
  resolvingPlan policy desired r ++ [.sendText]

/-- No text is sent before there is a session, by cases on the parts of the plan. -/
theorem sendText_notMem_resolvingPlan (policy : SessionPolicy) (desired : Option String)
    (r : Rehearsal)
    : .sendText ∉ resolvingPlan policy desired r := by
  have finding : .sendText ∉ findingPlan policy r := by
    unfold findingPlan
    split <;> simp
  have opening : .sendText ∉ openingPlan desired := by
    cases desired <;> simp [openingPlan, obtainingPlan]
  unfold resolvingPlan
  split <;> simp [finding, opening]

namespace SessionSetup

variable {setup : SessionSetup} {desired : Option String} {r after : Rehearsal}
  {notes : Notes Rehearsal}

/-- Looking for a session finds the session to use, and changes no terminal. -/
theorem Finding.session {result : Except HostError (Option Terminal)}
    (h : Finding setup Rehearsal.host r notes result after)
    : r.SameTerminals after
      ∧ ∀ found, result = .ok found → found = r.session? setup.policy := by
  cases h with
  | focusFails asked => exact ⟨(Rehearsal.activeTerminal_answer asked).1, by simp⟩
  | focused asked known =>
      obtain ⟨same, answered⟩ := Rehearsal.activeTerminal_answer asked
      refine ⟨same, ?_⟩
      rintro _ ⟨⟩
      simp [Rehearsal.session?, ← answered _ rfl, Option.filter, known]
  | listFails asked foreign listed =>
      obtain ⟨same, _⟩ := Rehearsal.activeTerminal_answer asked
      exact ⟨same.trans (Rehearsal.terminals_answer listed).1, by simp⟩
  | listed asked foreign listed =>
      obtain ⟨same, focused⟩ := Rehearsal.activeTerminal_answer asked
      obtain ⟨same', all⟩ := Rehearsal.terminals_answer listed
      refine ⟨same.trans same', ?_⟩
      rintro _ ⟨⟩
      simp [Rehearsal.session?, ← focused _ rfl, foreign, all _ rfl, same.terminals]

/-- Looking for a session goes through its plan, by cases on the course; the plan lists the
terminals unless the focus is on a session. -/
theorem Finding.follows {result : Except HostError (Option Terminal)}
    (h : Finding setup Rehearsal.host r notes result after)
    : Follows (findingPlan setup.policy r) (notes.map (·.2))
        (Stop.ofFailure (result.mapError SessionError.host)) := by
  have listPlan {focus : Option Terminal} (answered : focus = r.focus)
      (foreign : focus.filter setup.policy.recognizes = none)
      : findingPlan setup.policy r = [.activeTerminal, .terminals] := by
    subst answered
    cases focused : r.focus <;> simp_all [findingPlan, Option.filter]
  cases h with
  | @focusFails error _ asked =>
      have stops (later) : Follows (.activeTerminal :: later) [.activeTerminal (.error error)]
          (some (.failed (.host error))) :=
        .stops (.activeTerminal (.error error)) rfl
      unfold findingPlan
      split <;> exact stops _
  | @focused terminal _ asked known =>
      have focused := (Rehearsal.activeTerminal_answer asked).2 _ rfl
      simp only [findingPlan, ← focused, Option.any_some, known, if_true]
      exact .passes (.activeTerminal (.ok (some terminal))) rfl .completed
  | @listFails focus _ error _ asked foreign listed =>
      rw [listPlan ((Rehearsal.activeTerminal_answer asked).2 _ rfl) foreign]
      exact .passes (.activeTerminal (.ok focus)) rfl (.stops (.terminals (.error error)) rfl)
  | @listed focus _ terminals _ asked foreign listed =>
      rw [listPlan ((Rehearsal.activeTerminal_answer asked).2 _ rfl) foreign]
      exact .passes (.activeTerminal (.ok focus)) rfl
        (.passes (.terminals (.ok terminals)) rfl .completed)

/-- Creating a session goes through both of its calls, by cases on the course. -/
theorem Creating.follows {σ : Type} {host : TerminalHost (StateM σ)} {command : List String}
    {s s' : σ} {notes : Notes σ} {result : Except HostError Terminal}
    (h : Creating setup host command s notes result s')
    : Follows [.createTerminal, .showTerminal] (notes.map (·.2))
        (Stop.ofFailure (result.mapError SessionError.host)) := by
  cases h with
  | @createFails error _ created => exact .stops (.createTerminal _ (.error error)) rfl
  | @showFails terminal _ error _ created shown =>
      exact .passes (.createTerminal _ (.ok terminal)) rfl
        (.stops (.showTerminal terminal (.error error)) rfl)
  | @created terminal _ _ created shown =>
      exact .passes (.createTerminal _ (.ok terminal)) rfl
        (.passes (.showTerminal terminal (.ok ())) rfl .completed)

/-- Obtaining a command goes through its plan, by cases on the course. -/
theorem Obtaining.follows {σ : Type} {chooser : CommandChooser (StateM σ)} {s s' : σ}
    {notes : Notes σ} {result : Except SessionError (Option (List String))}
    (h : Obtaining setup chooser s desired notes result s')
    : Follows (obtainingPlan desired) (notes.map (·.2)) (Stop.ofAnswer result) := by
  cases h with
  | desired line => exact .completed
  | @fails cause _ asked => exact .stops (.choose _ (.error cause)) rfl
  | cancelled asked => exact .stops (.choose _ (.ok .cancelled)) rfl
  | @accepted line _ asked => exact .passes (.choose _ (.ok (.accepted line))) rfl .completed

/-- Opening a session goes through the plans of its parts, by cases on whether there is a command.
-/
theorem Opening.follows {σ : Type} {host : TerminalHost (StateM σ)}
    {chooser : CommandChooser (StateM σ)} {s s' : σ} {notes : Notes σ}
    {result : Except SessionError (Option Terminal)}
    (h : Opening setup host chooser desired s notes result s')
    : Follows (openingPlan desired) (notes.map (·.2)) (Stop.ofAnswer result) := by
  cases h with
  | fails obtained => exact obtained.follows.append_plan _
  | cancelled obtained => exact obtained.follows.append_plan _
  | @starts _ _ _ _ result _ obtained started =>
      have done := obtained.follows.append started.follows
      rw [List.map_append]
      cases result <;> exact done

/-- A request for a session goes through its plan. -/
theorem Resolving.follows {result : Except SessionError (Option Terminal)}
    (h : Resolving setup Rehearsal.host Rehearsal.chooser desired r notes result after)
    : Follows (resolvingPlan setup.policy desired r) (notes.map (·.2)) (Stop.ofAnswer result) := by
  cases h with
  | fails found => exact found.follows.append_plan _
  | reuses found =>
      have reused := found.session.2 _ rfl
      have followed : Follows (findingPlan setup.policy r) (notes.map (·.2)) none := found.follows
      simpa [resolvingPlan, ← reused, Stop.ofAnswer] using followed
  | opens found opened =>
      -- Nothing was found, so the plan goes on with the calls to open a session.
      have missing := found.session.2 _ rfl
      simp only [resolvingPlan, ← missing, Option.isSome_none, Bool.false_eq_true, if_false,
        List.map_append]
      exact found.follows.append opened.follows

/-- A request for a session pastes nothing, as no such call is in its plan. -/
theorem Resolving.pastes_nothing {result : Except SessionError (Option Terminal)}
    {terminal : Terminal} {text : String} {submit : Bool} {answer : Except HostError Unit}
    (h : Resolving setup Rehearsal.host Rehearsal.chooser desired r notes result after)
    : .sendText terminal text submit answer ∉ notes.map (·.2) := by
  intro member
  exact sendText_notMem_resolvingPlan _ _ _ (h.follows.kind_mem _ member)

/-- The session that a request comes to is the session to use, or one that it started. -/
theorem Resolving.origin {session : Terminal}
    (h
      : Resolving setup Rehearsal.host Rehearsal.chooser desired r notes (.ok (some session))
          after)
    : r.session? setup.policy = some session
      ∨ r.session? setup.policy = none
        ∧ ∃ spec, .createTerminal spec (.ok session) ∈ notes.map (·.2) := by
  generalize reached : Except.ok (some session) = result at h
  cases h with
  | fails found => contradiction
  | reuses found =>
      obtain rfl := Option.some.inj (Except.ok.inj reached)
      exact .inl (found.session.2 _ rfl).symm
  | opens found opened =>
      refine .inr ⟨(found.session.2 _ rfl).symm, ?_⟩
      cases opened with
      | fails obtained => contradiction
      | cancelled obtained => simp at reached
      | @starts _ command _ _ _ _ obtained started =>
          cases started with
          | createFails created => contradiction
          | showFails created shown => contradiction
          | created created shown =>
              obtain rfl := Option.some.inj (Except.ok.inj reached)
              exact ⟨setup.policy.launchSpec command, by simp⟩

/-- The delivery of a frame goes through its plan. -/
theorem Delivering.follows {frame : Frame} {result : Except SessionError Delivery}
    (h : Delivering setup Rehearsal.host Rehearsal.chooser frame desired r notes result after)
    : Follows (deliveringPlan setup.policy desired r) (notes.map (·.2))
        (Stop.ofDelivery result) := by
  cases h with
  | fails resolved => exact resolved.follows.append_plan _
  | cancelled resolved => exact resolved.follows.append_plan _
  | @sends _ session _ answer _ resolved pasted =>
      rw [List.map_append]
      refine resolved.follows.append ?_
      cases answer with
      | error error => exact .stops (.sendText session _ true (.error error)) rfl
      | ok _ => exact .passes (.sendText session _ true (.ok ())) rfl .completed

/-- A frame is pasted only into the session that the request came to. -/
theorem Delivering.target {frame : Frame} {result : Except SessionError Delivery}
    (h : Delivering setup Rehearsal.host Rehearsal.chooser frame desired r notes result after)
    {terminal : Terminal} {text : String} {submit : Bool} {answer : Except HostError Unit}
    (sent : .sendText terminal text submit answer ∈ notes.map (·.2))
    : text = frame.render
      ∧ submit = true
      ∧ (r.session? setup.policy = some terminal
          ∨ r.session? setup.policy = none
            ∧ ∃ spec, .createTerminal spec (.ok terminal) ∈ notes.map (·.2)) := by
  cases h with
  | fails resolved => exact absurd sent resolved.pastes_nothing
  | cancelled resolved => exact absurd sent resolved.pastes_nothing
  | sends resolved pasted =>
      rw [List.map_append] at sent ⊢
      rcases List.mem_append.mp sent with member | last
      · exact absurd member resolved.pastes_nothing
      · simp only [List.map_cons, List.map_nil, List.mem_singleton, Exchange.sendText.injEq] at last
        obtain ⟨rfl, rfl, rfl, rfl⟩ := last
        refine ⟨rfl, rfl, resolved.origin.imp_right (fun started => ⟨started.1, ?_⟩)⟩
        obtain ⟨spec, member⟩ := started.2
        exact ⟨spec, List.mem_append_left _ member⟩

end SessionSetup

end CellRunner

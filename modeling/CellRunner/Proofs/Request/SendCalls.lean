import CellRunner.Proofs.Session.Plan
import CellRunner.Request.Basic

/-!
The calls of a send request with a rehearsed host and chooser. Without a readable file or
without a line to send there are none; otherwise the request goes through its plan, and what it
pastes is the rendered frame, into the session to use or into the one that it started.
-/

namespace CellRunner

/-- Files that stay as they are while a request is carried out. -/
def FileAccess.steady (files : FileAccess Id) {m : Type → Type} [Monad m] : FileAccess m where
  read path := liftExcept (files.read path).run
  kind path := pure (files.kind path).run
  names directory := pure (files.names directory).run
  realPath path := pure (files.realPath path).run

/-- The text of a file, unless it cannot be read or is not UTF-8. -/
def FileAccess.reading (files : FileAccess Id) (path : String) : Except FileError String :=
  match (files.read path).run with
  | .error error => .error error
  | .ok content =>
      match String.fromUTF8? content with
      | some text => .ok text
      | none => .error .notText

namespace Workplace

/-- A workplace for rehearsals. -/
def rehearsed (files : FileAccess Id) (setup : SessionSetup) : Workplace Rehearsal.Run where
  files := files.steady
  setup := setup
  host := Rehearsal.host
  chooser := Rehearsal.chooser

/-- The same workplace with every call to the host and the chooser noted down. -/
def watched (files : FileAccess Id) (setup : SessionSetup) : Workplace (Watched Rehearsal) where
  files := files.steady
  setup := setup
  host := Rehearsal.host.watched
  chooser := Rehearsal.chooser.watched

end Workplace

theorem FileAccess.exec_readText {σ : Type} (files : FileAccess Id) (path : String) (s : σ)
    : exec (files.steady.readText path : ExceptT FileError (StateM σ) String) s
      = (files.reading path, s) := by
  simp only [FileAccess.readText, FileAccess.steady, FileAccess.reading, exec_bind,
    exec_liftExcept]
  cases (files.read path).run with
  | error error => rfl
  | ok content =>
      simp only
      cases String.fromUTF8? content <;> rfl

/-- Loading a document asks nothing of the host or the chooser. -/
theorem Document.load_does {σ : Type} (files : FileAccess Id) (path : String) (s : σ)
    : Does (Document.load files.steady path : ExceptT Failure (StateM σ) Document)
        (Document.load files.steady path) s []
        (((files.reading path).mapError (Failure.reading path)).map (⟨path, ·⟩)) s := by
  have read (τ : Type) (t : τ)
      : exec (Document.load files.steady path : ExceptT Failure (StateM τ) Document) t
        = (((files.reading path).mapError (Failure.reading path)).map (⟨path, ·⟩), t) := by
    simp only [Document.load, exec_bind, exec_adapt, files.exec_readText]
    cases files.reading path <;> rfl
  exact ⟨read σ s, fun earlier => by simpa using read _ (s, earlier)⟩

/-- The course of a request with a frame to send: its calls go through the plan, whose last call
is the only one that pastes, and what stops them is the request's outcome. -/
structure SendCourse (policy : SessionPolicy) (desired : Option String) (frame : Frame)
    (r : Rehearsal) (calls : List Exchange) (result : Except SessionError Delivery)
    : Prop where
  follows : Follows (deliveringPlan policy desired r) calls (Stop.ofDelivery result)
  /-- Only the frame is pasted, and only into the session to use or the one just started. -/
  target
    : ∀ terminal text submit answer,
        .sendText terminal text submit answer ∈ calls
        → text = frame.render
          ∧ submit = true
          ∧ (r.session? policy = some terminal
              ∨ r.session? policy = none
                ∧ ∃ spec, .createTerminal spec (.ok terminal) ∈ calls)
  /-- Success means that the frame was pasted. -/
  sent
    : ∀ delivery,
        result = .ok delivery
        → delivery = .cancelled
          ∨ ∃ terminal,
              delivery = .sent terminal frame
              ∧ .sendText terminal frame.render true (.ok ()) ∈ calls

theorem SessionSetup.Delivering.course {setup : SessionSetup} {desired : Option String}
    {frame : Frame} {r after : Rehearsal} {notes : Notes Rehearsal}
    {result : Except SessionError Delivery}
    (h : Delivering setup Rehearsal.host Rehearsal.chooser frame desired r notes result after)
    : SendCourse setup.policy desired frame r (notes.map (·.2)) result where
  follows := h.follows
  target _ _ _ _ sent := h.target sent
  sent := by
    intro delivery succeeded
    cases h with
    | fails resolved => contradiction
    | cancelled resolved => exact .inl (Except.ok.inj succeeded).symm
    | @sends _ session _ answer _ resolved pasted =>
        cases answer with
        | error error => contradiction
        | ok _ => exact .inr ⟨session, (Except.ok.inj succeeded).symm, by simp⟩

/-- A send request fails without any call if its file cannot be read, does nothing without any
call if there is no line to send, and takes a proper course otherwise. -/
theorem send_calls (files : FileAccess Id) (setup : SessionSetup) (request : SendRequest)
    (r : Rehearsal)
    : ∃ notes outcome after,
        Does ((Workplace.rehearsed files setup).send request)
          ((Workplace.watched files setup).send request) r notes outcome after
        ∧ match files.reading request.path with
          | .error error =>
              notes = [] ∧ after = r ∧ outcome = .error (.reading request.path error)
          | .ok text =>
              let doc : Document := ⟨request.path, text⟩
              match Frame.ofExcerpt? (doc.excerpt request.range request.selection) doc.lineCount
                  request.path with
              | none => notes = [] ∧ after = r ∧ outcome = .ok .empty
              | some frame =>
                  ∃ result,
                    outcome = result.mapError .sending
                    ∧ SendCourse setup.policy request.command frame r (notes.map (·.2)) result := by
  have loaded := Document.load_does files request.path r
  cases read : files.reading request.path with
  | error error =>
      rw [read] at loaded
      exact ⟨_, _, _, loaded.bind_error _ _, rfl, rfl, rfl⟩
  | ok text =>
      rw [read] at loaded
      simp only
      split
      · next planned =>
          have nothing := setup.deliver_empty Rehearsal.host Rehearsal.chooser planned
            request.command r
          exact ⟨_, _, _, loaded.bind (nothing.adapt Failure.sending), rfl, rfl, rfl⟩
      · next frame planned =>
          obtain ⟨notes, result, after, delivered, course⟩ :=
            setup.deliver_does Rehearsal.host Rehearsal.chooser planned request.command r
          exact ⟨_, _, _, loaded.bind (delivered.adapt Failure.sending), result, rfl,
            course.course⟩

end CellRunner

import CellRunner.Proofs.Session.Exchange

/-!
The courses that a request can take with a host and a chooser. For every operation on sessions
there is one relation that lists its courses, with the exchanges of each, and one theorem that
the operation takes one of them. What holds of requests is then read off the courses.
-/

namespace CellRunner.SessionSetup

variable {σ : Type} (setup : SessionSetup) (host : TerminalHost (StateM σ))
  (chooser : CommandChooser (StateM σ))

/-- The courses of looking for a session. -/
inductive Finding (s : σ) : Notes σ → Except HostError (Option Terminal) → σ → Prop
  | focusFails {error after} (asked : exec host.activeTerminal s = (.error error, after))
    : Finding s [(s, .activeTerminal (.error error))] (.error error) after
  | focused {terminal after} (asked : exec host.activeTerminal s = (.ok (some terminal), after))
    (known : setup.policy.recognizes terminal)
    : Finding s [(s, .activeTerminal (.ok (some terminal)))] (.ok (some terminal)) after
  | listFails {focus middle error after} (asked : exec host.activeTerminal s = (.ok focus, middle))
    (foreign : focus.filter setup.policy.recognizes = none)
    (listed : exec host.terminals middle = (.error error, after))
    : Finding s [(s, .activeTerminal (.ok focus)), (middle, .terminals (.error error))]
        (.error error) after
  | listed {focus middle terminals after}
    (asked : exec host.activeTerminal s = (.ok focus, middle))
    (foreign : focus.filter setup.policy.recognizes = none)
    (listed : exec host.terminals middle = (.ok terminals, after))
    : Finding s [(s, .activeTerminal (.ok focus)), (middle, .terminals (.ok terminals))]
        (.ok (terminals.find? setup.policy.recognizes)) after

/-- The courses of obtaining a command. -/
inductive Obtaining (s : σ)
    : Option String → Notes σ → Except SessionError (Option (List String)) → σ → Prop
  | desired (line)
    : Obtaining s (some line) [] (.ok (some (setup.commandWords line))) s
  | fails {cause after} (asked : exec (chooser.choose setup.menu) s = (.error cause, after))
    : Obtaining s none [(s, .choose setup.menu (.error cause))] (.error (.chooser cause)) after
  | cancelled {after} (asked : exec (chooser.choose setup.menu) s = (.ok .cancelled, after))
    : Obtaining s none [(s, .choose setup.menu (.ok .cancelled))] (.ok none) after
  | accepted {line after}
    (asked : exec (chooser.choose setup.menu) s = (.ok (.accepted line), after))
    : Obtaining s none [(s, .choose setup.menu (.ok (.accepted line)))]
        (.ok (some (setup.commandWords line))) after

/-- The courses of starting a session with a command. -/
inductive Creating (command : List String) (s : σ)
    : Notes σ → Except HostError Terminal → σ → Prop
  | createFails {error after}
    (created
      : exec (host.createTerminal (setup.policy.launchSpec command)) s = (.error error, after))
    : Creating command s [(s, .createTerminal (setup.policy.launchSpec command) (.error error))]
        (.error error) after
  | showFails {terminal middle error after}
    (created
      : exec (host.createTerminal (setup.policy.launchSpec command)) s = (.ok terminal, middle))
    (shown : exec (host.showTerminal terminal) middle = (.error error, after))
    : Creating command s
        [ (s, .createTerminal (setup.policy.launchSpec command) (.ok terminal)),
          (middle, .showTerminal terminal (.error error)) ]
        (.error error) after
  | created {terminal middle after}
    (created
      : exec (host.createTerminal (setup.policy.launchSpec command)) s = (.ok terminal, middle))
    (shown : exec (host.showTerminal terminal) middle = (.ok (), after))
    : Creating command s
        [ (s, .createTerminal (setup.policy.launchSpec command) (.ok terminal)),
          (middle, .showTerminal terminal (.ok ())) ]
        (.ok terminal) after

/-- The courses of opening a session. -/
inductive Opening (desired : Option String) (s : σ)
    : Notes σ → Except SessionError (Option Terminal) → σ → Prop
  | fails {notes error after}
    (obtained : Obtaining setup chooser s desired notes (.error error) after)
    : Opening desired s notes (.error error) after
  | cancelled {notes after}
    (obtained : Obtaining setup chooser s desired notes (.ok none) after)
    : Opening desired s notes (.ok none) after
  | starts {notes command middle later result after}
    (obtained : Obtaining setup chooser s desired notes (.ok (some command)) middle)
    (started : Creating setup host command middle later result after)
    : Opening desired s (notes ++ later) ((result.mapError .host).map some) after

/-- The courses of reusing or opening a session. -/
inductive Resolving (desired : Option String) (s : σ)
    : Notes σ → Except SessionError (Option Terminal) → σ → Prop
  | fails {notes error after} (found : Finding setup host s notes (.error error) after)
    : Resolving desired s notes (.error (.host error)) after
  | reuses {notes session after} (found : Finding setup host s notes (.ok (some session)) after)
    : Resolving desired s notes (.ok (some session)) after
  | opens {notes middle later result after} (found : Finding setup host s notes (.ok none) middle)
    (opened : Opening setup host chooser desired middle later result after)
    : Resolving desired s (notes ++ later) result after

/-- The courses of delivering a frame. -/
inductive Delivering (frame : Frame) (desired : Option String) (s : σ)
    : Notes σ → Except SessionError Delivery → σ → Prop
  | fails {notes error after}
    (resolved : Resolving setup host chooser desired s notes (.error error) after)
    : Delivering frame desired s notes (.error error) after
  | cancelled {notes after}
    (resolved : Resolving setup host chooser desired s notes (.ok none) after)
    : Delivering frame desired s notes (.ok .cancelled) after
  | sends {notes session middle answer after}
    (resolved : Resolving setup host chooser desired s notes (.ok (some session)) middle)
    (pasted : exec (host.sendText session frame.render true) middle = (answer, after))
    : Delivering frame desired s (notes ++ [(middle, .sendText session frame.render true answer)])
        ((answer.mapError .host).map (fun _ => .sent session frame)) after

-----------------------------------------------------------------------------------------
-- Every run takes one of the courses
-----------------------------------------------------------------------------------------

/-- Looking for a session takes one of its courses, by cases on the answers to its calls. -/
theorem findSession_does (s : σ)
    : ∃ notes result after,
        Does (setup.findSession host) (setup.findSession host.watched) s notes result after
        ∧ Finding setup host s notes result after := by
  have focus (answer after) (asked : exec host.activeTerminal s = (answer, after)) :=
    Does.call .activeTerminal asked
  rcases asked : exec host.activeTerminal s with ⟨error | focused, middle⟩
  · exact ⟨_, _, _, (focus _ _ asked).bind_error _ _, .focusFails asked⟩
  · have first := focus _ _ asked
    cases known : focused.filter setup.policy.recognizes with
    | some terminal =>
        obtain ⟨rfl, recognized⟩ := Option.filter_eq_some_iff.mp known
        refine ⟨_, _, _, first.bind ?_, .focused asked recognized⟩
        simp only [known]
        exact .pure _ _
    | none =>
        rcases listed : exec host.terminals middle with ⟨error | terminals, after⟩
        · refine ⟨_, _, _, first.bind ?_, .listFails asked known listed⟩
          simp only [known]
          exact (Does.call .terminals listed).bind_error _ _
        · refine ⟨_, _, _, first.bind ?_, .listed asked known listed⟩
          simp only [known]
          exact (Does.call .terminals listed).bind_pure rfl rfl

/-- Creating a session takes one of its courses, by cases on the answers to its calls. -/
theorem createSession_does (command : List String) (s : σ)
    : ∃ notes result after,
        Does (setup.createSession host command) (setup.createSession host.watched command) s notes
          result after
        ∧ Creating setup host command s notes result after := by
  rcases created : exec (host.createTerminal (setup.policy.launchSpec command)) s with
    ⟨error | terminal, middle⟩
  · exact ⟨_, _, _, (Does.call (.createTerminal _) created).bind_error _ _, .createFails created⟩
  · have first := Does.call (.createTerminal (setup.policy.launchSpec command)) created
    rcases shown : exec (host.showTerminal terminal) middle with ⟨error | _, after⟩
    · exact ⟨_, _, _, first.bind ((Does.call (.showTerminal terminal) shown).bind_error _ _),
        .showFails created shown⟩
    · exact ⟨_, _, _, first.bind ((Does.call (.showTerminal terminal) shown).bind_pure rfl rfl),
        .created created shown⟩

/-- Obtaining a command takes one of its courses, by cases on where the command comes from. -/
theorem obtainCommand_does (desired : Option String) (s : σ)
    : ∃ notes result after,
        Does (setup.obtainCommand chooser desired) (setup.obtainCommand chooser.watched desired) s
          notes result after
        ∧ Obtaining setup chooser s desired notes result after := by
  cases desired with
  | some line => exact ⟨_, _, _, .pure _ _, .desired line⟩
  | none =>
      have call (answer after) (asked : exec (chooser.choose setup.menu) s = (answer, after)) :=
        (Does.call (.choose setup.menu) asked).adapt SessionError.chooser
      rcases asked : exec (chooser.choose setup.menu) s with ⟨cause | choice, after⟩
      · exact ⟨_, _, _, (call _ _ asked).bind_error _ _, .fails asked⟩
      · cases choice with
        | accepted line => exact ⟨_, _, _, (call _ _ asked).bind_pure rfl rfl, .accepted asked⟩
        | cancelled => exact ⟨_, _, _, (call _ _ asked).bind_pure rfl rfl, .cancelled asked⟩

/-- Opening a session takes one of its courses, by those of its parts. -/
theorem openSession_does (desired : Option String) (s : σ)
    : ∃ notes result after,
        Does (setup.openSession host chooser desired)
          (setup.openSession host.watched chooser.watched desired) s notes result after
        ∧ Opening setup host chooser desired s notes result after := by
  obtain ⟨notes, result, middle, first, obtained⟩ := setup.obtainCommand_does chooser desired s
  rcases result with error | _ | command
  · exact ⟨_, _, _, first.bind_error _ _, .fails obtained⟩
  · exact ⟨_, _, _, first.bind_pure rfl rfl, .cancelled obtained⟩
  · obtain ⟨later, result, after, second, started⟩ := setup.createSession_does host command middle
    refine ⟨_, _, _, first.bind ?_, .starts obtained started⟩
    cases result with
    | error error => exact (second.adapt SessionError.host).bind_error _ _
    | ok terminal => exact (second.adapt SessionError.host).bind_pure rfl rfl

/-- Reusing or opening a session takes one of its courses, by those of its parts. -/
theorem resolveSession_does (desired : Option String) (s : σ)
    : ∃ notes result after,
        Does (setup.resolveSession host chooser desired)
          (setup.resolveSession host.watched chooser.watched desired) s notes result after
        ∧ Resolving setup host chooser desired s notes result after := by
  obtain ⟨notes, result, middle, first, found⟩ := setup.findSession_does host s
  have lifted := first.adapt SessionError.host
  rcases result with error | _ | session
  · exact ⟨_, _, _, lifted.bind_error _ _, .fails found⟩
  · obtain ⟨later, result, after, second, opened⟩ :=
      setup.openSession_does host chooser desired middle
    exact ⟨_, _, _, lifted.bind second, .opens found opened⟩
  · exact ⟨_, _, _, lifted.bind_pure rfl rfl, .reuses found⟩

/-- A frame is delivered by one of the courses. -/
theorem deliver_does {frame : Frame} {excerpt : Excerpt} {totalLines : Nat} {sourceName : String}
    (planned : Frame.ofExcerpt? excerpt totalLines sourceName = some frame)
    (desired : Option String) (s : σ)
    : ∃ notes result after,
        Does (setup.deliver host chooser sourceName totalLines excerpt desired)
          (setup.deliver host.watched chooser.watched sourceName totalLines excerpt desired) s notes
          result after
        ∧ Delivering setup host chooser frame desired s notes result after := by
  -- `delta` rather than the equation of `deliver`, whose proof computes the frame.
  delta deliver
  simp only [planned]
  obtain ⟨notes, result, middle, first, resolved⟩ :=
    setup.resolveSession_does host chooser desired s
  rcases result with error | _ | session
  · exact ⟨_, _, _, first.bind_error _ _, .fails resolved⟩
  · exact ⟨_, _, _, first.bind_pure rfl rfl, .cancelled resolved⟩
  · rcases pasted : exec (host.sendText session frame.render true) middle with ⟨answer, after⟩
    have second :=
      (Does.call (.sendText session frame.render true) pasted).adapt SessionError.host
    refine ⟨_, _, _, first.bind ?_, .sends resolved pasted⟩
    cases answer with
    | error error => exact second.bind_error _ _
    | ok _ => exact second.bind_pure rfl rfl

/-- Without a frame nothing is asked of the host or the chooser. -/
theorem deliver_empty {excerpt : Excerpt} {totalLines : Nat} {sourceName : String}
    (planned : Frame.ofExcerpt? excerpt totalLines sourceName = none)
    (desired : Option String) (s : σ)
    : Does (setup.deliver host chooser sourceName totalLines excerpt desired)
        (setup.deliver host.watched chooser.watched sourceName totalLines excerpt desired) s []
        (.ok .empty) s := by
  delta deliver
  simp only [planned]
  exact .pure _ _

end CellRunner.SessionSetup

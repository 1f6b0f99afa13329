import CellRunner.Session.Setup

/-!
Watching a host and a chooser. Every call is passed on and noted down, together with its answer
and the state in which it was made; the watched program is the same program, so its notes are the
calls that it makes.
-/

namespace CellRunner

/-- What a program that may fail gives from a state, and the state that it leaves. -/
def exec {ε α σ : Type} (program : ExceptT ε (StateM σ) α) (state : σ) : Except ε α × σ :=
  program.run.run state

section exec

variable {ε ε' α β σ : Type}

@[simp]
theorem exec_pure (a : α) (s : σ) : exec (pure a : ExceptT ε (StateM σ) α) s = (.ok a, s) :=
  rfl

@[simp]
theorem exec_get (s : σ) : exec (get : ExceptT ε (StateM σ) σ) s = (.ok s, s) :=
  rfl

@[simp]
theorem exec_set (next s : σ) : exec (set next : ExceptT ε (StateM σ) PUnit) s = (.ok (), next) :=
  rfl

@[simp]
theorem exec_modify (change : σ → σ) (s : σ)
    : exec (modify change : ExceptT ε (StateM σ) PUnit) s = (.ok (), change s) :=
  rfl

@[simp]
theorem exec_liftExcept (result : Except ε α) (s : σ)
    : exec (liftExcept result : ExceptT ε (StateM σ) α) s = (result, s) := by
  cases result <;> rfl

@[simp]
theorem exec_throw (error : ε) (s : σ)
    : exec (throw error : ExceptT ε (StateM σ) α) s = (.error error, s) :=
  rfl

@[simp]
theorem exec_liftM (result : Except ε α) (s : σ)
    : exec (liftM result : ExceptT ε (StateM σ) α) s = (result, s) := by
  cases result <;> rfl

/-- A program goes on from the state that its first part leaves, unless this fails, by cases on what
the first part gives. -/
theorem exec_bind (program : ExceptT ε (StateM σ) α) (next : α → ExceptT ε (StateM σ) β) (s : σ)
    : exec (program >>= next) s
      = match exec program s with
        | (.ok a, after) => exec (next a) after
        | (.error error, after) => (.error error, after) := by
  simp only [exec, ExceptT.run_bind, StateT.run_bind]
  rcases program.run.run s with ⟨error | a, after⟩ <;> rfl

/-- A program goes on behind a part that gives a value, by the rule for both parts. -/
theorem exec_bind_of_ok {program : ExceptT ε (StateM σ) α} {s after : σ} {a : α}
    (next : α → ExceptT ε (StateM σ) β) (h : exec program s = (.ok a, after))
    : exec (program >>= next) s = exec (next a) after := by
  rw [exec_bind, h]

/-- A program stops at a part that fails, by the rule for both parts. -/
theorem exec_bind_of_error {program : ExceptT ε (StateM σ) α} {s after : σ} {error : ε}
    (next : α → ExceptT ε (StateM σ) β) (h : exec program s = (.error error, after))
    : exec (program >>= next) s = (.error error, after) := by
  rw [exec_bind, h]

/-- Changing what a program gives changes neither its errors nor its states. -/
theorem exec_map (change : α → β) (program : ExceptT ε (StateM σ) α) (s : σ)
    : exec (change <$> program) s = ((exec program s).1.map change, (exec program s).2) := by
  simp only [exec, ExceptT.run_map, StateT.run_map]
  rfl

/-- A program whose failure is handed on as a value. -/
theorem exec_lift_run (program : ExceptT ε (StateM σ) α) (s : σ)
    : exec (ExceptT.lift program.run : ExceptT ε' (StateM σ) (Except ε α)) s
      = (.ok (exec program s).1, (exec program s).2) :=
  rfl

/-- A handler is run from the state in which the program has failed, by cases on what the program
gives. -/
theorem exec_tryCatch (program : ExceptT ε (StateM σ) α) (handler : ε → ExceptT ε (StateM σ) α)
    (s : σ)
    : exec (tryCatch program handler) s
      = match exec program s with
        | (.ok a, after) => (.ok a, after)
        | (.error error, after) => exec (handler error) after := by
  have caught : (tryCatch program handler).run
      = program.run >>= fun result =>
          match result with
          | .ok a => pure (.ok a)
          | .error error => (handler error).run :=
    rfl
  simp only [exec, caught, StateT.run_bind]
  rcases program.run.run s with ⟨error | a, after⟩ <;> rfl

/-- Changing the errors of a program changes nothing else. -/
theorem exec_adapt (change : ε → ε') (program : ExceptT ε (StateM σ) α) (s : σ)
    : exec (program.adapt change) s = ((exec program s).1.mapError change, (exec program s).2) :=
  rfl

end exec

/-- A call of the host or the chooser, with the answer to it. -/
inductive Exchange where
  | activeTerminal (answer : Except HostError (Option Terminal))
  | terminals (answer : Except HostError (List Terminal))
  | choose (menu : CommandMenu) (answer : Except String Choice)
  | createTerminal (spec : LaunchSpec) (answer : Except HostError Terminal)
  | showTerminal (terminal : Terminal) (answer : Except HostError Unit)
  | sendText (terminal : Terminal) (text : String) (submit : Bool) (answer : Except HostError Unit)

/-- Exchanges in their order, each with the state in which the call was made. -/
abbrev Notes (σ : Type) := List (σ × Exchange)

abbrev Watched (σ : Type) := StateM (σ × Notes σ)

/-- Passes a call on and notes it down. -/
def watch {ε α σ : Type} (note : Except ε α → Exchange) (call : ExceptT ε (StateM σ) α)
    : ExceptT ε (Watched σ) α :=
  ExceptT.mk fun watched =>
    let (answer, after) := exec call watched.1
    (answer, (after, watched.2 ++ [(watched.1, note answer)]))

/-- A watched call is answered as the call is, and its note comes behind the others. -/
theorem exec_watch {ε α σ : Type} (note : Except ε α → Exchange)
    (call : ExceptT ε (StateM σ) α) (s : σ) (notes : Notes σ)
    : exec (watch note call) (s, notes)
      = ((exec call s).1, ((exec call s).2, notes ++ [(s, note (exec call s).1)])) :=
  rfl

def TerminalHost.watched {σ : Type} (host : TerminalHost (StateM σ))
    : TerminalHost (Watched σ) where
  terminals := watch .terminals host.terminals
  activeTerminal := watch .activeTerminal host.activeTerminal
  createTerminal spec := watch (.createTerminal spec) (host.createTerminal spec)
  showTerminal terminal := watch (.showTerminal terminal) (host.showTerminal terminal)
  sendText terminal text submit :=
    watch (.sendText terminal text submit) (host.sendText terminal text submit)

def CommandChooser.watched {σ : Type} (chooser : CommandChooser (StateM σ))
    : CommandChooser (Watched σ) where
  choose menu := watch (.choose menu) (chooser.choose menu)

-----------------------------------------------------------------------------------------
-- A program beside its watched twin
-----------------------------------------------------------------------------------------

/-- From a state, a program and its watched twin give the same result and leave the same state,
and the twin adds `notes` to whatever was noted before. -/
structure Does {ε α σ : Type} (plain : ExceptT ε (StateM σ) α)
    (watched : ExceptT ε (Watched σ) α) (s : σ) (notes : Notes σ) (result : Except ε α)
    (after : σ)
    : Prop where
  plain : exec plain s = (result, after)
  watched : ∀ earlier, exec watched (s, earlier) = (result, (after, earlier ++ notes))

namespace Does

variable {ε ε' α β σ : Type} {plain : ExceptT ε (StateM σ) α} {twin : ExceptT ε (Watched σ) α}
  {s middle after : σ} {notes later : Notes σ}

/-- A value is given without a call. -/
theorem pure (a : α) (s : σ)
    : Does (Pure.pure a : ExceptT ε (StateM σ) α) (Pure.pure a) s [] (.ok a) s :=
  ⟨rfl, fun earlier => by simp⟩

/-- One call is one note, with the answer and the state in which it was made. -/
theorem call {request : ExceptT ε (StateM σ) α} {answer : Except ε α}
    (note : Except ε α → Exchange) (h : exec request s = (answer, after))
    : Does request (watch note request) s [(s, note answer)] answer after :=
  ⟨h, fun earlier => by rw [exec_watch, h]⟩

/-- The notes of two parts follow each other, by the rules for running both twins. -/
theorem bind {a : α} {result : Except ε β} {next : α → ExceptT ε (StateM σ) β}
    {nextTwin : α → ExceptT ε (Watched σ) β} (first : Does plain twin s notes (.ok a) middle)
    (rest : Does (next a) (nextTwin a) middle later result after)
    : Does (plain >>= next) (twin >>= nextTwin) s (notes ++ later) result after where
  plain := by rw [exec_bind_of_ok next first.plain, rest.plain]
  watched earlier := by
    rw [exec_bind_of_ok nextTwin (first.watched earlier), rest.watched, List.append_assoc]

/-- A part behind which a value is given makes all of the calls. -/
theorem bind_pure {a : α} {b : β} {next : α → ExceptT ε (StateM σ) β}
    {nextTwin : α → ExceptT ε (Watched σ) β} (first : Does plain twin s notes (.ok a) after)
    (gives : next a = Pure.pure b) (twinGives : nextTwin a = Pure.pure b)
    : Does (plain >>= next) (twin >>= nextTwin) s notes (.ok b) after where
  plain := by rw [exec_bind_of_ok next first.plain, gives, exec_pure]
  watched earlier := by rw [exec_bind_of_ok nextTwin (first.watched earlier), twinGives, exec_pure]

/-- A part that fails makes all of the calls, whatever would come next. -/
theorem bind_error {error : ε} (next : α → ExceptT ε (StateM σ) β)
    (nextTwin : α → ExceptT ε (Watched σ) β) (first : Does plain twin s notes (.error error) after)
    : Does (plain >>= next) (twin >>= nextTwin) s notes (.error error) after where
  plain := exec_bind_of_error next first.plain
  watched earlier := exec_bind_of_error nextTwin (first.watched earlier)

/-- What a program gives can be changed without a call, by cases on whether it fails. -/
theorem map {result : Except ε α} (change : α → β) (h : Does plain twin s notes result after)
    : Does (plain >>= fun a => Pure.pure (change a)) (twin >>= fun a => Pure.pure (change a)) s
        notes (result.map change) after := by
  cases result with
  | error error => exact h.bind_error _ _
  | ok a => exact h.bind_pure rfl rfl

/-- The errors of a program can be changed without a call. -/
theorem adapt {result : Except ε α} (change : ε → ε') (h : Does plain twin s notes result after)
    : Does (plain.adapt change) (twin.adapt change) s notes (result.mapError change) after where
  plain := by rw [exec_adapt, h.plain]
  watched earlier := by rw [exec_adapt, h.watched]

end Does

end CellRunner

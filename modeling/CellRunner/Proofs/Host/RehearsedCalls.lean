import CellRunner.Host.Rehearsal
import CellRunner.Proofs.Session.Exchange

/-!
What the calls of a rehearsed host and chooser answer, and what they change. Only starting a
terminal changes the terminals; a failure that was prepared for a call changes nothing else.
-/

namespace CellRunner.Rehearsal

/-- The terminal that has the focus, if the focus is on one. -/
def focus (rehearsal : Rehearsal) : Option Terminal :=
  rehearsal.active.bind (rehearsal.terminals[·]?)

/-- The same terminals with the same focus. -/
structure SameTerminals (before after : Rehearsal) : Prop where
  terminals : after.terminals = before.terminals
  active : after.active = before.active

namespace SameTerminals

variable {first second third : Rehearsal}

/-- Nothing has changed without a call. -/
theorem refl (rehearsal : Rehearsal) : SameTerminals rehearsal rehearsal :=
  ⟨rfl, rfl⟩

/-- Recording a call changes no terminal. -/
theorem record (call : Call) (rehearsal : Rehearsal)
    : SameTerminals rehearsal (rehearsal.record call) :=
  ⟨rfl, rfl⟩

/-- Terminals that two calls leave alone are left alone by both. -/
theorem trans (h : SameTerminals first second) (h' : SameTerminals second third)
    : SameTerminals first third :=
  ⟨h'.terminals.trans h.terminals, h'.active.trans h.active⟩

end SameTerminals

/-- A focused terminal is one of the terminals. -/
theorem mem_of_focus {rehearsal : Rehearsal} {terminal : Terminal}
    (h : rehearsal.focus = some terminal)
    : terminal ∈ rehearsal.terminals := by
  obtain ⟨index, _, found⟩ := Option.bind_eq_some_iff.mp h
  exact List.mem_of_getElem? found

/-- A pending failure is handed on without a change of the terminals, by cases on whether there is
one. -/
theorem failIfPending_cases (operation : HostOperation) (r : Rehearsal)
    : exec (failIfPending operation) r = (.ok (), r)
      ∨ ∃ error after,
          exec (failIfPending operation) r = (.error error, after) ∧ SameTerminals r after := by
  simp only [failIfPending, exec_bind, exec_get]
  cases r.failures.find? (·.1 = operation) with
  | none => exact .inl rfl
  | some failure => exact .inr ⟨_, _, rfl, rfl, rfl⟩

/-- A call that reads a part of the rehearsal answers it and leaves the terminals as they are. -/
theorem query_answer {α : Type} {operation : HostOperation} {read : Rehearsal → α}
    {r after : Rehearsal} {answer : Except HostError α}
    (h
      : exec
          (do
            failIfPending operation
            return read (← get))
          r
        = (answer, after))
    : SameTerminals r after ∧ ∀ a, answer = .ok a → a = read r := by
  simp only [exec_bind] at h
  rcases failIfPending_cases operation r with passed | ⟨error, spent, failed, same⟩
  · simp only [passed, exec_get, exec_pure, Prod.mk.injEq] at h
    obtain ⟨rfl, rfl⟩ := h
    exact ⟨.refl r, fun a equal => (Except.ok.inj equal).symm⟩
  · simp only [failed, Prod.mk.injEq] at h
    obtain ⟨rfl, rfl⟩ := h
    exact ⟨same, fun a equal => by contradiction⟩

/-- The question for the focus is answered with it, by the rule for queries. -/
theorem activeTerminal_answer {r after : Rehearsal}
    {answer : Except HostError (Option Terminal)}
    (h : exec host.activeTerminal r = (answer, after))
    : SameTerminals r after ∧ ∀ focused, answer = .ok focused → focused = r.focus :=
  query_answer h

/-- The question for the terminals is answered with them, by the rule for queries. -/
theorem terminals_answer {r after : Rehearsal} {answer : Except HostError (List Terminal)}
    (h : exec host.terminals r = (answer, after))
    : SameTerminals r after ∧ ∀ listed, answer = .ok listed → listed = r.terminals :=
  query_answer h

/-- A call that is only recorded leaves the terminals as they are. -/
theorem recorded_same {call : Call} {operation : HostOperation} {r after : Rehearsal}
    {answer : Except HostError Unit}
    (h
      : exec
          (do
            modify (record call)
            failIfPending operation)
          r
        = (answer, after))
    : SameTerminals r after := by
  simp only [exec_bind, exec_modify] at h
  rcases failIfPending_cases operation (record call r) with passed | ⟨error, spent, failed, same⟩
  · rw [passed] at h
    obtain ⟨_, rfl⟩ := Prod.mk.inj h
    exact .record call r
  · rw [failed] at h
    obtain ⟨_, rfl⟩ := Prod.mk.inj h
    exact (SameTerminals.record call r).trans same

/-- Showing a terminal changes none, as nothing but the call is recorded. -/
theorem showTerminal_same {r after : Rehearsal} {terminal : Terminal}
    {answer : Except HostError Unit} (h : exec (host.showTerminal terminal) r = (answer, after))
    : SameTerminals r after :=
  recorded_same h

/-- Sending a text changes no terminal, as nothing but the call is recorded. -/
theorem sendText_same {r after : Rehearsal} {terminal : Terminal} {text : String}
    {submit : Bool} {answer : Except HostError Unit}
    (h : exec (host.sendText terminal text submit) r = (answer, after))
    : SameTerminals r after :=
  recorded_same h

/-- A creation that fails creates nothing, by cases on the pending failure. -/
theorem createTerminal_error {r after : Rehearsal} {spec : LaunchSpec} {error : HostError}
    (h : exec (host.createTerminal spec) r = (.error error, after))
    : SameTerminals r after := by
  simp only [host, exec_bind, exec_modify] at h
  rcases failIfPending_cases .createTerminal (record (.create spec) r) with
    passed | ⟨error, spent, failed, same⟩
  · simp [passed] at h
  · simp only [failed, Prod.mk.injEq] at h
    obtain ⟨_, rfl⟩ := h
    exact (SameTerminals.record _ r).trans same

/-- A started terminal is live, has the name that was asked for and comes last. -/
theorem createTerminal_ok {r after : Rehearsal} {spec : LaunchSpec} {terminal : Terminal}
    (h : exec (host.createTerminal spec) r = (.ok terminal, after))
    : after.terminals = r.terminals ++ [terminal]
      ∧ terminal.name = spec.name
      ∧ terminal.isAlive := by
  simp only [host, exec_bind, exec_modify] at h
  rcases failIfPending_cases .createTerminal (record (.create spec) r) with
    passed | ⟨error, spent, failed, same⟩
  · simp only [passed, exec_get, exec_pure, Prod.mk.injEq, Except.ok.injEq] at h
    obtain ⟨rfl, rfl⟩ := h
    exact ⟨rfl, rfl, rfl⟩
  · simp [failed] at h

/-- Choosing changes no terminal, by cases on the answers that are left. -/
theorem choose_same {r after : Rehearsal} {menu : CommandMenu} {answer : Except String Choice}
    (h : exec (chooser.choose menu) r = (answer, after))
    : SameTerminals r after := by
  simp only [chooser, exec_bind, exec_modify, exec_get, exec_set, exec_liftExcept] at h
  obtain ⟨_, rfl⟩ := Prod.mk.inj h
  exact ⟨rfl, rfl⟩

end CellRunner.Rehearsal

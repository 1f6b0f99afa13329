import CellRunner.Proofs.Session.Plan

/-!
The sessions that a request starts. A started terminal has a name that is recognized, so it is a
session at once; a request starts at most one, and only where there is none.
-/

namespace CellRunner

/-- A terminal that was started with a policy's name is a session of the policy. -/
theorem SessionPolicy.recognizes_launched {policy : SessionPolicy} {command : List String}
    {terminal : Terminal} (named : terminal.name = (policy.launchSpec command).name)
    (alive : terminal.isAlive)
    : policy.recognizes terminal := by
  have marked : policy.mark.toList <+: terminal.name.toList := by
    rw [named, launchSpec, String.toList_append]
    exact List.prefix_append _ _
  simp [recognizes, alive, List.isPrefixOf_iff_prefix, marked]

namespace Rehearsal

variable {policy : SessionPolicy} {r after : Rehearsal}

/-- The terminals that are sessions. -/
def sessions (policy : SessionPolicy) (rehearsal : Rehearsal) : List Terminal :=
  rehearsal.terminals.filter policy.recognizes

/-- How many sessions may still be started if nothing ends the present ones. -/
def room (policy : SessionPolicy) (rehearsal : Rehearsal) : Nat :=
  if rehearsal.sessions policy = [] then 1 else 0

/-- There is room for one session at most, by cases on whether there is one. -/
theorem room_le (rehearsal : Rehearsal) : rehearsal.room policy ≤ 1 := by
  unfold room
  split <;> decide

/-- The sessions are told by the terminals alone. -/
theorem SameTerminals.sessions (same : SameTerminals r after)
    : after.sessions policy = r.sessions policy := by
  rw [Rehearsal.sessions, same.terminals, Rehearsal.sessions]

/-- If no session is to be used, there is none, by the search for one. -/
theorem sessions_eq_nil (missing : r.session? policy = none) : r.sessions policy = [] := by
  rw [session?, Option.or_eq_none_iff] at missing
  exact List.filter_eq_nil_iff.mpr (List.find?_eq_none.mp missing.2)

/-- The session to use is one of the sessions, by cases on whether it has the focus. -/
theorem mem_sessions {session : Terminal} (found : r.session? policy = some session)
    : session ∈ r.sessions policy := by
  rw [session?, Option.or_eq_some_iff] at found
  refine List.mem_filter.mpr ?_
  rcases found with focused | ⟨_, listed⟩
  · obtain ⟨focused, recognized⟩ := Option.filter_eq_some_iff.mp focused
    exact ⟨mem_of_focus focused, recognized⟩
  · exact ⟨List.mem_of_find?_eq_some listed, List.find?_some listed⟩

/-- The only session is the one to use, whether it has the focus or not. -/
theorem session?_of_sole {session : Terminal} (sole : r.sessions policy = [session])
    : r.session? policy = some session := by
  cases found : r.session? policy with
  | none => simp [sessions_eq_nil found] at sole
  | some other =>
      have member := mem_sessions found
      rw [sole, List.mem_singleton] at member
      rw [member]

end Rehearsal

/-- The terminal that a call started. -/
def Exchange.started? : Exchange → Option Terminal
  | .createTerminal _ (.ok terminal) => some terminal
  | _ => none

/-- The terminals that were started, in order. -/
def started {σ : Type} (notes : Notes σ) : List Terminal :=
  notes.filterMap (·.2.started?)

/-- No call to start a terminal was made. -/
def Quiet {σ : Type} (notes : Notes σ) : Prop :=
  ∀ note ∈ notes, note.2.kind ≠ .createTerminal

namespace Quiet

variable {σ : Type} {notes : Notes σ}

/-- Quiet calls start no session, as none of them creates a terminal. -/
theorem started_eq_nil (quiet : Quiet notes) : started notes = [] := by
  refine List.filterMap_eq_nil_iff.mpr ?_
  rintro ⟨s, call⟩ member
  cases call with
  | createTerminal spec answer => exact absurd rfl (quiet _ member)
  | _ => rfl

end Quiet

/-- What a request does to the sessions. It asks for a terminal only while the terminals are
those that it met and none of them is a session, and it adds at most one session. -/
structure Starting (policy : SessionPolicy) (r : Rehearsal) (notes : Notes Rehearsal)
    (after : Rehearsal)
    : Prop where
  missing
    : ∀ s spec answer,
        (s, .createTerminal spec answer) ∈ notes
        → s.terminals = r.terminals ∧ r.sessions policy = []
  single : (started notes).length ≤ 1
  sessions : after.sessions policy = r.sessions policy ++ started notes

namespace Starting

variable {policy : SessionPolicy} {r middle after : Rehearsal} {notes more : Notes Rehearsal}

/-- Calls that are quiet and change no terminal keep the count of sessions. -/
theorem of_quiet (quiet : Quiet notes) (same : r.SameTerminals after)
    : Starting policy r notes after where
  missing s spec answer member := absurd rfl (quiet _ member)
  single := by simp [quiet.started_eq_nil]
  sessions := by simp [quiet.started_eq_nil, same.sessions]

/-- The count of sessions is kept by quiet calls in front, by adding up the sessions started. -/
theorem quiet_append (quiet : Quiet notes) (same : r.SameTerminals middle)
    (rest : Starting policy middle more after)
    : Starting policy r (notes ++ more) after where
  missing s spec answer member := by
    rcases List.mem_append.mp member with earlier | later
    · exact absurd rfl (quiet _ earlier)
    · obtain ⟨terminals, missing⟩ := rest.missing s spec answer later
      exact ⟨terminals.trans same.terminals, same.sessions.symm.trans missing⟩
  single := by
    have single := rest.single
    rwa [started, List.filterMap_append, ← started, quiet.started_eq_nil, List.nil_append]
  sessions := by
    have sessions := rest.sessions
    rwa [started, List.filterMap_append, ← started, quiet.started_eq_nil, List.nil_append,
      ← same.sessions]

/-- The count of sessions is kept by quiet calls behind, by adding up the sessions started. -/
theorem append_quiet (first : Starting policy r notes middle) (quiet : Quiet more)
    (same : middle.SameTerminals after)
    : Starting policy r (notes ++ more) after := by
  have nothing : started (notes ++ more) = started notes := by
    rw [started, List.filterMap_append, ← started, ← started, quiet.started_eq_nil,
      List.append_nil]
  refine ⟨?_, nothing ▸ first.single, ?_⟩
  · intro s spec answer member
    rcases List.mem_append.mp member with earlier | later
    · exact first.missing s spec answer earlier
    · exact absurd rfl (quiet _ later)
  · rw [nothing, same.sessions, first.sessions]

/-- A request that met a session asks for no terminal. -/
theorem quiet (starting : Starting policy r notes after) (present : r.sessions policy ≠ [])
    : Quiet notes := by
  rintro ⟨s, call⟩ member
  cases call with
  | createTerminal spec answer => exact absurd (starting.missing s spec answer member).2 present
  | _ => nofun

/-- A session that was started is then the only one. -/
theorem sole {session : Terminal} (starting : Starting policy r notes after)
    (fresh : session ∈ started notes)
    : after.sessions policy = [session] := by
  have missing : r.sessions policy = [] := by
    refine Decidable.byContradiction fun present => ?_
    simp [(starting.quiet present).started_eq_nil] at fresh
  obtain ⟨only, equal⟩ :=
    List.length_eq_one_iff.mp (Nat.le_antisymm starting.single (List.length_pos_of_mem fresh))
  rw [equal, List.mem_singleton] at fresh
  rw [starting.sessions, missing, equal, fresh, List.nil_append]

/-- What is started takes up the room for it. -/
theorem room (starting : Starting policy r notes after)
    : (started notes).length + after.room policy ≤ r.room policy := by
  by_cases missing : r.sessions policy = []
  · have single := starting.single
    simp only [Rehearsal.room, starting.sessions, missing, List.nil_append, if_true]
    split
    · next nothing => simp [nothing]
    · exact single
  · have nothing := (starting.quiet missing).started_eq_nil
    simp [Rehearsal.room, starting.sessions, nothing, missing]

end Starting

-----------------------------------------------------------------------------------------
-- Every request starts at most one session
-----------------------------------------------------------------------------------------

/-- Without a session, creating a terminal for one starts at most one, by cases on the answer. -/
theorem Rehearsal.createTerminal_starting {policy : SessionPolicy} {command : List String}
    {r after : Rehearsal} {answer : Except HostError Terminal}
    (created : exec (host.createTerminal (policy.launchSpec command)) r = (answer, after))
    (missing : r.sessions policy = [])
    : Starting policy r [(r, .createTerminal (policy.launchSpec command) answer)] after where
  missing s spec given member := by
    obtain ⟨rfl, _⟩ := Prod.mk.inj (List.mem_singleton.mp member)
    exact ⟨rfl, missing⟩
  single := by cases answer <;> simp [started, Exchange.started?]
  sessions := by
    cases answer with
    | error error =>
        simp [started, Exchange.started?, (createTerminal_error created).sessions]
    | ok terminal =>
        obtain ⟨terminals, named, alive⟩ := createTerminal_ok created
        have recognized := SessionPolicy.recognizes_launched named alive
        simp [started, Exchange.started?, Rehearsal.sessions, terminals, List.filter_append,
          recognized]

namespace SessionSetup

variable {setup : SessionSetup} {desired : Option String} {r after : Rehearsal}
  {notes : Notes Rehearsal}

/-- Looking for a session starts none, by cases on the course. -/
theorem Finding.quiet {σ : Type} {host : TerminalHost (StateM σ)} {s s' : σ} {notes : Notes σ}
    {result : Except HostError (Option Terminal)}
    (h : Finding setup host s notes result s')
    : Quiet notes := by
  cases h <;> simp [Quiet, Exchange.kind]

/-- Obtaining a command starts no session, by cases on the course. -/
theorem Obtaining.quiet {σ : Type} {chooser : CommandChooser (StateM σ)} {s s' : σ}
    {notes : Notes σ} {result : Except SessionError (Option (List String))}
    (h : Obtaining setup chooser s desired notes result s')
    : Quiet notes := by
  cases h <;> simp [Quiet, Exchange.kind]

/-- Obtaining a command changes no terminal, by cases on the course. -/
theorem Obtaining.same {result : Except SessionError (Option (List String))}
    (h : Obtaining setup Rehearsal.chooser r desired notes result after)
    : r.SameTerminals after := by
  cases h with
  | desired line => exact .refl r
  | fails asked => exact Rehearsal.choose_same asked
  | cancelled asked => exact Rehearsal.choose_same asked
  | accepted asked => exact Rehearsal.choose_same asked

/-- Without a session, creating one keeps the count of sessions, by cases on the course. -/
theorem Creating.starting {command : List String} {result : Except HostError Terminal}
    (h : Creating setup Rehearsal.host command r notes result after)
    (missing : r.sessions setup.policy = [])
    : Starting setup.policy r notes after := by
  cases h with
  | createFails created => exact Rehearsal.createTerminal_starting created missing
  | showFails created shown =>
      exact (Rehearsal.createTerminal_starting created missing).append_quiet
        (by simp [Quiet, Exchange.kind]) (Rehearsal.showTerminal_same shown)
  | created created shown =>
      exact (Rehearsal.createTerminal_starting created missing).append_quiet
        (by simp [Quiet, Exchange.kind]) (Rehearsal.showTerminal_same shown)

/-- Without a session, opening one keeps the count of sessions, by the courses of obtaining a
command and creating a session. -/
theorem Opening.starting {result : Except SessionError (Option Terminal)}
    (h : Opening setup Rehearsal.host Rehearsal.chooser desired r notes result after)
    (missing : r.sessions setup.policy = [])
    : Starting setup.policy r notes after := by
  cases h with
  | fails obtained => exact .of_quiet obtained.quiet obtained.same
  | cancelled obtained => exact .of_quiet obtained.quiet obtained.same
  | starts obtained started =>
      -- The menu changes no terminal, so the host is asked where still none is a session.
      refine .quiet_append obtained.quiet obtained.same (started.starting ?_)
      exact obtained.same.sessions.trans missing

/-- A request for a session keeps the count of sessions, by cases on whether one is found. -/
theorem Resolving.starting {result : Except SessionError (Option Terminal)}
    (h : Resolving setup Rehearsal.host Rehearsal.chooser desired r notes result after)
    : Starting setup.policy r notes after := by
  cases h with
  | fails found => exact .of_quiet found.quiet found.session.1
  | reuses found => exact .of_quiet found.quiet found.session.1
  | opens found opened =>
      obtain ⟨same, missing⟩ := found.session
      refine .quiet_append found.quiet same (opened.starting ?_)
      exact same.sessions.trans (Rehearsal.sessions_eq_nil (missing _ rfl).symm)

/-- A delivery keeps the count of sessions, as its request for a session does. -/
theorem Delivering.starting {frame : Frame} {result : Except SessionError Delivery}
    (h : Delivering setup Rehearsal.host Rehearsal.chooser frame desired r notes result after)
    : Starting setup.policy r notes after := by
  cases h with
  | fails resolved => exact resolved.starting
  | cancelled resolved => exact resolved.starting
  | sends resolved pasted =>
      exact resolved.starting.append_quiet (by simp [Quiet, Exchange.kind])
        (Rehearsal.sendText_same pasted)

-----------------------------------------------------------------------------------------
-- A request that meets a session reuses it
-----------------------------------------------------------------------------------------

/-- A request that succeeds reuses the session that is there, by what looking for it finds. -/
theorem Resolving.reuse {result : Except SessionError (Option Terminal)} {session : Terminal}
    (h : Resolving setup Rehearsal.host Rehearsal.chooser desired r notes result after)
    (present : r.session? setup.policy = some session)
    : ∀ answer, result = .ok answer → answer = some session := by
  cases h with
  | fails found => nofun
  | reuses found =>
      rintro _ ⟨⟩
      exact (found.session.2 _ rfl).trans present
  | opens found opened =>
      have missing := found.session.2 _ rfl
      simp [present] at missing

/-- A delivery that succeeds goes to the session that is there, as its request reuses it. -/
theorem Delivering.reuse {frame : Frame} {result : Except SessionError Delivery}
    {session : Terminal}
    (h : Delivering setup Rehearsal.host Rehearsal.chooser frame desired r notes result after)
    (present : r.session? setup.policy = some session)
    : ∀ delivery, result = .ok delivery → delivery = .sent session frame := by
  cases h with
  | fails resolved => nofun
  | cancelled resolved => exact absurd (resolved.reuse present _ rfl) nofun
  | @sends _ _ _ answer _ resolved pasted =>
      obtain rfl := Option.some.inj (resolved.reuse present _ rfl)
      cases answer with
      | error error => nofun
      | ok _ =>
          rintro _ ⟨⟩
          rfl

end SessionSetup

end CellRunner

import CellRunner.Proofs.Tmux.Interleaving

/-!
What two calls do to each other through the paste buffer that they share. A call types one text
into its own window, and this is the text that was loaded last; so it can be the other call's
text, which the other call is then left without.
-/

namespace CellRunner.Tmux

-----------------------------------------------------------------------------------------
-- What turns leave in the buffer
-----------------------------------------------------------------------------------------

/-- What is in the paste buffer: something from before both calls, nothing, or a party's text. -/
inductive Content where
  | earlier
  | nothing
  | textOf (party : Party)
deriving DecidableEq, Repr

namespace Turn

/-- A text was loaded into the buffer, by a process that succeeded. -/
def loads (turn : Turn) : Bool :=
  turn.process.args = ["load-buffer", "-b", bufferName, "-"] && passed turn.reply

/-- The buffer was pasted, by a process that succeeded. -/
def pastes (turn : Turn) : Bool :=
  turn.process.args.head? = some "paste-buffer" && passed turn.reply

/-- A turn that loads does not paste, as its process is another one. -/
theorem pastes_eq_false_of_loads {turn : Turn} (h : turn.loads = true) : turn.pastes = false := by
  obtain ⟨args, _⟩ := Bool.and_eq_true_iff.mp h
  simp [pastes, of_decide_eq_true args]

/-- What is in the buffer after a turn. -/
def leaves (turn : Turn) (content : Content) : Content :=
  if turn.loads then .textOf turn.party
  else if turn.pastes then .nothing
  else content

end Turn

/-- Whether a party has pasted what was in the buffer. -/
def hasPasted (party : Party) (turns : List Turn) : Bool :=
  turns.any (fun turn => turn.party = party && turn.pastes)

/-- The turns of the other party between the first two turns of a party. -/
def between (party : Party) (turns : List Turn) : List Turn :=
  ((turns.dropWhile (·.party ≠ party)).drop 1).takeWhile (·.party ≠ party)

/-- Whether a load of the other party has succeeded between the first two turns of a party. -/
def crossed (party : Party) (turns : List Turn) : Bool :=
  (between party turns).any (·.loads)

/-- The texts that a window has received, the first one first. -/
def received (window : String) (turns : List Turn) : List String :=
  ((turns.flatMap (·.typed)).filter (·.1 = window)).map (·.2)

def contentAfter (turns : List Turn) : Content :=
  turns.foldl (fun content turn => turn.leaves content) .earlier

/-- The last turn decides what is left in the buffer, by folding over the turns. -/
@[simp]
theorem contentAfter_concat (turns : List Turn) (turn : Turn)
    : contentAfter (turns ++ [turn]) = turn.leaves (contentAfter turns) := by
  simp [contentAfter]

/-- A turn that neither loads nor pastes leaves the buffer as it is. -/
theorem contentAfter_concat_of_quiet {turns : List Turn} {turn : Turn}
    (loads : turn.loads = false) (pastes : turn.pastes = false)
    : contentAfter (turns ++ [turn]) = contentAfter turns := by
  simp [Turn.leaves, loads, pastes]

/-- What a turn types is added behind what its party has typed, by filtering the longer list. -/
theorem typedBy_concat (turns : List Turn) (turn : Turn) (party : Party)
    : typedBy party (turns ++ [turn])
      = typedBy party turns ++ if turn.party = party then turn.typed else [] := by
  by_cases own : turn.party = party <;> simp [typedBy, List.filter_append, own]

/-- A party has pasted after a turn if it had before it or does so in it, by the last turn of the
list. -/
theorem hasPasted_concat (turns : List Turn) (turn : Turn) (party : Party)
    : hasPasted party (turns ++ [turn])
      = (hasPasted party turns || (turn.party = party && turn.pastes)) := by
  simp [hasPasted]

/-- What the buffer holds if its content is known. -/
def Content.Holds (calls : Party → Call) (buffer : Option String) : Content → Prop
  | .earlier => True
  | .nothing => buffer = none
  | .textOf party => buffer = some (calls party).text

-----------------------------------------------------------------------------------------
-- What one turn does
-----------------------------------------------------------------------------------------

/-- The turns of a call: a process that passes leads to the following stage, and one that does
not ends the call and leaves everything as it is. The two texts are the buffer before and after. -/
inductive Effect (call : Call) : Stage → Option String → Turn → Stage → Option String → Prop where
  | loaded {held turn} (loads : turn.loads = true) (typed : turn.typed = [])
    : Effect call .loading held turn .pasting (some call.text)
  | pasted {text turn} (loads : turn.loads = false) (pastes : turn.pastes = true)
    (typed : turn.typed = [(call.terminal.id, text)])
    : Effect call .pasting (some text) turn (call.following .pasting) none
  | entered {held turn} (loads : turn.loads = false) (pastes : turn.pastes = false)
    (typed : turn.typed = [])
    : Effect call .entering held turn (.ended (.ok ())) held
  | failed {stage held turn error} (failure : passed turn.reply = false)
    (loads : turn.loads = false) (pastes : turn.pastes = false) (typed : turn.typed = [])
    : Effect call stage held turn (.ended (.error error)) held

variable {σ : Type} {server : Server σ}

/-- A process that fails and types nothing ends its call, by the stage after a failure. -/
theorem Effect.of_not_passed (call : Call) (stage : Stage) {turn : Turn} {held : Option String}
    (failure : passed turn.reply = false) (typed : turn.typed = [])
    : Effect call stage held turn (call.next stage turn.process turn.reply) held := by
  obtain ⟨error, ends⟩ := call.next_of_not_passed stage failure
  rw [ends]
  exact .failed failure (by simp [Turn.loads, failure]) (by simp [Turn.pastes, failure]) typed

/-- A lawful server has the effect of the stage that is served, by cases on the stage and on whether
the process passes. -/
theorem effect_of_serve {call : Call} (lawful : server.Lawful call) {stage : Stage} {turn : Turn}
    {s : σ} (running : call.process? stage = some turn.process)
    (replied : turn.reply = (server.serve turn.process s).reply)
    (typed : turn.typed = (server.serve turn.process s).typed)
    : Effect call stage (server.buffer s) turn (call.next stage turn.process turn.reply)
        (server.buffer (server.serve turn.process s).state) := by
  cases stage with
  | loading =>
      have process : call.load = turn.process := Option.some.inj running
      obtain ⟨silent, buffer⟩ := lawful.load s
      rw [process, ← typed] at silent
      rw [process, ← replied] at buffer
      cases success : passed turn.reply with
      | true =>
          rw [success, if_pos rfl] at buffer
          rw [call.next_of_passed _ success, buffer]
          exact .loaded (by simp [Turn.loads, ← process, Call.load, success]) silent
      | false =>
          rw [success, if_neg Bool.false_ne_true] at buffer
          rw [buffer]
          exact .of_not_passed call _ success silent
  | pasting =>
      have process : call.paste = turn.process := Option.some.inj running
      have served := lawful.paste s
      rw [process] at served
      simp only [← typed, ← replied] at served
      cases success : passed turn.reply with
      | true =>
          rw [success, if_pos rfl] at served
          obtain ⟨text, held, pasted, empty⟩ := served
          rw [call.next_of_passed _ success, held, empty]
          exact .pasted (by simp [Turn.loads, ← process, Call.paste])
            (by simp [Turn.pastes, ← process, Call.paste, success]) pasted
      | false =>
          rw [success, if_neg Bool.false_ne_true] at served
          obtain ⟨silent, same⟩ := served
          rw [same]
          exact .of_not_passed call _ success silent
  | entering =>
      have process : call.enter = turn.process := Option.some.inj running
      obtain ⟨silent, same⟩ := lawful.enter s
      rw [process, ← typed] at silent
      rw [process] at same
      rw [same]
      cases success : passed turn.reply with
      | true =>
          rw [call.next_of_passed _ success]
          exact .entered (by simp [Turn.loads, ← process, Call.enter])
            (by simp [Turn.pastes, ← process, Call.enter]) silent
      | false => exact .of_not_passed call _ success silent
  | ended result => cases running

-----------------------------------------------------------------------------------------
-- What a call has come to
-----------------------------------------------------------------------------------------

/-- A call has not pasted and has typed nothing. -/
structure Silent (turns : List Turn) (party : Party) : Prop where
  typed : typedBy party turns = []
  unpasted : hasPasted party turns = false

/-- A party has loaded its text with its first process and pasted the buffer with its second one;
these are the turns in between. -/
def PastedAfter (turns : List Turn) (party : Party) (since : List Turn) : Prop :=
  ∃ first load paste later,
    turns = first ++ load :: (since ++ paste :: later)
    ∧ (∀ turn ∈ first, turn.party ≠ party)
    ∧ load.party = party
    ∧ (∀ turn ∈ since, turn.party ≠ party)
    ∧ paste.party = party
    ∧ paste.pastes = true

/-- A call has typed its own text into its window and nothing else; no text was loaded between
its text and the paste. -/
def TypedOwn (calls : Party → Call) (turns : List Turn) (party : Party) : Prop :=
  ∃ since,
    PastedAfter turns party since
    ∧ (∀ turn ∈ since, turn.loads = false)
    ∧ typedBy party turns = [((calls party).terminal.id, (calls party).text)]

/-- A call has typed the other call's text into its window and nothing else; that text was loaded
between its own text and the paste. -/
def TypedOther (calls : Party → Call) (turns : List Turn) (party : Party) : Prop :=
  ∃ since,
    PastedAfter turns party since
    ∧ (∃ turn ∈ since, turn.party = party.other ∧ turn.loads = true)
    ∧ typedBy party turns = [((calls party).terminal.id, (calls party.other).text)]

/-- A call stays silent in a turn in which it does not paste, by what the turn adds. -/
theorem Silent.concat {turns : List Turn} {party : Party} {turn : Turn} (h : Silent turns party)
    (typed : turn.party = party → turn.typed = [])
    (pastes : turn.party = party → turn.pastes = false)
    : Silent (turns ++ [turn]) party where
  typed := by
    rw [typedBy_concat, h.typed, List.nil_append, ite_eq_right_iff]
    exact typed
  unpasted := by
    rw [hasPasted_concat, h.unpasted, Bool.false_or, Bool.and_eq_false_imp]
    simpa using pastes

/-- A party has pasted once it has, as its turn stays in the list. -/
theorem PastedAfter.hasPasted_eq {turns since : List Turn} {party : Party}
    (h : PastedAfter turns party since)
    : hasPasted party turns = true := by
  obtain ⟨first, load, paste, later, rfl, _, _, _, own, pastes⟩ := h
  simp [hasPasted, own, pastes]

/-- The turns between the load and the paste are those between the first two turns of the party, by
the order of the list. -/
theorem PastedAfter.between_eq {turns since : List Turn} {party : Party}
    (h : PastedAfter turns party since)
    : between party turns = since := by
  obtain ⟨first, load, paste, later, rfl, unstarted, own, foreign, paster, _⟩ := h
  rw [between, List.dropWhile_append_of_pos (by simpa using unstarted),
    List.dropWhile_cons_of_neg (by simpa using own), List.drop_one, List.tail_cons,
    List.takeWhile_append_of_pos (by simpa using foreign),
    List.takeWhile_cons_of_neg (by simpa using paster), List.append_nil]

/-- A paste stays where it was in a longer run, by the same split. -/
theorem PastedAfter.concat {turns since : List Turn} {party : Party}
    (h : PastedAfter turns party since) (turn : Turn)
    : PastedAfter (turns ++ [turn]) party since := by
  obtain ⟨first, load, paste, later, rfl, own⟩ := h
  exact ⟨first, load, paste, later ++ [turn], by simp, own⟩

section

variable {calls : Party → Call} {turns : List Turn} {party : Party} {turn : Turn}

/-- A call that has typed its own text has still done so if it types nothing more, by the same
split. -/
theorem TypedOwn.concat (h : TypedOwn calls turns party)
    (same : typedBy party (turns ++ [turn]) = typedBy party turns)
    : TypedOwn calls (turns ++ [turn]) party := by
  obtain ⟨since, pasted, quiet, typed⟩ := h
  exact ⟨since, pasted.concat turn, quiet, same.trans typed⟩

/-- A call that has typed the other call's text has still done so if it types nothing more, by the
same split. -/
theorem TypedOther.concat (h : TypedOther calls turns party)
    (same : typedBy party (turns ++ [turn]) = typedBy party turns)
    : TypedOther calls (turns ++ [turn]) party := by
  obtain ⟨since, pasted, crossed, typed⟩ := h
  exact ⟨since, pasted.concat turn, crossed, same.trans typed⟩

/-- No load has crossed a call that has typed its own text, as there was none in between. -/
theorem TypedOwn.crossed_eq (h : TypedOwn calls turns party) : crossed party turns = false := by
  obtain ⟨since, pasted, quiet, _⟩ := h
  rw [crossed, pasted.between_eq, List.any_eq_false]
  exact fun turn member => by simp [quiet turn member]

/-- A load has crossed a call that has typed the other call's text, as there was one in
between. -/
theorem TypedOther.crossed_eq (h : TypedOther calls turns party) : crossed party turns = true := by
  obtain ⟨since, pasted, ⟨turn, member, _, loads⟩, _⟩ := h
  rw [crossed, pasted.between_eq, List.any_eq_true]
  exact ⟨turn, member, loads⟩

end

/-- The content of the buffer, told from the turns since a party has loaded its text. -/
inductive Since (party : Party) (since : List Turn) : Content → Prop where
  | own (quiet : ∀ turn ∈ since, turn.loads = false) : Since party since (.textOf party)
  | other (crossed : ∃ turn ∈ since, turn.party = party.other ∧ turn.loads = true)
    : Since party since (.textOf party.other)
  | nothing : Since party since .nothing

/-- A turn of the other party changes the buffer as it does for all turns, by cases on what the turn
does. -/
theorem Since.concat {party : Party} {since : List Turn} {content : Content} {turn : Turn}
    (h : Since party since content) (foreign : turn.party = party.other)
    : Since party (since ++ [turn]) (turn.leaves content) := by
  cases loads : turn.loads with
  | true =>
      rw [Turn.leaves, if_pos loads, foreign]
      exact .other ⟨turn, by simp, foreign, loads⟩
  | false =>
      cases pastes : turn.pastes with
      | true =>
          simp only [Turn.leaves, loads, pastes, Bool.false_eq_true, if_false, if_true]
          exact .nothing
      | false =>
          simp only [Turn.leaves, loads, pastes, Bool.false_eq_true, if_false]
          cases h with
          | own quiet =>
              refine .own fun later member => ?_
              rcases List.mem_append.mp member with before | last
              · exact quiet later before
              · rwa [List.mem_singleton.mp last]
          | other crossed =>
              obtain ⟨earlier, member, crossed⟩ := crossed
              exact .other ⟨earlier, List.mem_append_left _ member, crossed⟩
          | nothing => exact .nothing

/-- The stages at which a call has not pasted the text that it has loaded and is in the buffer. -/
def Stage.Unpasted (stage : Stage) : Prop :=
  stage = .pasting ∨ ∃ error, stage = .ended (.error error)

/-- The stages behind the paste. -/
def Stage.Late (stage : Stage) : Prop :=
  stage = .entering ∨ ∃ result, stage = .ended result

/-- What the turns so far say about a call at a stage. A call that has typed the other call's
text has emptied the buffer, and the other call still waits to paste or has failed. -/
inductive Progress (calls : Party → Call) (stages : Party → Stage) (turns : List Turn)
    (party : Party) : Stage → Prop where
  | loading (unstarted : ∀ turn ∈ turns, turn.party ≠ party) (silent : Silent turns party)
    : Progress calls stages turns party .loading
  | pasting {first load since} (split : turns = first ++ load :: since)
    (unstarted : ∀ turn ∈ first, turn.party ≠ party) (own : load.party = party)
    (foreign : ∀ turn ∈ since, turn.party ≠ party)
    (content : Since party since (contentAfter turns)) (silent : Silent turns party)
    : Progress calls stages turns party .pasting
  | typedOwn {stage} (late : stage.Late) (typed : TypedOwn calls turns party)
    : Progress calls stages turns party stage
  | typedOther {stage} (late : stage.Late) (typed : TypedOther calls turns party)
    (empty : contentAfter turns = .nothing) (left : (stages party.other).Unpasted)
    : Progress calls stages turns party stage
  | failed {error} (silent : Silent turns party)
    : Progress calls stages turns party (.ended (.error error))

/-- The invariant of two calls that take turns. -/
structure Coherent (calls : Party → Call) (stages : Party → Stage) (turns : List Turn)
    (buffer : Option String)
    : Prop where
  holds : (contentAfter turns).Holds calls buffer
  owner : ∀ party, contentAfter turns = .textOf party → (stages party).Unpasted
  progress : ∀ party, Progress calls stages turns party (stages party)
  blamed
    : ∀ party error,
        stages party = .ended (.error error) →
        ∃ turn ∈ turns, turn.party = party ∧ passed turn.reply = false

/-- Before the first turn nothing is known of the buffer and both calls are to load. -/
theorem Coherent.opened (calls : Party → Call) (buffer : Option String)
    : Coherent calls (fun _ => .loading) [] buffer where
  holds := trivial
  owner := by simp [contentAfter]
  progress _ := .loading (by simp) ⟨rfl, rfl⟩
  blamed _ _ ended := nomatch ended

-----------------------------------------------------------------------------------------
-- A turn keeps the invariant
-----------------------------------------------------------------------------------------

/-- Loading comes before the paste, by inspection. -/
theorem Stage.not_late_loading : ¬ Stage.loading.Late := by
  rintro (h | ⟨_, h⟩) <;> cases h

/-- Pasting is not behind the paste, by inspection. -/
theorem Stage.not_late_pasting : ¬ Stage.pasting.Late := by
  rintro (h | ⟨_, h⟩) <;> cases h

/-- What follows the paste is behind it, by cases on whether the text is submitted. -/
theorem Call.late_following_pasting (call : Call) : (call.following .pasting).Late := by
  rw [Call.following]
  cases call.submit
  · exact .inr ⟨_, rfl⟩
  · exact .inl rfl

/-- There are two parties, by cases on both. -/
theorem Party.eq_other_of_ne {a b : Party} (h : a ≠ b) : a = b.other := by
  cases a <;> cases b <;> simp_all [Party.other]

section

variable {calls : Party → Call} {stages : Party → Stage} {turns : List Turn}
  {held after : Option String} {turn : Turn} {earlier stage : Stage}
  (h : Coherent calls stages turns held) (before : stages turn.party = earlier)
  (effect : Effect (calls turn.party) earlier held turn stage after)

include h effect

/-- The buffer holds what the turns leave in it, by cases on the effect of the turn. -/
theorem Coherent.holds_turn
    : (turn.leaves (contentAfter turns)).Holds calls after := by
  have holds := h.holds
  cases effect <;> simp_all [Turn.leaves, Content.Holds]

include before

/-- A text in the buffer is that of a call that has not pasted, by cases on whose turn it is and on
its effect. -/
theorem Coherent.owner_turn (party : Party)
    (owned : turn.leaves (contentAfter turns) = .textOf party)
    : (Function.update stages turn.party stage party).Unpasted := by
  have owner := h.owner party
  by_cases own : party = turn.party
  · subst own
    rw [Function.update_self]
    cases effect with
    | loaded => exact .inl rfl
    | pasted loads pastes => simp [Turn.leaves, loads, pastes] at owned
    | entered loads pastes =>
        have waiting : (stages turn.party).Unpasted := by
          simp_all [Turn.leaves]
        rw [before] at waiting
        rcases waiting with impossible | ⟨_, impossible⟩ <;> cases impossible
    | failed => exact .inr ⟨_, rfl⟩
  · rw [Function.update_of_ne own]
    cases effect with
    | loaded loads => simp [Turn.leaves, loads, Ne.symm own] at owned
    | pasted loads pastes => simp [Turn.leaves, loads, pastes] at owned
    | entered loads pastes => simp_all [Turn.leaves]
    | failed _ loads pastes => simp_all [Turn.leaves]

/-- A party's own turn leads its call on, by cases on what the turn does and where the call was. -/
theorem Coherent.own_progress_turn
    : Progress calls (Function.update stages turn.party stage) (turns ++ [turn]) turn.party
        stage := by
  have progress := h.progress turn.party
  have typed := typedBy_concat turns turn turn.party
  rw [if_pos rfl] at typed
  have beside : Function.update stages turn.party stage turn.party.other
      = stages turn.party.other :=
    Function.update_of_ne (by cases turn.party <;> simp [Party.other]) _ _
  rw [before] at progress
  cases effect with
  | loaded loads silent =>
      cases progress with
      | loading unstarted untyped =>
          have silent := untyped.concat (fun _ => silent)
            (fun _ => Turn.pastes_eq_false_of_loads loads)
          refine .pasting rfl unstarted rfl (by simp) ?_ silent
          rw [contentAfter_concat, Turn.leaves, if_pos loads]
          exact .own (by simp)
      | typedOwn late => exact absurd late Stage.not_late_loading
      | typedOther late => exact absurd late Stage.not_late_loading
  | @pasted text _ loads pastes pasted =>
      cases progress with
      | typedOwn late => exact absurd late Stage.not_late_pasting
      | typedOther late => exact absurd late Stage.not_late_pasting
      | @pasting first load since split unstarted own foreign content untyped =>
          have late := (calls turn.party).late_following_pasting
          have pastedAfter : PastedAfter (turns ++ [turn]) turn.party since :=
            ⟨first, load, turn, [], by simp [split], unstarted, own, foreign, rfl, pastes⟩
          rw [untyped.typed, pasted, List.nil_append] at typed
          have holds := h.holds
          generalize known : contentAfter turns = found at content holds
          cases content with
          | own quiet =>
              obtain rfl := Option.some.inj holds
              exact .typedOwn late ⟨since, pastedAfter, quiet, typed⟩
          | other crossed =>
              obtain rfl := Option.some.inj holds
              refine .typedOther late ⟨since, pastedAfter, crossed, typed⟩ ?_ ?_
              · simp [Turn.leaves, loads, pastes]
              · rw [beside]
                exact h.owner _ known
          | nothing => cases holds
  | entered loads pastes silent =>
      rw [silent, List.append_nil] at typed
      have late : (Stage.ended (.ok ())).Late := .inr ⟨_, rfl⟩
      cases progress with
      | typedOwn _ own => exact .typedOwn late (own.concat typed)
      | typedOther _ other empty left =>
          refine .typedOther late (other.concat typed) ?_ (by rwa [beside])
          rw [contentAfter_concat_of_quiet loads pastes, empty]
  | @failed _ _ _ error _ loads pastes silent =>
      rw [silent, List.append_nil] at typed
      have late : (Stage.ended (.error error)).Late := .inr ⟨_, rfl⟩
      have still (untyped : Silent turns turn.party) : Silent (turns ++ [turn]) turn.party :=
        untyped.concat (fun _ => silent) (fun _ => pastes)
      cases progress with
      | loading _ untyped => exact .failed (still untyped)
      | pasting _ _ _ _ _ untyped => exact .failed (still untyped)
      | failed untyped => exact .failed (still untyped)
      | typedOwn _ own => exact .typedOwn late (own.concat typed)
      | typedOther _ other empty left =>
          refine .typedOther late (other.concat typed) ?_ (by rwa [beside])
          rw [contentAfter_concat_of_quiet loads pastes, empty]

/-- The other party's turn leaves a call where it was, by cases on this; only the content of the
buffer may change. -/
theorem Coherent.other_progress_turn {party : Party} (foreign : turn.party = party.other)
    : Progress calls (Function.update stages turn.party stage) (turns ++ [turn]) party
        (stages party) := by
  have apart : turn.party ≠ party := by
    rw [foreign]
    cases party <;> simp [Party.other]
  have typed : typedBy party (turns ++ [turn]) = typedBy party turns := by
    rw [typedBy_concat, if_neg apart, List.append_nil]
  have still (untyped : Silent turns party) : Silent (turns ++ [turn]) party :=
    untyped.concat (fun own => absurd own apart) (fun own => absurd own apart)
  have longer {others : List Turn} (others_ : ∀ other ∈ others, other.party ≠ party)
      : ∀ other ∈ others ++ [turn], other.party ≠ party := by
    simpa [or_imp, forall_and, apart] using others_
  have progress := h.progress party
  generalize stages party = current at progress ⊢
  cases progress with
  | loading unstarted untyped => exact .loading (longer unstarted) (still untyped)
  | @pasting first load since split unstarted own others content untyped =>
      have extended : turns ++ [turn] = first ++ load :: (since ++ [turn]) := by simp [split]
      refine .pasting extended unstarted own (longer others) ?_ (still untyped)
      rw [contentAfter_concat]
      exact content.concat foreign
  | typedOwn late own => exact .typedOwn late (own.concat typed)
  | typedOther late other empty left =>
      -- The other party's text is gone, so all that its paste can still do is fail.
      have holds := h.holds
      rw [empty] at holds
      rw [← foreign, before] at left
      cases effect with
      | loaded => rcases left with impossible | ⟨_, impossible⟩ <;> cases impossible
      | pasted => cases holds
      | entered => rcases left with impossible | ⟨_, impossible⟩ <;> cases impossible
      | failed _ loads pastes =>
          refine .typedOther late (other.concat typed) ?_ ?_
          · rw [contentAfter_concat_of_quiet loads pastes, empty]
          · rw [← foreign, Function.update_self]
            exact .inr ⟨_, rfl⟩
  | failed untyped => exact .failed (still untyped)

/-- A call that fails has had a process that failed, by cases on whose turn it was. -/
theorem Coherent.blamed_turn (party : Party) (error : HostError)
    (ended : Function.update stages turn.party stage party = .ended (.error error))
    : ∃ failing ∈ turns ++ [turn],
        failing.party = party ∧ passed failing.reply = false := by
  by_cases own : party = turn.party
  · subst own
    rw [Function.update_self] at ended
    cases effect with
    | loaded => cases ended
    | pasted => exact absurd ended (by rw [Call.following]; split <;> simp)
    | entered => cases ended
    | failed failure => exact ⟨turn, by simp, rfl, failure⟩
  · rw [Function.update_of_ne own] at ended
    obtain ⟨failing, member, blame⟩ := h.blamed party error ended
    exact ⟨failing, List.mem_append_left _ member, blame⟩

/-- A turn keeps the invariant, by the lemmas about its parts. -/
theorem Coherent.after_turn
    : Coherent calls (Function.update stages turn.party stage) (turns ++ [turn]) after where
  holds := by
    rw [contentAfter_concat]
    exact h.holds_turn effect
  owner party owned := by
    rw [contentAfter_concat] at owned
    exact h.owner_turn before effect party owned
  progress party := by
    by_cases own : party = turn.party
    · subst own
      rw [Function.update_self]
      exact h.own_progress_turn before effect
    · rw [Function.update_of_ne own]
      exact h.other_progress_turn before effect (Party.eq_other_of_ne (Ne.symm own))
  blamed party error ended := h.blamed_turn before effect party error ended

end

-----------------------------------------------------------------------------------------
-- Runs
-----------------------------------------------------------------------------------------

/-- The invariant of two programs that make their calls. -/
structure Reached (calls : Party → Call) (server : Server σ) (stages : Party → Stage)
    (joint : Joint σ)
    : Prop where
  rests : ∀ party, joint.talks party = ((calls party).rest (stages party)).run
  processes
    : ∀ party,
        (calls party).Started (stages party)
          ((joint.turns.filter (·.party = party)).map (·.process))
  coherent : Coherent calls stages joint.turns (server.buffer joint.state)

/-- A step of a party keeps the invariant, by cases on whether it has a process to start; a party
that has finished changes nothing. -/
theorem Reached.step {calls : Party → Call} {stages : Party → Stage} {joint : Joint σ}
    (lawful : ∀ party, server.Lawful (calls party)) (h : Reached calls server stages joint)
    (party : Party)
    : ∃ stages', Reached calls server stages' (joint.step server party) := by
  cases running : (calls party).process? (stages party) with
  | none =>
      obtain ⟨result, ended⟩ := Call.ended_of_idle running
      have finished : joint.talks party = .finished result := by
        rw [h.rests party, ended]
        rfl
      have same : joint.step server party = joint := by
        rw [Joint.step, finished]
      exact ⟨stages, by rwa [same]⟩
  | some process =>
      have waiting := Call.run_rest running
      rw [← h.rests party] at waiting
      let outcome := server.serve process joint.state
      let turn : Turn := ⟨party, process, outcome.reply, outcome.typed⟩
      let stage := (calls party).next (stages party) process outcome.reply
      have stepped : joint.step server party
          = ⟨outcome.state, Function.update joint.talks party ((calls party).rest stage).run,
              joint.turns ++ [turn]⟩ := by
        rw [Joint.step, waiting]
      have effect
          : Effect (calls turn.party) (stages turn.party) (server.buffer joint.state) turn stage
              (server.buffer outcome.state) :=
        effect_of_serve (lawful party) running rfl rfl
      refine ⟨Function.update stages party stage, ?rests, ?processes, ?coherent⟩
      case rests =>
        intro other
        rw [stepped]
        by_cases own : other = party
        · subst own
          simp
        · simp [Function.update_of_ne own, h.rests other]
      case processes =>
        intro other
        rw [stepped]
        have started := h.processes other
        by_cases own : other = party
        · subst own
          simpa [turn, stage] using started.next running outcome.reply
        · simpa [Function.update_of_ne own, turn, Ne.symm own] using started
      case coherent =>
        rw [stepped]
        exact h.coherent.after_turn rfl effect

/-- A run keeps the invariant, by induction over the schedule. -/
theorem Reached.run {calls : Party → Call} {stages : Party → Stage} {joint : Joint σ}
    (lawful : ∀ party, server.Lawful (calls party)) (h : Reached calls server stages joint)
    (schedule : List Party)
    : ∃ stages', Reached calls server stages' (joint.run server schedule) := by
  induction schedule generalizing joint stages with
  | nil => exact ⟨stages, h⟩
  | cons party rest ih =>
      obtain ⟨stages', reached⟩ := h.step lawful party
      exact ih reached

/-- Every run from the start reaches the invariant, as the start does. -/
theorem reached_run {calls : Party → Call} (lawful : ∀ party, server.Lawful (calls party)) (s : σ)
    (schedule : List Party)
    : ∃ stages, Reached calls server stages ((Joint.start calls s).run server schedule) := by
  have opened : Reached calls server (fun _ => .loading) (Joint.start calls s) :=
    ⟨fun _ => rfl, fun _ => rfl, .opened calls (server.buffer s)⟩
  exact opened.run lawful schedule

/-- A party has returned what its stage has ended with, by cases on whether it still has a process
to start. -/
theorem Reached.result?_eq_some_iff {calls : Party → Call} {stages : Party → Stage}
    {joint : Joint σ} (h : Reached calls server stages joint) {party : Party}
    {result : Except HostError Unit}
    : joint.result? party = some result ↔ stages party = .ended result := by
  rw [Joint.result?, h.rests party]
  cases running : (calls party).process? (stages party) with
  | some process =>
      rw [Call.run_rest running]
      refine iff_of_false (by simp [Talk.result?]) fun ended => ?_
      simp [ended, Call.process?] at running
  | none =>
      obtain ⟨returned, ended⟩ := Call.ended_of_idle running
      rw [ended, Stage.ended.injEq]
      exact Option.some_inj

/-- A call that has not pasted has not returned without an error, by inspection. -/
theorem Stage.Unpasted.ne_ok {stage : Stage} (h : stage.Unpasted)
    : stage ≠ .ended (.ok ()) := by
  rcases h with rfl | ⟨error, rfl⟩ <;> simp

-----------------------------------------------------------------------------------------
-- A server with one buffer
-----------------------------------------------------------------------------------------

/-- A server that has every window and keeps nothing but the paste buffer. -/
def oneBuffer : Server (Option String) where
  serve process held :=
    match process.args with
    | ["load-buffer", "-b", "haskit", "-"] => ⟨.ok {}, [], some process.input⟩
    | ["paste-buffer", "-d", "-b", "haskit", "-t", window] =>
        match held with
        | some text => ⟨.ok {}, [(window, text)], none⟩
        | none => ⟨.ok { stderr := "no buffer haskit\n".toUTF8, status := 1 }, [], none⟩
    | _ => ⟨.ok {}, [], held⟩
  buffer held := held

/-- A server with one buffer is lawful, by cases on what the buffer holds. -/
theorem oneBuffer_lawful (call : Call) : oneBuffer.Lawful call where
  load _ := ⟨rfl, rfl⟩
  paste held := by
    cases held with
    | none => exact ⟨rfl, rfl⟩
    | some text => exact ⟨text, rfl, rfl, rfl⟩
  enter _ := ⟨rfl, rfl⟩

/-- Two calls with a text each, for different windows. -/
def twoCalls : Party → Call
  | .one => ⟨"tmux", ⟨"@1", "one", none⟩, "a", true⟩
  | .two => ⟨"tmux", ⟨"@2", "two", none⟩, "b", true⟩

-----------------------------------------------------------------------------------------
-- Interleavings
-----------------------------------------------------------------------------------------

/-- What has become of a call whose party takes turns with the other one. It starts a beginning of
its three processes. Until it has pasted, it has typed nothing and has not returned without an
error. Once it has pasted, it has typed one text into its own window and nothing else: its own text,
or the other call's text if a load of it has succeeded between its load and its paste, and then the
other call does not return without an error. It returns an error only after one of its processes has
failed. -/
structure Typing (calls : Party → Call) (joint : Joint σ) (party : Party) : Prop where
  processes
    : (joint.turns.filter (·.party = party)).map (·.process)
      <+: [(calls party).load, (calls party).paste, (calls party).enter]
  unpasted
    : hasPasted party joint.turns = false →
      typedBy party joint.turns = [] ∧ joint.result? party ≠ some (.ok ())
  pasted
    : hasPasted party joint.turns = true →
      typedBy party joint.turns
      = [((calls party).terminal.id,
          (calls (if crossed party joint.turns then party.other else party)).text)]
  robbed
    : hasPasted party joint.turns = true →
      crossed party joint.turns = true →
      joint.result? party.other ≠ some (.ok ())
  failed
    : ∀ error,
        joint.result? party = some (.error error) →
        ∃ turn ∈ joint.turns, turn.party = party ∧ passed turn.reply = false

/-- Every call of two that take turns has come to what is said of it, by cases on its progress. -/
theorem Reached.typing {calls : Party → Call} {stages : Party → Stage} {joint : Joint σ}
    (h : Reached calls server stages joint) (party : Party)
    : Typing calls joint party := by
  have progress := h.coherent.progress party
  have started := (h.processes party).isPrefix
  have blamed (error : HostError) (returned : joint.result? party = some (.error error)) :=
    h.coherent.blamed party error (h.result?_eq_some_iff.mp returned)
  have silent (untyped : Silent joint.turns party) (running : stages party ≠ .ended (.ok ()))
      : Typing calls joint party := by
    refine ⟨started, fun _ => ⟨untyped.typed, ?_⟩, ?_, ?_, blamed⟩
    · rwa [Ne, h.result?_eq_some_iff]
    · simp [untyped.unpasted]
    · simp [untyped.unpasted]
  generalize current : stages party = stage at progress
  cases progress with
  | loading _ untyped => exact silent untyped (by simp [current])
  | pasting _ _ _ _ _ untyped => exact silent untyped (by simp [current])
  | failed untyped => exact silent untyped (by simp [current])
  | typedOwn _ own =>
      have uncrossed := own.crossed_eq
      obtain ⟨_, pasted, _, typed⟩ := own
      exact ⟨started, by simp [pasted.hasPasted_eq], by simp [uncrossed, typed],
        by simp [uncrossed], blamed⟩
  | typedOther _ other _ left =>
      have crosses := other.crossed_eq
      obtain ⟨_, pasted, _, typed⟩ := other
      refine ⟨started, by simp [pasted.hasPasted_eq], by simp [crosses, typed], ?_, blamed⟩
      rw [Ne, h.result?_eq_some_iff]
      exact fun _ _ => left.ne_ok

/-- A call that has returned without an error has typed its own text if no load has crossed it, as
it has pasted. -/
theorem Typing.typed_of_ok {calls : Party → Call} {joint : Joint σ} {party : Party}
    (h : Typing calls joint party) (returned : joint.result? party = some (.ok ()))
    : typedBy party joint.turns
      = [((calls party).terminal.id,
          (calls (if crossed party joint.turns then party.other else party)).text)] := by
  refine h.pasted ?_
  by_contra unpasted
  exact (h.unpasted (Bool.eq_false_iff.mpr unpasted)).2 returned

/-- No load has crossed a call if both return without an error, as the other call would be robbed
of its text. -/
theorem Typing.uncrossed {calls : Party → Call} {joint : Joint σ} {party : Party}
    (h : Typing calls joint party) (returned : ∀ party, joint.result? party = some (.ok ()))
    : crossed party joint.turns = false := by
  by_contra crosses
  refine h.robbed ?_ (by simpa using crosses) (returned party.other)
  by_contra unpasted
  exact (h.unpasted (Bool.eq_false_iff.mpr unpasted)).2 (returned party)

/-- What is typed is typed by one of the parties, as every turn is taken by one of them. -/
theorem perm_typedBy (turns : List Turn)
    : (turns.flatMap (·.typed)).Perm (typedBy .one turns ++ typedBy .two turns) := by
  have others : turns.filter (fun turn => !decide (turn.party = .one))
      = turns.filter (·.party = .two) :=
    List.filter_congr fun turn _ => by cases turn.party <;> rfl
  have parted := List.filter_append_perm (fun turn : Turn => decide (turn.party = .one)) turns
  rw [others] at parted
  rw [typedBy, typedBy, ← List.flatMap_append]
  exact (parted.flatMap_right _).symm

/-- Two calls take turns in any order, and each of them comes to what is said of a call. If both
return without an error, then each has typed its own text into its window and nothing else, and so
every window has received the texts of the calls for it, and no other text. -/
theorem typed_text_of_interleaving {calls : Party → Call}
    (lawful : ∀ party, server.Lawful (calls party)) (s : σ) (schedule : List Party)
    : let joint := (Joint.start calls s).run server schedule
      (∀ party, Typing calls joint party)
      ∧ ((∀ party, joint.result? party = some (.ok ())) →
          (∀ party,
            typedBy party joint.turns = [((calls party).terminal.id, (calls party).text)])
          ∧ ∀ window,
              (received window joint.turns).Perm
                (([.one, .two].filter (fun party => (calls party).terminal.id = window)).map
                  (fun party => (calls party).text))) := by
  intro joint
  obtain ⟨stages, reached⟩ := reached_run lawful s schedule
  refine ⟨reached.typing, fun returned => ?_⟩
  have own (party : Party)
      : typedBy party joint.turns = [((calls party).terminal.id, (calls party).text)] := by
    have typed := (reached.typing party).typed_of_ok (returned party)
    rwa [(reached.typing party).uncrossed returned, if_neg Bool.false_ne_true] at typed
  refine ⟨own, fun window => ?_⟩
  have typed := perm_typedBy joint.turns
  rw [own, own] at typed
  refine ((typed.filter _).map _).trans (.of_eq ?_)
  by_cases first : (calls .one).terminal.id = window <;>
    by_cases second : (calls .two).terminal.id = window <;>
      simp [first, second]

/-- The first text is loaded and pasted before the second one is loaded: each window receives its
own text. -/
theorem typed_text_of_interleaving_uncrossed
    : let joint :=
        (Joint.start twoCalls none).run oneBuffer [.one, .one, .two, .one, .two, .two]
      (∀ party, oneBuffer.Lawful (twoCalls party))
      ∧ (∀ party, joint.result? party = some (.ok ()))
      ∧ (∀ party, hasPasted party joint.turns = true)
      ∧ typedBy .one joint.turns = [("@1", "a")]
      ∧ typedBy .two joint.turns = [("@2", "b")] := by
  intro joint
  have returned (party : Party) : joint.result? party = some (.ok ()) := by cases party <;> rfl
  have lawful (party : Party) : oneBuffer.Lawful (twoCalls party) := oneBuffer_lawful _
  obtain ⟨own, _⟩ := (typed_text_of_interleaving lawful none
    [.one, .one, .two, .one, .two, .two]).2 returned
  exact ⟨lawful, returned, fun party => by cases party <;> decide, own .one, own .two⟩

/-- The first text is loaded, then the second one, and then the first call goes on to its end: it
returns without an error and has typed the text of the second call, which is left to fail. -/
theorem typed_text_crossed
    : let joint :=
        (Joint.start twoCalls none).run oneBuffer [.one, .two, .one, .one, .two]
      (∀ party, oneBuffer.Lawful (twoCalls party))
      ∧ joint.result? .one = some (.ok ())
      ∧ typedBy .one joint.turns = [("@1", "b")]
      ∧ (twoCalls .one).terminal.id = "@1"
      ∧ (twoCalls .one).text = "a"
      ∧ (twoCalls .two).text = "b"
      ∧ typedBy .two joint.turns = []
      ∧ ∃ error, joint.result? .two = some (.error error) :=
  ⟨fun _ => oneBuffer_lawful _, rfl, by decide, rfl, rfl, rfl, by decide, _, rfl⟩

end CellRunner.Tmux

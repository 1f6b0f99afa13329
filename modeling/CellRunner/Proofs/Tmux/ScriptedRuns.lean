import CellRunner.Proofs.Session.Exchange
import CellRunner.Tmux.Script

/-!
Programs beside a scripted tmux. What a program starts is said as a list of steps: each step is a
process together with the replies to it that let the next step start, and the first reply that
does not ends the list early and fails the program.
-/

namespace CellRunner.Tmux

-----------------------------------------------------------------------------------------
-- Steps and the processes that are started
-----------------------------------------------------------------------------------------

/-- A process, and the replies after which the program goes on. -/
structure Step where
  invocation : Invocation
  Passes : ProcessResult → Prop

/-- The reply to the process with `n` processes before it; those past the end of a script print
nothing and succeed. -/
def reply (replies : List ProcessResult) (n : Nat) : ProcessResult :=
  replies[n]?.getD {}

/-- Dropping replies moves the others forward, by the positions in the list. -/
@[simp]
theorem reply_drop (replies : List ProcessResult) (k n : Nat)
    : reply (replies.drop k) n = reply replies (k + n) := by
  rw [reply, reply, List.getElem?_drop]

/-- The processes that steps start: those up to the first one whose reply does not pass, this one
included. The flag tells whether every reply passed. -/
inductive Starts : List Step → List ProcessResult → List Invocation → Bool → Prop
  | nil {replies} : Starts [] replies [] true
  | stops {step later replies} (fails : ¬step.Passes (reply replies 0))
    : Starts (step :: later) replies [step.invocation] false
  | goesOn {step later replies invocations passed} (passes : step.Passes (reply replies 0))
    (rest : Starts later (replies.drop 1) invocations passed)
    : Starts (step :: later) replies (step.invocation :: invocations) passed

namespace Starts

variable {steps later : List Step} {replies : List ProcessResult}
  {invocations more : List Invocation} {passed : Bool}

/-- The processes are those of the first steps, by induction on the steps that are taken. -/
theorem isPrefix (h : Starts steps replies invocations passed)
    : invocations <+: steps.map (·.invocation) := by
  induction h with
  | nil => exact List.prefix_refl _
  | stops _ => exact List.prefix_cons_inj _ |>.mpr List.nil_prefix
  | goesOn _ _ ih => exact List.prefix_cons_inj _ |>.mpr ih

/-- If every reply passes, every step starts its process, by induction on the steps that are
taken. -/
theorem length_eq (h : Starts steps replies invocations true)
    : invocations.length = steps.length := by
  generalize all : true = passed at h
  induction h with
  | nil => rfl
  | stops _ => contradiction
  | goesOn _ _ ih => rw [List.length_cons, List.length_cons, ih all]

/-- Steps go on behind steps that have all passed, by induction on the first ones. -/
theorem append (first : Starts steps replies invocations true)
    (rest : Starts later (replies.drop steps.length) more passed)
    : Starts (steps ++ later) replies (invocations ++ more) passed := by
  generalize all : true = complete at first
  induction first with
  | nil => exact rest
  | stops _ => contradiction
  | goesOn passes _ ih =>
      refine goesOn passes (ih ?_ all)
      rwa [List.drop_drop, Nat.add_comm]

/-- Nothing is started behind a step that has not passed, by induction on the steps that are
taken. -/
theorem append_of_stopped (first : Starts steps replies invocations false) (later : List Step)
    : Starts (steps ++ later) replies invocations false := by
  generalize stopped : false = passed at first
  induction first with
  | nil => contradiction
  | stops fails => exact stops fails
  | goesOn passes _ ih => exact goesOn passes (ih stopped)

end Starts

/-- The script behind a number of processes. -/
def Script.play (script : Script) (invocations : List Invocation) : Script where
  replies := script.replies.drop invocations.length
  invocations := script.invocations ++ invocations

/-- Playing no process changes nothing, as no reply is dropped. -/
@[simp]
theorem Script.play_nil (script : Script) : script.play [] = script := by
  simp [play]

/-- Processes are played in two parts, by adding up the replies that are dropped. -/
theorem Script.play_append (script : Script) (invocations more : List Invocation)
    : script.play (invocations ++ more) = (script.play invocations).play more := by
  simp [play, List.drop_drop]

-----------------------------------------------------------------------------------------
-- Programs that run steps
-----------------------------------------------------------------------------------------

/-- What a program gives: `finish` if all of its steps have passed, and otherwise an error. -/
def Ends {ε α : Type} (finish result : Except ε α) : Bool → Prop
  | true => result = finish
  | false => ∃ error, result = .error error

/-- The program starts the processes of the steps; it gives `finish` if all of them pass, and it
fails otherwise. -/
def Runs {ε α : Type} (program : ExceptT ε (StateM Script) α) (replies : List ProcessResult)
    (steps : List Step) (finish : Except ε α) : Prop :=
  ∀ script, script.replies = replies → ∃ result invocations passed,
    exec program script = (result, script.play invocations)
    ∧ Starts steps replies invocations passed
    ∧ Ends finish result passed

namespace Runs

variable {ε ε' α β : Type} {replies : List ProcessResult} {steps later : List Step}
  {program : ExceptT ε (StateM Script) α}

/-- A program that leaves the script as it is runs no step, as nothing has to pass. -/
theorem still {finish : Except ε α} (run : ∀ script, exec program script = (finish, script))
    : Runs program replies [] finish := by
  intro script _
  exact ⟨finish, [], true, by rw [run, Script.play_nil], .nil, rfl⟩

/-- A value is given without a step, by the run of `pure`. -/
theorem pure (a : α)
    : Runs (Pure.pure a : ExceptT ε (StateM Script) α) replies [] (.ok a) :=
  still (fun script => exec_pure a script)

/-- A program that starts one process and judges the reply runs one step, by cases on whether the
reply passes. -/
theorem one {step : Step} {judge : ProcessResult → Except ε α} {finish : Except ε α}
    (run
      : ∀ script : Script,
        exec program script = (judge (reply script.replies 0), script.play [step.invocation]))
    (passes : step.Passes (reply replies 0) → judge (reply replies 0) = finish)
    (fails : ¬step.Passes (reply replies 0) → ∃ error, judge (reply replies 0) = .error error)
    : Runs program replies [step] finish := by
  rintro script rfl
  by_cases passed : step.Passes (reply script.replies 0)
  · exact ⟨_, _, true, run script, .goesOn passed .nil, passes passed⟩
  · exact ⟨_, _, false, run script, .stops passed, fails passed⟩

/-- A program that starts one process and reads something in the reply runs a step that passes if
there is something to be read, by cases on what it makes of the reply. -/
theorem reading {invocation : Invocation} {judge : ProcessResult → Except ε α}
    {Reads : ProcessResult → α → Prop} {finish : Except ε α}
    (run
      : ∀ script : Script,
        exec program script = (judge (reply script.replies 0), script.play [invocation]))
    (reads : ∀ a, judge (reply replies 0) = .ok a ↔ Reads (reply replies 0) a)
    (finishes : ∀ a, Reads (reply replies 0) a → finish = .ok a)
    : Runs program replies [⟨invocation, fun reply => ∃ a, Reads reply a⟩] finish := by
  refine one run ?_ ?_
  · rintro ⟨a, read⟩
    rw [finishes a read, (reads a).mpr read]
  · intro unread
    cases judged : judge (reply replies 0) with
    | ok a => exact absurd ⟨a, (reads a).mp judged⟩ unread
    | error error => exact ⟨error, rfl⟩

/-- Programs run their steps one after the other, by cases on whether the first one fails. -/
theorem bind {a : α} {finish : Except ε β} {next : α → ExceptT ε (StateM Script) β}
    (first : Runs program replies steps (.ok a))
    (rest : Runs (next a) (replies.drop steps.length) later finish)
    : Runs (program >>= next) replies (steps ++ later) finish := by
  rintro script rfl
  obtain ⟨result, invocations, passed, run, starts, ends⟩ := first script rfl
  cases passed with
  | false =>
      obtain ⟨error, rfl⟩ := ends
      exact ⟨.error error, invocations, false, exec_bind_of_error next run,
        starts.append_of_stopped later, error, rfl⟩
  | true =>
      obtain rfl : result = .ok a := ends
      obtain ⟨result, more, passed, goesOn, startsLater, ends⟩ :=
        rest (script.play invocations) (by rw [Script.play, starts.length_eq])
      refine ⟨result, invocations ++ more, passed, ?_, starts.append startsLater, ends⟩
      rw [exec_bind_of_ok next run, goesOn, Script.play_append]

/-- Without a value to go on with nothing more is started, as the program fails either way. -/
theorem bind_error {error : ε} (next : α → ExceptT ε (StateM Script) β)
    (first : Runs program replies steps (.error error))
    : Runs (program >>= next) replies steps (.error error) := by
  intro script given
  obtain ⟨result, invocations, passed, run, starts, ends⟩ := first script given
  cases passed with
  | false =>
      obtain ⟨cause, rfl⟩ := ends
      exact ⟨_, _, _, exec_bind_of_error next run, starts, cause, rfl⟩
  | true =>
      obtain rfl : result = .error error := ends
      exact ⟨_, _, _, exec_bind_of_error next run, starts, rfl⟩

/-- What a program gives is changed without a step, by `bind` or `bind_error`. -/
theorem map {finish : Except ε α} (change : α → β) (first : Runs program replies steps finish)
    : Runs (program >>= fun a => Pure.pure (change a)) replies steps (finish.map change) := by
  cases finish with
  | error error => exact first.bind_error _
  | ok a =>
      have rest
          : Runs (Pure.pure (change a) : ExceptT ε (StateM Script) β)
              (replies.drop steps.length) [] (.ok (change a)) :=
        .pure _
      rw [← List.append_nil steps]
      exact first.bind rest

/-- Errors are changed without a step, by cases on whether the program fails. -/
theorem adapt {finish : Except ε α} (change : ε → ε') (first : Runs program replies steps finish)
    : Runs (program.adapt change) replies steps (finish.mapError change) := by
  intro script given
  obtain ⟨result, invocations, passed, run, starts, ends⟩ := first script given
  refine ⟨result.mapError change, invocations, passed, by rw [exec_adapt, run], starts, ?_⟩
  cases passed with
  | false =>
      obtain ⟨error, rfl⟩ := ends
      exact ⟨change error, rfl⟩
  | true =>
      obtain rfl : result = finish := ends
      rfl

end Runs

end CellRunner.Tmux

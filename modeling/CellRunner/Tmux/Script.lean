import CellRunner.Tmux.Process

/-!
A scripted tmux: every process gets the next reply of a script, whatever it asks for, and is
recorded. After the last reply the processes print nothing and succeed.
-/

namespace CellRunner.Tmux

/-- A process that was started, and the text it got. -/
structure Invocation where
  program : String
  args : List String
  input : String
deriving DecidableEq, Repr

structure Script where
  replies : List ProcessResult
  /-- The processes started so far, the first one first. -/
  invocations : List Invocation := []

namespace Script

def serve (invocation : Invocation) : StateM Script ProcessResult := do
  let script ← get
  set
    { script with
      replies := script.replies.tail,
      invocations := script.invocations ++ [invocation] }
  return script.replies.head?.getD {}

def runner : ProcessRunner (StateM Script) where
  run program args input := serve ⟨program, args, input.getD ""⟩

end Script

end CellRunner.Tmux

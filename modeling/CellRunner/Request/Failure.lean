import CellRunner.Session.Setup
import CellRunner.Text.Decimal

/-!
Failures of requests. A failure says what was being done and then gives its causes, the nearest
one first; the cause of a cause repeats the end of its message.
-/

namespace CellRunner

structure Failure where
  /-- What failed. -/
  subject : String
  causes : List String
deriving DecidableEq, Repr

def HostError.causes (error : HostError) : List String :=
  match error with
  | .spawn _ cause => [error.message, cause]
  | _ => [error.message]

def SessionError.causes (error : SessionError) : List String :=
  match error with
  | .host error => error.causes
  | .chooser cause => [error.message, cause]

namespace Failure

/-- The failure on one line. -/
def line (failure : Failure) : String :=
  ": ".intercalate (failure.subject :: failure.causes)

/-- A cause's lines; the first one is led by `lead`, the later ones are indented by as much. -/
def indent (lead : String) (cause : String) : String :=
  match Text.fields (· == '\n') cause.toList with
  | [] => lead
  | first :: rest =>
      "\n".intercalate
        ((lead ++ String.ofList first)
          :: rest.map (fun line => String.ofList (lead.toList.map (fun _ => ' ') ++ line)))

/-- Several causes are numbered from zero. -/
def causeBlocks : List String → List String
  | [cause] => [indent "    " cause]
  | causes =>
      causes.mapIdx (fun n cause => indent ("    " ++ Text.Decimal.write n ++ ": ") cause)

/-- The failure as it is shown to the user. -/
def report (failure : Failure) : String :=
  if failure.causes.isEmpty then failure.subject
  else
    failure.subject ++ "\n\nCaused by:\n" ++ "\n".intercalate (causeBlocks failure.causes)

end Failure

end CellRunner

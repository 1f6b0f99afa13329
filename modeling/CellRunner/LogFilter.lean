import CellRunner.LogFilter.Directive

/-!
A log filter is a list of directives with commas between them. Those that are wrong have no
effect, and each is reported.
-/

namespace CellRunner.LogFilter

/-- The directives of a filter. -/
def directives (filter : String) : List (List Char) :=
  (Text.fields (· == ',') filter.toList).filter (fun directive => !directive.isEmpty)

def refusal? (directive : List Char) : Option String :=
  match Directive.check directive with
  | .ok () => none
  | .error error =>
      some ("ignoring \x60" ++ String.ofList directive ++ "\x60: " ++ error.message)

/-- A line for each directive that is wrong, in the order of the filter. -/
def refusals (filter : String) : List String :=
  (directives filter).filterMap refusal?

end CellRunner.LogFilter

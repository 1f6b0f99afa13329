import CellRunner.Request.Basic

/-!
The command line: options for the program, then a subcommand with its own arguments. Arguments
are read from left to right and the first one that is wrong is reported; what the arguments
of `send` leave out is found missing at the end.
-/

namespace CellRunner.CommandLine

inductive ArgumentError where
  /-- An argument that has to be there, or the value of a flag. -/
  | missing (what : String)
  | invalidValue (flag value : String)
  | incompleteRange
  | conflictingRange
  | unknown (argument : String)
deriving DecidableEq, Repr

def ArgumentError.message : ArgumentError → String
  | .missing what => "Missing " ++ what
  | .invalidValue flag value => "Invalid value for " ++ flag ++ ": " ++ value
  | .incompleteRange => "--since and --before must be given together"
  | .conflictingRange => "Use either a line range or --selection, not both"
  | .unknown argument => "Unknown argument: " ++ argument ++ ". Use -h for help."

inductive Request where
  | lenses (path : String) (json : Bool)
  | openSession (command : Option String)
  | send (request : SendRequest)
  | sessions
deriving DecidableEq, Repr

inductive Action where
  | request (request : Request)
  | help
  | version
deriving DecidableEq, Repr

structure Invocation where
  /-- Where project files are looked for, other than in the working directory. -/
  workspace : Option String
  logLevel : Option String
  action : Action
deriving DecidableEq, Repr

/-- Whether an argument may only be a flag. -/
def isLongFlag (argument : String) : Bool :=
  "--".toList.isPrefixOf argument.toList

/-! ### Values -/

/-- The end of a range is a line, or `end` or `-1` for the end of the document. -/
def readRangeEnd? (value : String) : Option RangeEnd :=
  if value = "end" || value = "-1" then some .endOfDocument
  else (Text.Decimal.readWord? value).map .line

/-- A line and a character with a colon between them. -/
def readPosition? (value : List Char) : Option Position := do
  let (line, character) ← Text.cutAt ':' value
  return ⟨← Text.Decimal.readWord? (String.ofList line),
    ← Text.Decimal.readWord? (String.ofList character)⟩

/-- Two positions with a dash between them, in any order. -/
def readSelection? (value : String) : Option Selection := do
  let (start, stop) ← Text.cutAt '-' value.toList
  return .between (← readPosition? start) (← readPosition? stop)

/-! ### Arguments of `send` -/

inductive SendFlag where
  | since
  | before
  | selection
  | command
deriving DecidableEq, Repr

namespace SendFlag

def text : SendFlag → String
  | since => "--since"
  | before => "--before"
  | selection => "--selection"
  | command => "--cmd"

def ofText? (argument : String) : Option SendFlag :=
  [since, before, selection, command].find? (fun flag => flag.text = argument)

theorem ofText?_text (flag : SendFlag)
    : ofText? flag.text = some flag := by
  cases flag <;> decide

end SendFlag

/-- What has been read of a request so far. -/
structure SendDraft where
  path : Option String := none
  since : Option Nat := none
  before : Option RangeEnd := none
  selection : Option Selection := none
  command : Option String := none
deriving DecidableEq, Repr

namespace SendDraft

/-- Nothing for a value that the flag cannot have. A later value replaces an earlier one. -/
def set? (draft : SendDraft) (flag : SendFlag) (value : String) : Option SendDraft :=
  match flag with
  | .since =>
      (Text.Decimal.readWord? value).map (fun line => { draft with since := some line })
  | .before => (readRangeEnd? value).map (fun stop => { draft with before := some stop })
  | .selection =>
      (readSelection? value).map (fun selection => { draft with selection := some selection })
  | .command => some { draft with command := some value }

/-- Takes the path; there can only be one. -/
def addPath (draft : SendDraft) (argument : String) : Except ArgumentError SendDraft :=
  if isLongFlag argument || draft.path.isSome then .error (.unknown argument)
  else .ok { draft with path := some argument }

def read (draft : SendDraft) : List String → Except ArgumentError SendDraft
  | [] => .ok draft
  | argument :: rest =>
      match SendFlag.ofText? argument with
      | none =>
          match draft.addPath argument with
          | .ok next => next.read rest
          | .error error => .error error
      | some flag =>
          match rest with
          | [] => .error (.missing flag.text)
          | value :: rest =>
              match draft.set? flag value with
              | some next => next.read rest
              | none => .error (.invalidValue flag.text value)

def range (draft : SendDraft) : Except ArgumentError (Option LineRange) :=
  match draft.since, draft.before with
  | some since, some before => .ok (some ⟨since, before⟩)
  | none, none => .ok none
  | _, _ => .error .incompleteRange

def finish (draft : SendDraft) : Except ArgumentError SendRequest := do
  let range ← draft.range
  if range.isSome && draft.selection.isSome then throw .conflictingRange
  match draft.path with
  | none => throw (.missing "source file")
  | some path => return ⟨path, range, draft.selection, draft.command⟩

end SendDraft

def readSend (arguments : List String) : Except ArgumentError SendRequest := do
  (← SendDraft.read {} arguments).finish

/-! ### Subcommands and options -/

def readLenses (path : Option String) (json : Bool) : List String → Except ArgumentError Request
  | [] =>
      match path with
      | none => .error (.missing "source file")
      | some path => .ok (.lenses path json)
  | argument :: rest =>
      if argument = "--json" then readLenses path true rest
      else if isLongFlag argument || path.isSome then .error (.unknown argument)
      else readLenses (some argument) json rest

/-- The arguments of `new` are one command. -/
def readOpen (arguments : List String) : Request :=
  .openSession (if arguments.isEmpty then none else some (" ".intercalate arguments))

def readSessions : List String → Except ArgumentError Request
  | [] => .ok .sessions
  | argument :: _ => .error (.unknown argument)

def readRequest (name : String) (arguments : List String) : Except ArgumentError Request :=
  match name with
  | "lenses" => readLenses none false arguments
  | "new" => .ok (readOpen arguments)
  | "send" => (readSend arguments).map .send
  | "sessions" => readSessions arguments
  | _ => .error (.unknown name)

/-- Options that have been read before the subcommand. -/
structure Options where
  workspace : Option String := none
  logLevel : Option String := none
deriving DecidableEq, Repr

namespace Options

def invoke (options : Options) (action : Action) : Invocation :=
  ⟨options.workspace, options.logLevel, action⟩

/-- Help and version are given at once, whatever follows; a command line without a subcommand
asks for help. -/
def read (options : Options) : List String → Except ArgumentError Invocation
  | [] => .ok (options.invoke .help)
  | argument :: rest =>
      match argument with
      | "-h" | "--help" => .ok (options.invoke .help)
      | "-v" | "--version" => .ok (options.invoke .version)
      | "-w" | "--workspace" =>
          match rest with
          | [] => .error (.missing "workspace directory")
          | directory :: rest => { options with workspace := some directory }.read rest
      | "--log-level" =>
          match rest with
          | [] => .error (.missing "log level")
          | level :: rest => { options with logLevel := some level }.read rest
      | _ => (readRequest argument rest).map (fun request => options.invoke (.request request))

end Options

def Invocation.ofArguments (arguments : List String) : Except ArgumentError Invocation :=
  Options.read {} arguments

end CellRunner.CommandLine

import VersionBump.Level
import VersionBump.Path
import VersionBump.Render.Format

/-!
# Command lines

The arguments of the program: one of three commands with its operands and options. An option with a
value takes it from the same argument or from the next one. A value is checked when the next option
or operand with a meaning is met, or at the end; so the complaint about an unknown argument right
behind it comes first.

* `Invocation.read` reads the arguments.
-/

namespace VersionBump.CommandLine

open Render (Format)

/-- What the program is asked to do. -/
inductive Command where
  | compare (before after : Path) (allowed : Option Level) (format : Format) (output : Option Path)
      (contexts : Option (List String))
  | codes (format : Format) (config : Option Path)
  | init (path : Path)
  deriving DecidableEq, Repr

/-- A command, and whether its steps are logged. -/
structure Invocation where
  verbose : Bool
  command : Command
  deriving DecidableEq, Repr

/-- Why the arguments are no invocation. Asking for help or for the version is no mistake. -/
inductive ArgumentError where
  | helpRequested
  | versionRequested
  | nothingGiven
  | commandMissing
  | commandUnknown
  | argumentUnknown
  | argumentMissing
  | argumentRepeated
  | valueUnexpected
  | valueInvalid
  | valueRejected
  deriving DecidableEq, Repr

/-! ## Values -/

/-- What a value is for. -/
inductive Slot where
  | before
  | after
  | path
  | allowed
  | format
  | output
  | contexts
  | config
  deriving DecidableEq, Repr

/-- The values that are given. -/
structure Given where
  before : Option Path := none
  after : Option Path := none
  path : Option Path := none
  allowed : Option Level := none
  format : Option Format := none
  output : Option Path := none
  contexts : Option (List String) := none
  config : Option Path := none

/-- A path is not empty. -/
def readPath (text : String) : Except ArgumentError Path :=
  if text = "" then .error .valueInvalid else .ok ⟨text⟩

/-- A format is one of the keywords. -/
def readFormat (text : String) : Except ArgumentError Format :=
  match Format.ofName? text with
  | some f => .ok f
  | none => .error .valueInvalid

/-- A level is written in any of its ways. -/
def readLevel (text : String) : Except ArgumentError Level :=
  match Level.parse? text with
  | some l => .ok l
  | none => .error .valueRejected

/-- Fills a place that takes one value only. -/
def fill {α : Type} (old : Option α) (read : String → Except ArgumentError α) (text : String) :
    Except ArgumentError (Option α) :=
  if old.isSome then .error .argumentRepeated else (read text).map some

/-- The values with one more. Contexts are separated by commas, and add to those given before. -/
def Given.put (g : Given) (slot : Slot) (text : String) : Except ArgumentError Given := do
  match slot with
  | .before => return { g with before := ← fill g.before readPath text }
  | .after => return { g with after := ← fill g.after readPath text }
  | .path => return { g with path := ← fill g.path readPath text }
  | .allowed => return { g with allowed := ← fill g.allowed readLevel text }
  | .format => return { g with format := ← fill g.format readFormat text }
  | .output => return { g with output := ← fill g.output readPath text }
  | .contexts => return { g with contexts := some (g.contexts.getD [] ++ Text.splitAt ',' text) }
  | .config => return { g with config := ← fill g.config readPath text }

/-! ## The arguments of a command -/

/-- What an option does. -/
inductive Switch where
  | help
  | verbose
  | value (slot : Slot)
  deriving DecidableEq, Repr

/-- An option with its long and its short name. -/
structure OptionName where
  long : String
  short : Option Char
  switch : Switch

/-- The commands by name. -/
inductive Verb where
  | compare
  | codes
  | init
  deriving DecidableEq, Repr

/-- The command of a name. -/
def Verb.ofName? : String → Option Verb
  | "compare" => some compare
  | "codes" => some codes
  | "init" => some init
  | _ => none

/-- The options of every command. -/
def commonOptions : List OptionName :=
  [⟨"help", some 'h', .help⟩, ⟨"verbose", some 'v', .verbose⟩]

/-- The options of a command. -/
def Verb.options : Verb → List OptionName
  | compare =>
    commonOptions ++
      [⟨"allowed-level", none, .value .allowed⟩, ⟨"format", some 'f', .value .format⟩,
       ⟨"output", some 'o', .value .output⟩, ⟨"contexts", none, .value .contexts⟩]
  | codes =>
    commonOptions ++ [⟨"format", some 'f', .value .format⟩, ⟨"config", none, .value .config⟩]
  | init => commonOptions

/-- The operands of a command. -/
def Verb.operands : Verb → List Slot
  | compare => [.before, .after]
  | codes => []
  | init => [.path]

/-- The arguments read so far. A value that is not checked yet is pending, and missing as long as it
may be the next argument. -/
structure Reading where
  verbose : Bool := false
  given : Given := {}
  pending : Option (Slot × Option String) := none
  operands : List Slot

namespace Reading

/-- Checks the pending value. -/
def settle (r : Reading) : Except ArgumentError Reading :=
  match r.pending with
  | none => .ok r
  | some (_, none) => .error .valueInvalid
  | some (slot, some text) => do return { r with given := ← r.given.put slot text, pending := none }

/-- Takes an operand. -/
def takeOperand (r : Reading) (text : String) : Except ArgumentError Reading :=
  match r.operands with
  -- The pending value is not looked at: an argument too many is the graver mistake.
  | [] => .error .argumentUnknown
  | slot :: operands => do
    let r ← r.settle
    return { r with pending := some (slot, some text), operands }

/-- Takes the value that an option waits for, or else an operand. -/
def takePlain (r : Reading) (text : String) : Except ArgumentError Reading :=
  match r.pending with
  -- What does not look like an option is the value, even if it is empty.
  | some (slot, none) => .ok { r with pending := some (slot, some text) }
  | _ => r.takeOperand text

/-- Takes an option without a value of its own in the same argument. -/
def takeSwitch (r : Reading) (switch : Switch) : Except ArgumentError Reading := do
  let r ← r.settle
  match switch with
  | .help => .error .helpRequested
  | .verbose => if r.verbose then .error .argumentRepeated else return { r with verbose := true }
  | .value slot => return { r with pending := some (slot, none) }

/-- Takes an option with its value in the same argument. -/
def takeAttached (r : Reading) (switch : Switch) (text : String) : Except ArgumentError Reading :=
  match switch with
  | .value slot => do
    let r ← r.settle
    -- An attached value is complete, so it is checked at once.
    { r with pending := some (slot, some text) }.settle
  | _ => .error .valueUnexpected

/-- Takes an option by its long name. -/
def takeLong (r : Reading) (options : List OptionName) (cs : List Char) :
    Except ArgumentError Reading :=
  let name := String.ofList (cs.takeWhile (· != '='))
  match options.find? (·.long = name) with
  | none => .error .argumentUnknown
  | some option =>
    match cs.dropWhile (· != '=') with
    | [] => r.takeSwitch option.switch
    | _ :: text => r.takeAttached option.switch (String.ofList text)

/-- Takes options by their short names. What stands behind an option with a value is its value, with
or without an equals sign. -/
def takeShort (r : Reading) (options : List OptionName) : List Char → Except ArgumentError Reading
  | [] => .ok r
  | c :: cs =>
    match options.find? (·.short = some c) with
    | none => .error .argumentUnknown
    | some option =>
      match option.switch, cs with
      -- The rest of the argument belongs to this option.
      | .value _, d :: ds =>
        r.takeAttached option.switch (String.ofList (if d = '=' then ds else d :: ds))
      | switch, cs => do (← r.takeSwitch switch).takeShort options cs

/-- Takes the arguments of a command. Two dashes end the options. -/
def takeAll (options : List OptionName) : Reading → List String → Except ArgumentError Reading
  | r, [] => r.settle
  | r, arg :: rest =>
    match arg.toList with
    | ['-', '-'] => do (← rest.foldlM takeOperand r).settle
    | '-' :: '-' :: cs => do takeAll options (← r.takeLong options cs) rest
    | '-' :: c :: cs => do takeAll options (← r.takeShort options (c :: cs)) rest
    | _ => do takeAll options (← r.takePlain arg) rest

end Reading

/-- The command for some values. Both directories of a comparison must be given. -/
def Verb.command (v : Verb) (g : Given) : Except ArgumentError Command :=
  let format := g.format.getD .markdown
  match v with
  | compare =>
    match g.before, g.after with
    | some before, some after =>
      .ok (.compare before after g.allowed format g.output g.contexts)
    | _, _ => .error .argumentMissing
  | codes => .ok (.codes format g.config)
  | init => .ok (.init (g.path.getD ⟨"."⟩))

/-- Reads the arguments behind the name of a command. -/
def Verb.read (v : Verb) (verbose : Bool) (args : List String) :
    Except ArgumentError Invocation := do
  let r ← Reading.takeAll v.options { operands := v.operands } args
  return ⟨verbose || r.verbose, ← v.command r.given⟩

/-! ## The arguments of the program -/

/-- The name of the command that asks for help. -/
def helpName : String := "help"

/-- Whether a text is the name of a command, the request for help included. -/
def isCommandName (name : String) : Bool := (Verb.ofName? name).isSome || name = helpName

/-- What a request for help amounts to: at most one command may be named in it. -/
def readHelp : List String → ArgumentError
  | [] => .helpRequested
  | [name] => if isCommandName name then .helpRequested else .commandUnknown
  | _ => .commandUnknown

/-- What is wrong with arguments that have ended their options before a command. -/
def readTrailing (verbose : Bool) : List String → ArgumentError
  | [] => if verbose then .commandMissing else .nothingGiven
  | name :: _ =>
    if isCommandName name then .argumentUnknown else .commandUnknown

/-- Takes options in front of the command by their short names. The answer is whether steps are
logged. -/
def takeEarlyShort (verbose : Bool) : List Char → Except ArgumentError Bool
  | [] => .ok verbose
  | c :: cs =>
    if c = 'h' then .error .helpRequested
    else if c = 'V' then .error .versionRequested
    else if c ≠ 'v' then .error .argumentUnknown
    else if verbose then .error .argumentRepeated
    else takeEarlyShort true cs

/-- Takes an option in front of the command by its long name. -/
def takeEarlyLong (verbose : Bool) (cs : List Char) : Except ArgumentError Bool :=
  let name := String.ofList (cs.takeWhile (· != '='))
  -- An unknown name is complained about before a value that does not belong there.
  if name ≠ "help" && name ≠ "version" && name ≠ "verbose" then .error .argumentUnknown
  else if cs.contains '=' then .error .valueUnexpected
  else if name = "help" then .error .helpRequested
  else if name = "version" then .error .versionRequested
  else if verbose then .error .argumentRepeated
  else .ok true

/-- Reads arguments, `verbose` being whether logging has been asked for. -/
def readFrom (verbose : Bool) : List String → Except ArgumentError Invocation
  | [] => .error (if verbose then .commandMissing else .nothingGiven)
  | arg :: rest =>
    match Verb.ofName? arg with
    | some verb => verb.read verbose rest
    | none =>
      if arg = helpName then .error (readHelp rest)
      else
        match arg.toList with
        | ['-', '-'] => .error (readTrailing verbose rest)
        | '-' :: '-' :: cs => do readFrom (← takeEarlyLong verbose cs) rest
        | '-' :: c :: cs => do readFrom (← takeEarlyShort verbose (c :: cs)) rest
        | _ => .error .commandUnknown

/-- Reads the arguments of the program. -/
def Invocation.read (args : List String) : Except ArgumentError Invocation := readFrom false args

end VersionBump.CommandLine

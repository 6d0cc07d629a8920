import ManifestMarkers.Text.Basic

/-!
# Arguments of the command line

Options may stand before or after the command, which is the first argument that is no option; what
follows it are files. An option is given at most once on either side of the command, and the later
side counts.

* `State.step` takes one argument; `Invocation.parse` takes all.
-/

namespace ManifestMarkers.Cli

/-- How results are written. -/
inductive Format
  | text
  | json
  deriving DecidableEq, Repr

/-- The commands. -/
inductive CommandName
  | inspect
  | fields
  | transform
  deriving DecidableEq, Repr

/-- The command with a name. -/
def CommandName.ofText? : String → Option CommandName
  | "inspect" => some .inspect
  | "fields" => some .fields
  | "transform" => some .transform
  | _ => none

/-- What to do with files. Without files it is done with those of the settings. -/
inductive Command
  /-- List the markers. -/
  | inspect (files : List String) (format : Format)
  /-- List the fields that the markers produce. -/
  | fields (files : List String) (format : Format)
  /-- Write the manifests with placeholders, or what changes. -/
  | transform (files : List String) (showDiff : Bool)
  deriving DecidableEq, Repr

/-- The files that a command names. -/
def Command.files : Command → List String
  | inspect files _ | fields files _ | transform files _ => files

/-- A command line. -/
structure Invocation where
  command : Option Command := none
  /-- The root of the project. -/
  path : Option String := none
  verbose : Bool := false
  noColor : Bool := false
  deriving DecidableEq, Repr

/-- Why a command line is not run. -/
inductive Refusal
  /-- The arguments are wrong. -/
  | usage
  /-- Help was asked for. -/
  | help
  /-- The version was asked for. -/
  | version
  deriving DecidableEq, Repr

/-- The options. -/
inductive Flag
  | path
  | verbose
  | noColor
  | format
  | diff
  | help
  | version
  deriving DecidableEq, Repr

/-- What the arguments on one side of the command give. -/
structure Given where
  path : Option String := none
  format : Option Format := none
  verbose : Bool := false
  noColor : Bool := false
  diff : Bool := false
  files : List String := []
  deriving DecidableEq, Repr

/-- Where arguments stand. -/
inductive Mode
  /-- Before the command. -/
  | start
  | after (command : CommandName)
  /-- After a request for help, on one command or in general. -/
  | help (isNamed : Bool)
  deriving DecidableEq, Repr

/-- The arguments so far. -/
structure State where
  mode : Mode := .start
  /-- What was given before the command. -/
  outer : Given := {}
  /-- What was given on this side of the command. -/
  given : Given := {}
  /-- The option that waits for its value. -/
  pending : Option Flag := none
  /-- Whether no more options follow. -/
  isClosed : Bool := false
  deriving DecidableEq, Repr

/-- The option with a long name. -/
def Flag.ofLong? : String → Option Flag
  | "path" => some .path
  | "verbose" => some .verbose
  | "no-color" => some .noColor
  | "format" => some .format
  | "diff" => some .diff
  | "help" => some .help
  | "version" => some .version
  | _ => none

/-- The option with a short name. -/
def Flag.ofShort? : Char → Option Flag
  | 'p' => some .path
  | 'v' => some .verbose
  | 'h' => some .help
  | 'V' => some .version
  | _ => none

/-- Whether an option takes a value. -/
def Flag.takesValue : Flag → Bool
  | path | format => true
  | _ => false

/-- Where an option may stand. -/
def Flag.isAllowed (flag : Flag) (mode : Mode) : Bool :=
  match flag, mode with
  | .version, mode => mode == .start
  | .format, mode => mode == .after .inspect || mode == .after .fields
  | .diff, mode => mode == .after .transform
  | _, _ => true

/-- The format with a name. -/
def Format.ofText? : String → Option Format
  | "text" => some .text
  | "json" => some .json
  | _ => none

namespace Given

/-- Set an option without value. -/
def setFlag (g : Given) (flag : Flag) : Except Refusal Given :=
  match flag with
  | .verbose => if g.verbose then .error .usage else .ok { g with verbose := true }
  | .noColor => if g.noColor then .error .usage else .ok { g with noColor := true }
  | .diff => if g.diff then .error .usage else .ok { g with diff := true }
  | .help => .error .help
  | .version => .error .version
  | _ => .error .usage

/-- Set an option to a value. -/
def setValue (g : Given) (flag : Flag) (value : String) : Except Refusal Given :=
  match flag with
  | .path =>
    if g.path.isSome || value.isEmpty then .error .usage else .ok { g with path := some value }
  | .format => match g.format, Format.ofText? value with
    | none, some format => .ok { g with format := some format }
    | _, _ => .error .usage
  | _ => .error .usage

/-- Add a file. -/
def addFile (g : Given) (file : String) : Except Refusal Given :=
  if file.isEmpty then .error .usage else .ok { g with files := g.files ++ [file] }

end Given

namespace State

/-- Replace what was given. -/
def withGiven (s : State) (given : Except Refusal Given) : Except Refusal State :=
  given.map fun given => { s with given }

/-- Take an argument that is no option: a command or a file. -/
def positional (s : State) (arg : String) : Except Refusal State :=
  match s.mode with
  | .after _ => s.withGiven (s.given.addFile arg)
  | .help isNamed =>
    if !isNamed && ((CommandName.ofText? arg).isSome || arg == "help") then
      .ok { s with mode := .help true }
    else .error .usage
  | .start =>
    if s.isClosed then .error .usage
    else if arg = "help" then .ok { s with mode := .help false }
    else match CommandName.ofText? arg with
      | some command => .ok { s with mode := .after command, outer := s.given, given := {} }
      | none => .error .usage

/-- Take an option. `value?` is a value that is attached to it. -/
def option (s : State) (flag? : Option Flag) (value? : Option String) : Except Refusal State :=
  match flag? with
  | none => .error .usage
  | some flag =>
    if flag.isAllowed s.mode then
      match flag.takesValue, value? with
      | true, some value => s.withGiven (s.given.setValue flag value)
      | true, none => .ok { s with pending := some flag }
      | false, none => s.withGiven (s.given.setFlag flag)
      | false, some _ => .error .usage
    else .error .usage

/-- Take an option with a long name, after the dashes. -/
def long (s : State) (cs : List Char) : Except Refusal State :=
  let name := cs.takeWhile (· != '=')
  let value? := match cs.drop name.length with
    | _ :: value => some (String.ofList value)
    | [] => none
  s.option (Flag.ofLong? (String.ofList name)) value?

/-- Take options with short names, after the dash. A value may be attached to the last one. -/
def shorts (s : State) : List Char → Except Refusal State
  | [] => .ok s
  | c :: cs =>
    let flag? := Flag.ofShort? c
    if flag?.any Flag.takesValue && !cs.isEmpty then
      let value := match cs with
        | '=' :: value => value
        | value => value
      s.option flag? (some (String.ofList value))
    else match s.option flag? none with
      | .ok s => s.shorts cs
      | .error e => .error e

/-- Take one argument. -/
def step (s : State) (arg : String) : Except Refusal State :=
  if s.isClosed || s.mode matches .help _ then s.positional arg
  else match arg.toList with
    | ['-', '-'] => if s.pending.isSome then .error .usage else .ok { s with isClosed := true }
    | '-' :: '-' :: cs => if s.pending.isSome then .error .usage else s.long cs
    | '-' :: c :: cs => if s.pending.isSome then .error .usage else s.shorts (c :: cs)
    | _ => match s.pending with
      | some flag => { s with pending := none }.withGiven (s.given.setValue flag arg)
      | none => s.positional arg

/-- The command line of all arguments. -/
def finish (s : State) : Except Refusal Invocation :=
  let inner := s.given
  let options (outer : Given) (command : Option Command) : Invocation :=
    { command
      path := inner.path.or outer.path
      verbose := inner.verbose || outer.verbose
      noColor := inner.noColor || outer.noColor }
  if s.pending.isSome then .error .usage
  else
    let format := inner.format.getD .text
    match s.mode with
    | .start => .ok (options {} none)
    | .help _ => .error .help
    | .after .inspect => .ok (options s.outer (some (.inspect inner.files format)))
    | .after .fields => .ok (options s.outer (some (.fields inner.files format)))
    | .after .transform => .ok (options s.outer (some (.transform inner.files inner.diff)))

end State

/-- Read the arguments. -/
def Invocation.parse (args : List String) : Except Refusal Invocation :=
  match args.foldlM State.step {} with
  | .ok s => s.finish
  | .error e => .error e

end ManifestMarkers.Cli

import ManifestMarkers.Cli.Arguments
import ManifestMarkers.Cli.Listing
import ManifestMarkers.FileTree
import ManifestMarkers.Placeholder

/-!
# The command line

A run is a function of the arguments, the surroundings and the files: what it writes and how it
ends. Files are taken one after the other, so what was written before a fault stays.
-/

namespace ManifestMarkers.Cli

/-- How a run ends. -/
inductive Ending
  | success
  /-- No command was given. -/
  | noCommand
  | refused (r : Refusal)
  /-- Something outside of manifests and settings is wrong. -/
  | failed (reason : String)
  /-- A manifest or the settings are at fault. -/
  | fault (f : Fault)
  deriving Repr

/-- The exit code. -/
def Ending.exitCode : Ending → Nat
  | success | refused .help | refused .version => 0
  | noCommand => 1
  | refused .usage | failed _ | fault _ => 2

/-- What a run writes. -/
structure Output where
  stdout : String := ""
  stderr : String := ""
  deriving DecidableEq, Repr

/-- One output after another. -/
def Output.append (a b : Output) : Output := ⟨a.stdout ++ b.stdout, a.stderr ++ b.stderr⟩

/-- What a run writes, and what it gives unless it ends early. -/
structure Run (α : Type) where
  output : Output
  result : Except Ending α

namespace Run

variable {α β : Type}

/-- Write nothing. -/
def pure (a : α) : Run α := ⟨{}, .ok a⟩

/-- End early. -/
def stop (e : Ending) : Run α := ⟨{}, .error e⟩

/-- Write to standard output. -/
def print (text : String) : Run Unit := ⟨{ stdout := text }, .ok ()⟩

/-- Write to standard error. -/
def printError (text : String) : Run Unit := ⟨{ stderr := text }, .ok ()⟩

/-- Go on with what a run gives. -/
def bind (r : Run α) (f : α → Run β) : Run β :=
  match r.result with
  | .error e => ⟨r.output, .error e⟩
  | .ok a => ⟨r.output.append (f a).output, (f a).result⟩

instance : Monad Run where
  pure := pure
  bind := bind

/-- Write something only under a condition. -/
def onlyIf (condition : Bool) (r : Run Unit) : Run Unit := if condition then r else pure ()

end Run

/-- What a run depends on besides its arguments. -/
structure Surroundings where
  workingDirectory : String
  /-- Whether colours are switched off from outside. -/
  noColor : Bool
  files : Files

/-- A project, and how its results are written. -/
structure Project where
  root : String
  settings : Settings
  files : Files
  colours : Bool
  verbose : Bool

/-- The root of the project of a command line. -/
def Invocation.root (i : Invocation) (workingDirectory : String) : String :=
  i.path.getD workingDirectory

namespace Project

/-- Find the project of a command line. -/
def load (i : Invocation) (s : Surroundings) : Run Project := do
  let root := i.root s.workingDirectory
  let settings ← match s.files.settings? root with
    | .ok settings? => Run.pure (settings?.getD {})
    | .error e => Run.stop (.fault e)
  Run.onlyIf i.verbose (Run.printError (match s.files.settingsPath? root with
    | some path => "Using config: " ++ path ++ "\n"
    | none => "No markers.toml found in " ++ root ++ "\n"))
  return {
    root
    settings
    files := s.files
    colours := !i.noColor && !s.noColor
    verbose := i.verbose }

/-- The manifests that are named, or those of the settings. -/
def manifests (p : Project) (named : List String) : List String :=
  if named.isEmpty then p.settings.resourcePaths p.root else named

/-- The manifests, of which there is at least one. -/
def someManifests (p : Project) (named : List String) : Run (List String) :=
  let paths := p.manifests named
  if paths.isEmpty then
    Run.stop (.failed "no manifest files given and markers.toml lists no resources")
  else Run.pure paths

/-- A path as it is shown. -/
def shown (p : Project) (path : String) : String := Path.relative p.root path

/-- Read a manifest and do something with its text. -/
def readManifest (p : Project) (path : String)
    (process : String → Except Fault (Manifest × Inspection)) :
    Run (String × Manifest × Inspection) := do
  let source ← match p.files.read path with
    | .ok source => Run.pure source
    | .error e => Run.stop (.failed ("failed to read " ++ path ++ ": " ++ e.text))
  match process source with
  | .error e =>
    Run.printError (paint p.colours .red "error in" ++ " " ++ path ++ "\n")
    Run.stop (.fault e)
  | .ok (manifest, inspection) =>
    Run.printError (String.join (inspection.warnings.map (warningLine p.colours (p.shown path))))
    return (source, manifest, inspection)

/-- The findings in manifests, with the paths as they are shown. -/
def findings (p : Project) : List String → Run (List (String × List Finding))
  | [] => Run.pure []
  | path :: paths => do
    let (_, _, inspection) ← p.readManifest path (Manifest.inspectText operatorRegistry)
    let rest ← p.findings paths
    return (p.shown path, inspection.findings) :: rest

/-- What is written for each finding, file by file. -/
def eachFinding {β : Type} (write : String → Finding → β) (found : List (String × List Finding)) :
    List β :=
  found.flatMap fun (file, findings) => findings.map (write file)

/-- List the markers. -/
def inspect (p : Project) (files : List String) (format : Format) : Run Unit := do
  let found ← p.findings (← p.someManifests files)
  match format with
  | .json => Run.print ((Json.array (eachFinding findingJson found)).pretty ++ "\n")
  | .text =>
    let lines := eachFinding (findingLine p.colours) found
    if lines.isEmpty then Run.print "No markers found.\n"
    else
      Run.print (String.join lines)
      Run.onlyIf p.verbose (Run.print ("\n" ++ toString lines.length ++ " marker(s) in " ++
        toString found.length ++ " file(s)\n"))

/-- List the fields. -/
def fields (p : Project) (files : List String) (format : Format) : Run Unit := do
  let found ← p.findings (← p.someManifests files)
  let fields := specFields (found.flatMap Prod.snd) p.settings.collection
  match format with
  | .json => Run.print ((Json.array (fields.map fieldJson)).pretty ++ "\n")
  | .text =>
    if fields.isEmpty then Run.print "No fields found.\n"
    else Run.print (String.join (fields.map (fieldLines p.verbose)))

/-- The lines about the guard of a resource marker. -/
def guardLines (file : String) (f : Finding) : String :=
  match f.marker with
  | .resource r => file ++ ":" ++ toString f.line ++ " include guard:\n\t" ++ r.guard ++ "\n"
  | _ => ""

/-- Write one manifest with placeholders, or what changes. -/
def transformOne (p : Project) (showDiff isOneOfMany : Bool) (path : String) : Run Unit := do
  let (source, manifest, inspection) ← p.readManifest path
    (Manifest.transformText operatorRegistry p.settings.placeholders true)
  let file := p.shown path
  let collection := p.settings.collection
  let yaml :=
    if collection.enabled && collection.resources then collectionToParent manifest.text
    else manifest.text
  Run.onlyIf p.verbose
    (Run.printError (String.join (inspection.findings.map (guardLines file))))
  if showDiff then
    Run.print (paint p.colours .bold ("--- " ++ file) ++ "\n" ++ diffLines p.colours source yaml)
  else
    Run.onlyIf isOneOfMany (Run.print ("# source: " ++ file ++ "\n"))
    Run.print yaml

/-- Write manifests, one after the other. -/
def transformEach (p : Project) (showDiff isOneOfMany : Bool) : List String → Run Unit
  | [] => Run.pure ()
  | path :: paths => do
    p.transformOne showDiff isOneOfMany path
    p.transformEach showDiff isOneOfMany paths

/-- Write the manifests with placeholders, or what changes. -/
def transform (p : Project) (files : List String) (showDiff : Bool) : Run Unit := do
  let paths ← p.someManifests files
  p.transformEach showDiff (decide (1 < paths.length)) paths

/-- Do what a command says. -/
def run (p : Project) : Command → Run Unit
  | .inspect files format => p.inspect files format
  | .fields files format => p.fields files format
  | .transform files showDiff => p.transform files showDiff

end Project

/-- What a run writes, and how it ends. -/
structure Outcome where
  output : Output
  ending : Ending
  deriving Repr

/-- The message at the end of a run, as far as it has a fixed wording. -/
def Ending.message (colours : Bool) : Ending → String
  | noCommand => "No subcommand specified. Run `markers --help` for usage.\n"
  | failed reason => paint colours .red "error:" ++ " " ++ reason ++ "\n"
  | success | refused _ | fault _ => ""

/-- Run the arguments. -/
def run (args : List String) (s : Surroundings) : Outcome :=
  match Invocation.parse args with
  | .error r => ⟨{}, .refused r⟩
  | .ok i =>
    let r : Run Unit := match i.command with
      | none => Run.stop .noCommand
      | some command => do (← Project.load i s).run command
    let ending := match r.result with
      | .ok () => .success
      | .error e => e
    ⟨r.output.append { stderr := ending.message (!i.noColor && !s.noColor) }, ending⟩

/-! ### What a run reads -/

/-- The paths that may hold the settings of a run. -/
def settingsPaths (args : List String) (workingDirectory : String) : List String :=
  match Invocation.parse args with
  | .error _ => []
  | .ok i => Settings.candidates.map (Path.join (i.root workingDirectory))

/-- The manifests of a run, once its settings can be read. -/
def manifestPaths (args : List String) (s : Surroundings) : List String :=
  match Invocation.parse args with
  | .error _ => []
  | .ok i => match i.command, (Project.load i s).result with
    | some command, .ok p => p.manifests command.files
    | _, _ => []

end ManifestMarkers.Cli

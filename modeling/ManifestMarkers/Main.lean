import ManifestMarkers.Cli

/-!
# The program

Reads the files that a command line asks for, runs it, and writes what it gives.
-/

namespace ManifestMarkers.Cli

/-- The name and the version of the program. -/
def versionText : String := "markers_cli 0.1.0\n"

/-- How the program is used. -/
def usageText : String :=
  "Usage: markers [OPTIONS] [COMMAND]\n\n" ++
  "Commands:\n" ++
  "  inspect [FILES]... [--format text|json]  List every marker found in the manifests\n" ++
  "  fields [FILES]... [--format text|json]   Print the api spec fields the markers produce\n" ++
  "  transform [FILES]... [--diff]            Print the manifests with placeholders\n\n" ++
  "Options:\n" ++
  "  -p, --path <PATH>  Path to the project root directory\n" ++
  "  -v, --verbose      Enable verbose output\n" ++
  "      --no-color     Disable colored output\n" ++
  "  -h, --help         Print help\n" ++
  "  -V, --version      Print version\n"

/-- The report on a fault: its code, what is wrong and what to do about it. -/
def report (f : Fault) : String :=
  f.code ++ "\n" ++ (f.message?.map fun m => "  " ++ m ++ "\n").getD "" ++
    (f.help?.map fun h => "  help: " ++ h ++ "\n").getD ""

/-- What is still to be written at the end of a run. -/
def Ending.rest : Ending → Output
  | refused .usage => { stderr := usageText }
  | refused .help => { stdout := usageText }
  | refused .version => { stdout := versionText }
  | fault f => { stderr := report f }
  | success | noCommand | failed _ => {}

/-- Look at a path: whether it is a file, and what it holds. -/
def look (path : String) : IO (String × Bool × Except ReadFault String) := do
  let place := System.mkFilePath [path]
  let kind? ← try pure (some (← place.metadata).type) catch _ => pure none
  match kind? with
  | none => return (path, false, .error .notFound)
  | some .dir => return (path, false, .error .isDirectory)
  | some kind =>
    let content ← try
        match String.fromUTF8? (← IO.FS.readBinFile place) with
        | some text => pure (Except.ok text)
        | none => pure (Except.error ReadFault.notText)
      catch e => pure (Except.error (.other (toString e)))
    return (path, kind == .file, content)

end ManifestMarkers.Cli

open ManifestMarkers in
/-- Run the command line. -/
def main (args : List String) : IO UInt32 := do
  let workingDirectory := toString (← IO.currentDir)
  let noColor := (← IO.getEnv "NO_COLOR").isSome
  let settings ← (Cli.settingsPaths args workingDirectory).mapM Cli.look
  let known : Cli.Surroundings := { workingDirectory, noColor, files := .ofList settings }
  let manifests ← (Cli.manifestPaths args known).mapM Cli.look
  let outcome := Cli.run args { known with files := .ofList (settings ++ manifests) }
  let output := outcome.output.append outcome.ending.rest
  IO.print output.stdout
  IO.eprint output.stderr
  return outcome.ending.exitCode.toUInt32

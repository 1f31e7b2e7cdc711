import SignIn.CommandLine
import SignIn.Settings.File

/-!
# The command

Reads the settings that the arguments name and shows them as they stand in logs.
-/

namespace SignIn

namespace CommandLine

def usage : String :=
  "Credential validation and session service\n\n" ++
    "Options:\n" ++
    "      --settings <SETTINGS>  Path to a settings file\n" ++
    "  -h, --help                 Print help"

/-- What is said about arguments that are not accepted. -/
def Refusal.message : Refusal → String
  | displayHelp => usage
  | unknownArgument => "error: unexpected argument"
  | invalidValue => "error: a value is required for --settings"
  | argumentConflict => "error: --settings cannot be used multiple times"
  | tooManyValues => "error: --help takes no value"

/-- The files at some paths that can be read. -/
def readFiles (paths : List String) : IO Folder := do
  let mut files : List (String × String) := []
  for path in paths do
    try
      files := files ++ [(path, ← IO.FS.readFile path)]
    catch _ => pure ()
  return .ofTexts files

/-- Shows the settings that arguments name. -/
def run (arguments : List String) : IO UInt32 := do
  match parse arguments with
  | .error .displayHelp =>
    IO.println usage
    return 0
  | .error refusal =>
    IO.eprintln refusal.message
    return 2
  | .ok named =>
    let path := named.getD Settings.standardPath
    let folder ← readFiles (Settings.candidates path)
    match Settings.ofFolder folder path with
    | .ok settings =>
      IO.println settings.debugText
      return 0
    | .error error =>
      IO.eprintln error.message
      return 1

end CommandLine

end SignIn

def main (arguments : List String) : IO UInt32 := SignIn.CommandLine.run arguments

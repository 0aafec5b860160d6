import Std.Time.Format
import Tickler.Command.Run

/-!
# The program

The outer layer: it collects what a run depends on, carries the run out, and writes
what the run leaves. The answer is written without a line ending, so that it can
replace a line in an editor. Messages about a run without an answer go to standard
error.
-/

namespace Tickler.Program

/-- Today by the system clock. -/
def clock : IO Date := do
  let now ← Std.Time.PlainDate.now
  let date := Date.ofYmd? now.year.toInt now.month.val.toNat now.day.val.toNat
  return date.getD Date.first

/-- The variables of the environment that a run looks at. -/
def environment : IO Environment := do
  let look := fun name => do return (← IO.getEnv name).map String.toList
  return {
    today := ← look "BUMP_TODAY"
    settings := ← look "BUMP_CONFIG"
    home := ← look "HOME" }

/-- What stands at a path, if anything does. -/
def entryAt (path : List Char) : IO (Option Entry) := do
  let place := (← IO.currentDir) / String.ofList path
  if !(← place.pathExists) then return none
  if ← place.isDir then return some .folder
  try
    let bytes ← IO.FS.readBinFile place
    return some (.ofBytes bytes.toList)
  catch _ => return some .unreadable

/-- The entries at a path and at the folders on the way to it. -/
def filesAround (path : List Char) : IO Files := do
  let segments := Path.segments path
  let mut entries : List (Location × Entry) := []
  for count in List.range (segments.length + 1) do
    let part := joined '/' (segments.take count)
    if let some location := Path.followed? (fun _ => true) part then
      if let some entry ← entryAt part then
        entries := (location, entry) :: entries
  return ⟨entries⟩

/-- The bytes of standard input up to the end of the first line. -/
partial def firstLine (input : IO.FS.Stream) (bytes : ByteArray) : IO ByteArray := do
  let next ← input.read 1
  if next.isEmpty then return bytes
  let read := bytes ++ next
  if next.data.contains lineFeed then return read
  firstLine input read

/-- Make the folders that a run made, and write the text that it left at a path. -/
def keep (path : List Char) (before after : Files) : IO Unit := do
  if before = after then return
  for (location, entry) in after.entries do
    if entry = .folder ∧ !before.isFolder location then
      IO.FS.createDirAll (String.ofList (joined '/' location))
  if let some (.text contents) := after.at? path then
    IO.FS.writeFile (String.ofList path) (String.ofList contents)

/-- How the program is called. -/
def usage : String := "Usage: tickler [OPTIONS] [INPUT]

Options:
  -t, --today                 Print today's date in canonical form and exit
  -p, --plus <DAYS>           Days to add on top of the shorthand
  -d, --date <DATE>           Use this date as today
  -o, --output <STYLE>        pretty or json
      --config <FILE>         Config file to use
      --write-default-config  Write the default configuration and exit
      --completions <SHELL>   Print the words to complete and exit
  -h, --help                  Print help
  -V, --version               Print version
"

/-- What is said about a fault in the arguments. -/
def usageMessage : UsageFault → String
  | .help => usage
  | .version => "tickler 0.1.0\n"
  | .unknownArgument => "unexpected argument"
  | .invalidValue => "invalid or missing value"
  | .malformedValue => "a value is not a number or a date"
  | .repeated => "an option is given twice"
  | .unneededValue => "a value is given to an option that takes none"

/-- The script that completes words in a shell: the words that may begin an argument, one to
a line. -/
def script (_ : Shell) : List Char :=
  Choice.longNames.flatMap fun (name, _) => '-' :: '-' :: name ++ ['\n']

/-- Carry out a request, and give the exit code. -/
def carryOut (arguments : List (List Char)) (environment : Environment) (request : Request) :
    IO UInt32 := do
  let path := request.settingsPath environment
  let before ← filesAround path
  let input ← if request.readsInput then firstLine (← IO.getStdin) .empty else pure .empty
  let (answer, after) := run { script } arguments environment input.toList before (← clock)
  keep path before after
  match answer with
  | .ok shown =>
      let output ← IO.getStdout
      output.putStr (String.ofList shown)
      output.flush
      return 0
  | .error (.failure failure) =>
      IO.eprintln ("error: " ++ String.ofList failure.message)
      return 1
  | .error (.usage fault) =>
      IO.eprintln ("error: " ++ usageMessage fault)
      return 2

/-- Run the program with the given arguments, and give the exit code. -/
def start (arguments : List String) : IO UInt32 := do
  let words := arguments.map String.toList
  let found ← environment
  match requested words found with
  | .ok request => carryOut words found request
  | .error .help => IO.print (usageMessage .help); return 0
  | .error .version => IO.print (usageMessage .version); return 0
  | .error fault => IO.eprintln ("error: " ++ usageMessage fault); return 2

end Tickler.Program

/-- The program. -/
def main (arguments : List String) : IO UInt32 := Tickler.Program.start arguments

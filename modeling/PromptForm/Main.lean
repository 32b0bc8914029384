import PromptForm.Command.Run
import PromptForm.Environment.Host
import Std.Time.DateTime.Timestamp

/-!
# The program

Gathers what a command works with from the machine, runs it, prints its report and stores the files that
it changed.
-/

namespace PromptForm.Program

/-- The paths that a command looks at. -/
def paths : Command → List Disk.Path
  | .version => []
  | .init path _ => [path, Config.draftPath path] ++ path.folder?.toList
  | .inputs options | .render options _ _ _ => [options.config, options.tree]

/-- The folders on the way of a path. -/
def stops (path : Disk.Path) : List Disk.Place :=
  (List.range path.way.length).map fun n => (path.way.take (n + 1)).foldl Disk.Path.step path.start

/-- Adds what lies at a path on the machine to a disk. -/
def look (d : Disk) (path : Disk.Path) : IO Disk := do
  try
    let text ← IO.FS.readFile path.text
    return { d with folders := stops path ++ d.folders }.put path.place text
  catch
    | .inappropriateType _ code _ =>
      if code = 21 then return { d with folders := path.place :: stops path ++ d.folders }
      else return d.put path.place.dropLast ""
    | _ => return d

/-- Stores a file as a whole: it is written beside the place where it belongs and then moved there. -/
def store (path : Disk.Path) (text : String) : IO Unit := do
  if let some folder := path.folder? then
    IO.FS.createDirAll folder.text
  IO.FS.writeFile (Config.draftPath path).text text
  IO.FS.rename (Config.draftPath path).text path.text

/-- The facts about this machine. -/
def facts : IO HostFacts := do
  let names := ["HOSTNAME", "COMPUTERNAME", "USER", "USERNAME"]
  let values ← names.mapM fun name => IO.getEnv name
  let machine ← try some <$> IO.FS.readFile "/etc/hostname" catch _ => pure none
  let cwd ← IO.currentDir
  let now ← Std.Time.Timestamp.now
  let nanos := now.toNanosecondsSinceUnixEpoch.val
  return HostFacts.ofVariables (fun name => ((names.zip values).lookup name).join) machine cwd.toString
    ⟨nanos.fdiv 1000000000, (nanos.fmod 1000000000).toNat⟩

/-- Runs a command and shows its notes; while a dialogue lacks an answer, another line is read. -/
partial def converse (command : Command) (w : World) (shown : Nat) : IO Report := do
  let report := Command.run w command
  let notes := report.notes.toList
  (← IO.getStderr).putStr (String.ofList (notes.drop shown))
  match report.outcome with
  | .error (.dialogue (.closed _)) =>
    let line ← (← IO.getStdin).getLine
    if line.isEmpty then return report
    else converse command { w with lines := w.lines ++ [line.toList] } notes.length
  | _ => return report

/-- Runs a command on this machine. -/
def run (command : Command) : IO UInt32 := do
  let disk ← (paths command).foldlM look {}
  let report ← converse command ⟨disk, ← facts, []⟩ 0
  if let .init path _ := command then
    if let some text := report.disk.text? path.place then
      if disk.text? path.place != some text then store path text
  IO.print report.output
  if let .error fault := report.outcome then
    IO.eprintln fault.message
  return report.code.toUInt32

def usage : String :=
  "usage: promptree init [--path PATH] [--force]\n" ++
  "       promptree inputs --tree FILE [--env FILE] [--input NAME=VALUE]...\n" ++
  "       promptree render --tree FILE [--env FILE] [--input NAME=VALUE]...\n" ++
  "                        [--non-interactive | --interactive] [--json] [--no-trim]"

end PromptForm.Program

/-- Arguments that name no command are answered with the usage. -/
def main (args : List String) : IO UInt32 := do
  match PromptForm.Command.ofArguments? args with
  | .error .usage =>
    IO.eprintln PromptForm.Program.usage
    return 2
  | .error .help =>
    IO.println PromptForm.Program.usage
    return 0
  | .ok command => PromptForm.Program.run command

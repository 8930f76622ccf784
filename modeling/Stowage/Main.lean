import Std.Time.Format
import Stowage.Command.Line
import Stowage.Command.Run
import Stowage.Json.Reader
import Stowage.TraceId

/-!
The program `stowage`.

It runs a command line against a network that is rehearsed: the answers to its requests are read
from standard input, one JSON object a line with `status` and `text`, and are given in that order.
-/

namespace Stowage.Main

/-- The variables of the process. -/
def environment : IO (List (String × String)) := do
  try
    let block ← IO.FS.readFile "/proc/self/environ"
    let entries := Text.splitAt (· == '\x00') block.toList
    return entries.filterMap fun entry =>
      match Text.cut '=' entry with
      | (name, some value) => some (String.ofList name, String.ofList value)
      | (_, none) => none
  catch _ => return []

/-- A configuration file; one that is not there is absent. -/
def readConfig (path : String) : IO Config.File := do
  let path ← match Text.dropStart? ['~', '/'] path.toList, ← IO.getEnv "HOME" with
    | some rest, some home => pure (home ++ "/" ++ String.ofList rest)
    | _, _ => pure path
  try
    return .text (← IO.FS.readFile path)
  catch
    | .noFileOrDirectory .. => return .absent
    | .inappropriateType .. => return .directory
    | e => throw e

/-- An answer in one line of a script. -/
def answer? (line : String) : Option Http.Answer :=
  match Json.read line with
  | .ok (.object members) =>
    let status : Int := match members.lookup "status" with
      | some (.int i) => i
      | _ => 200
    let text : String := match members.lookup "text" with
      | some (.text s) => s
      | _ => ""
    some (.response { status, headers := [], body := text.toUTF8.toList.map UInt8.toNat })
  | _ => none

/-- The time as log lines show it. -/
def now : IO String := do
  let time ← Std.Time.Timestamp.now
  return (Std.Time.DateTime.ofTimestamp time .UTC).format "uuuu-MM-dd'T'HH:mm:ss.SSSSSSxxx"

/-- Write what an event has to show. -/
def write (time : String) : Event → IO Unit
  | .line .json record => ((record.jsonLine? time).map IO.eprintln).getD (pure ())
  | .line .plain record => ((record.plainText? time).map IO.eprintln).getD (pure ())
  | .complained text => IO.eprint text
  | .printed text => IO.print text
  | _ => pure ()

end Stowage.Main

open Stowage in
/-- Run the command line that the process is given. -/
def main (arguments : List String) : IO UInt32 := do
  match CommandLine.read arguments with
  | .error e =>
    IO.eprintln ("Error: " ++ e.text)
    return ExitStatus.usage.code.toUInt32
  | .ok line =>
    let environment ← Main.environment
    let found : Surroundings := { environment }
    let path := (found.sources line.configPath).path
    let file ← Main.readConfig path
    let script := (← (← IO.getStdin).readToEnd).splitOn "\n"
    let seed := (← IO.getRandomBytes 16).toList.foldl (fun n b => 256 * n + b.toNat) 0
    let world : World := {
      network := { answers := script.filterMap Main.answer? }
      traceOf := fun n => TraceId.ofBits (seed + n) }
    let surroundings := { found with file := fun p => if p = path then file else .absent }
    let (outcome, session) := (line.run surroundings).runFrom { world }
    let time ← Main.now
    session.journal.forM (Main.write time)
    match outcome with
    | .ok status => return status.code.toUInt32
    | .error failure =>
      IO.eprintln failure.summary
      return ExitStatus.crash.code.toUInt32

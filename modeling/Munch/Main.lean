/-
  Munch.Main — the command line. It gathers what a run needs, lets `Command.run` decide,
  and prints; a session is held line by line, so that every prompt waits for its line.
-/

import Munch.Command.Run

namespace Munch.Main

open Munch.Command

/-- A fault by its number, which the system may give below zero in 32 bits. -/
def faultOfCode (details : String) (code : UInt32) : ReadFault :=
  match code.toInt32.toInt.natAbs with
  | 2 => .notFound
  | 20 => .notDirectory
  | 21 => .isDirectory
  | 36 => .nameTooLong
  | n => .system details n

def faultOf : IO.Error → ReadFault
  | .noFileOrDirectory _ code details => faultOfCode details code
  | .inappropriateType _ code details => faultOfCode details code
  | .permissionDenied _ code details => faultOfCode details code
  | .invalidArgument _ code details => faultOfCode details code
  | .otherError code details => faultOfCode details code
  | e => .system e.toString 0

def readFile (path : String) : IO (Except ReadFault Bytes) := do
  try
    return .ok (← IO.FS.readBinFile path).toList
  catch e =>
    return .error (faultOf e)

partial def readAll (stream : IO.FS.Stream) (sofar : ByteArray) : IO Bytes := do
  let chunk ← stream.read 65536
  if chunk.isEmpty then return sofar.toList else readAll stream (sofar ++ chunk)

/-- A line with its ending, or nothing at the end of the input. -/
partial def readLine (stream : IO.FS.Stream) (sofar : ByteArray) : IO ByteArray := do
  let chunk ← stream.read 1
  if chunk.isEmpty then return sofar
  let line := sofar ++ chunk
  if chunk.toList = [Bytes.lineFeed] then return line else readLine stream line

/-- The part of the world that a command looks at. -/
def worldFor : Command → IO World
  | .tokens input _ | .check input => do
    if isStdin input then return ⟨← readAll (← IO.getStdin) .empty, fun _ => .error .notFound⟩
    let content ← readFile input
    return ⟨[], fun _ => content⟩
  | .keywords | .repl => return ⟨[], fun _ => .error .notFound⟩

def finish (report : Report) : IO UInt32 := do
  IO.eprint (String.join (report.notices ++ report.log))
  IO.print report.stdout
  IO.eprint (report.error.getD "")
  return report.status.toUInt32

/-- Asks for a line and does what the response to it says, until one ends the session. -/
partial def converse (settings : Settings) (verbose : Bool) : IO UInt32 := do
  let out ← IO.getStdout
  out.putStr Repl.prompt
  out.flush
  let line ← readLine (← IO.getStdin) .empty
  let response := Repl.respond (Bytes.lines line.toList).head?
  let status ← finish (.ofOutcome settings verbose (.ofResponse response))
  if response.ending.isSome then return status else converse settings verbose

def environment : IO Environment :=
  return ⟨← IO.getEnv "RUST_LOG", ← IO.getEnv "CLICOLOR_FORCE", ← IO.getEnv "NO_COLOR"⟩

def start (args : List String) : IO UInt32 := do
  let settings := Settings.ofEnvironment (← environment)
  match Invocation.ofArguments args with
  | .run .repl verbose =>
    IO.eprint (String.join settings.notices)
    IO.print (Repl.opening settings.coloured)
    converse settings verbose
  | .run command verbose => do finish (run settings (← worldFor command) (.run command verbose))
  | settled => finish (run settings ⟨[], fun _ => .error .notFound⟩ settled)

end Munch.Main

def main (args : List String) : IO UInt32 := Munch.Main.start args

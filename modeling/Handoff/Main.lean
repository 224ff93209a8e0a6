/-
Module: Handoff.Main
Purpose: The converter's command line: reads the options, the configuration file and the
  document (a path, or standard input for `-`), converts, and prints the code on standard
  output, with the diagnostics and the palette on standard error when asked. A failure is
  printed on standard error as one line and the exit code is 1.
Main exports: main.
-/
import Handoff.Command

open Handoff Command

/-- Everything left on a stream. -/
partial def readAll (stream : IO.FS.Stream) (acc : String) : IO String := do
  let line ← stream.getLine
  if line.isEmpty then return acc else readAll stream (acc ++ line)

/-- The usual text of a failure to read a file. -/
def readFailure : IO.Error → String
  | .noFileOrDirectory .. => "No such file or directory (os error 2)"
  | .permissionDenied .. => "Permission denied (os error 13)"
  | .inappropriateType .. => "Is a directory (os error 21)"
  | e => toString e

/-- A file's text, or a failure naming it. -/
def readText (path : String) : IO (Except String String) := do
  try
    return .ok (← IO.FS.readFile path)
  catch e =>
    return .error ("failed to read '" ++ path ++ "': " ++ readFailure e)

/-- Prints a failure and gives the failing exit code. -/
def fail (message : String) : IO UInt32 := do
  (← IO.getStderr).putStrLn ("Error: " ++ message ++ ".")
  return 1

/-- A run with scanned options. -/
def runWith (o : Options) : IO UInt32 := do
  let configText ← match o.configPath with
    | none => pure (.ok none)
    | some path => (fun r => r.map some) <$> readText path
  match configText with
  | .error e => fail e
  | .ok configText =>
  match configure o configText with
  | .error e => fail e
  | .ok config =>
  let input ← if o.input == "-" then
      (.ok <$> readAll (← IO.getStdin) "")
    else readText o.input
  match input with
  | .error e => fail e
  | .ok json =>
  match parseDocument json with
  | .error e => fail ("invalid design document: " ++ e.message)
  | .ok doc =>
  match convertDocument doc config false with
  | .error f => fail (failureLine f)
  | .ok out => do
      let stdout ← IO.getStdout
      stdout.putStrLn out.code
      stdout.flush
      let stderr ← IO.getStderr
      if o.diagnostics then
        for d in out.diagnostics do stderr.putStrLn (diagnosticLine d)
      if o.palette then
        for e in out.palette do stderr.putStrLn (paletteLine e)
      return 0

/-- The command line. -/
def main (args : List String) : IO UInt32 := do
  match parseArgs args with
  | .error e => fail e.message
  | .ok .help => do
      IO.print helpText
      return 0
  | .ok .version => do
      IO.println versionText
      return 0
  | .ok (.run o) => runWith o

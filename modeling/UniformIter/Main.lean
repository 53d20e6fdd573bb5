import UniformIter.CommandLine.Program

/-!
# The program

Reads the one file that the command line needs, runs the program that the executable is named
for, and writes its output.
-/

open UniformIter UniformIter.CommandLine

/-- What the file at a path holds. -/
def readFile (path : String) : IO (Except FileFault String) := do
  try
    let bytes ← IO.FS.readBinFile path
    return match String.fromUTF8? bytes with
      | some text => .ok text
      | none => .error .notText
  catch e =>
    return .error <| match e with
      | .noFileOrDirectory _ _ _ => .missing
      | .inappropriateType _ _ _ => .directory
      | e => .other (toString e)

/-- Runs the program with its arguments. -/
def main (args : List String) : IO UInt32 := do
  let name := (← IO.appPath).fileName.getD ""
  let program := (Program.ofName? name).getD .commands
  let path? := if program = .commands then (Request.ofArguments args).path? else none
  let content ← match path? with
    | some path => readFile path
    | none => pure (.error .missing)
  let stdout : Sink := ⟨[], .takes (Nat.pow 2 64), none⟩
  let (exit, delivery) := program.run args (fun _ => content) stdout
  let out ← IO.getStdout
  out.write ⟨delivery.accepted.toArray⟩
  out.flush
  if let some words := exit.report then IO.eprintln words
  return exit.status.toUInt32

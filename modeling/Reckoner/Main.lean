import Reckoner.CommandLine.Run

/-!
# Reckoner — the program

Reads what the command line needs, line by line where it answers line by line, and
writes what the library answers.
-/

namespace Reckoner.CommandLine

/-- Writes a piece of output. -/
private def Output.write (output : Output) : IO Unit := do
  (← IO.getStderr).putStr output.stderr
  let stdout ← IO.getStdout
  stdout.putStr output.stdout
  stdout.flush

/-- The system's number for the reason why an action failed. -/
private def codeOf (e : IO.Error) : Nat :=
  let code : UInt32 := match e with
    | .alreadyExists _ c _ | .otherError c _ | .resourceBusy c _ | .resourceVanished c _
    | .unsupportedOperation c _ | .hardwareFault c _ | .unsatisfiedConstraints c _
    | .illegalOperation c _ | .protocolError c _ | .timeExpired c _ | .interrupted _ c _
    | .noFileOrDirectory _ c _ | .invalidArgument _ c _ | .permissionDenied _ c _
    | .resourceExhausted _ c _ | .inappropriateType _ c _ | .noSuchThing _ c _ => c
    | .unexpectedEof | .userError _ => 5
  min code.toNat (UInt32.size - code.toNat)

/-- The content of a file. -/
private def readFile (path : String) : IO (Except SystemError ByteArray) := do
  try
    return .ok (← IO.FS.readBinFile path)
  catch e => return .error ⟨codeOf e⟩

/-- The bytes of the next line of a stream, its ending included; none at the end. -/
private partial def readLine (stream : IO.FS.Stream) (line : ByteArray) : IO ByteArray := do
  let byte ← stream.read 1
  if byte.isEmpty then return line
  else if byte.toList = [10] then return line ++ byte
  else readLine stream (line ++ byte)

/-- The next line of a stream; none at the end. -/
private def nextLine (stream : IO.FS.Stream) : IO (Option Interactive.Line) := do
  return (Interactive.linesOfBytes (← readLine stream .empty)).head?

/-- Answers line by line. -/
private partial def converse (s : Interactive.Setting) (stream : IO.FS.Stream) : IO UInt8 :=
  Interactive.round s Output.write (nextLine stream) (converse s stream)

end Reckoner.CommandLine

open Reckoner.CommandLine in
/-- The program. -/
def main (args : List String) : IO UInt32 := do
  let filter := filterOf (← IO.getEnv "EEP_LOG") (← IO.getEnv "RUST_LOG")
  match Arguments.parse args with
  | .ok (.invoke { command := .repl, bindings, bare }) =>
    let env := Invocation.environment { command := .repl, bindings, bare }
    return (← converse ⟨env, filter⟩ (← IO.getStdin)).toUInt32
  | request =>
    let content ← match request with
      | .ok (.invoke { command := .run path, .. }) => readFile path
      | _ => pure (.ok .empty)
    let result := run args filter { file := fun _ => content, stdin := .empty }
    result.output.write
    return result.exit.toUInt32

import SyntaxOutline.Command.Report

/-!
# The command line

Gets at the files and streams of the system, and leaves every decision to `Command`,
`RunOptions.prepare`, `Pending.conclude` and `viewWithoutTerminal`.
-/

namespace SyntaxOutline

/-- The system's error as the library knows it. -/
def systemError : IO.Error → SystemError
  | .noFileOrDirectory .. => .notFound
  | .resourceExhausted _ _ _ => .noSpace
  | .noSuchThing _ _ _ => .notFound
  | .inappropriateType _ code details => .other s!"{details} (os error {code})"
  | .invalidArgument _ code details => .other s!"{details} (os error {code})"
  | .permissionDenied _ code details => .other s!"{details} (os error {code})"
  | e => .other (toString e)

/-- Reads the input at a path. What cannot be opened or is a directory counts as missing. -/
def readInput (path : String) : IO Input := do
  try
    return .contents (← IO.FS.readBinFile path)
  catch
    | .noFileOrDirectory .. => return .missing
    | .inappropriateType .. => return .missing
    | .illegalOperation .. => return .missing
    | .invalidArgument .. => return .missing
    | e => return .unreadable (systemError e)

/-- Writes the whole of an opened output. -/
def writeHandle (handle : IO.FS.Handle) (program : Program) (unit : String) :
    IO (Except TransferError Nat) := do
  let (bytes, lines) := program.outlineBytes unit
  try
    handle.write bytes
    handle.flush
    return .ok lines
  catch e => return .error (.outputNotWritten (.system (systemError e)))

/-- Writes the outline of a program to the output at a path. -/
def writeOutput (program : Program) (path unit : String) : IO (Except TransferError Nat) := do
  try
    writeHandle (← IO.FS.Handle.mk path .write) program unit
  catch e => return .error (.outputNotOpened path (systemError e))

/-- Prints what a report says and gives its exit code. -/
def Report.deliver (r : Report) : IO UInt32 := do
  IO.print r.output
  IO.eprint (r.errors?.getD "Usage: minic <COMMAND>\n")
  return r.exitCode.toUInt32

/-- Performs a command on the files of the system. -/
def Command.perform (c : Command) (colour : Bool) : IO Report := do
  match c with
  | .showVersion => return .version
  | .showHelp => return .help
  | .view path => return viewWithoutTerminal path colour (← readInput path)
  | .run o =>
    match o.prepare colour (← readInput o.input) with
    | .error report => return report
    | .ok pending =>
      return pending.conclude colour (← writeOutput pending.program o.output o.indent.unit)

end SyntaxOutline

open SyntaxOutline in
/-- The program. Diagnostics are coloured on a terminal. -/
def main (arguments : List String) : IO UInt32 := do
  match Command.ofArguments arguments with
  | none => Report.usage.deliver
  | some c =>
    let report ← c.perform (← (← IO.getStderr).isTty)
    report.deliver

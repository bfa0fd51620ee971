import SyntaxOutline.Command.Arguments
import SyntaxOutline.Diagnostic
import SyntaxOutline.Files.Transfer

/-!
# What a command does

`run` reads the input, says that it could be parsed, and writes the outline. `view` reads the input
and opens the viewer, for which it needs a terminal. A command that fails says why and exits with
1; a command line that makes no sense exits with 2.

`RunOptions.prepare` and `Pending.conclude` are the two halves of `run`, before and after its output
is written, and `FileStore.perform` joins them for a store.
-/

namespace SyntaxOutline

/-- What a command leaves behind, files apart. `errors?` is `none` where only the fact that the
command line makes no sense is reported. -/
structure Report where
  exitCode : Nat
  output : String
  errors? : Option String
deriving DecidableEq, Repr

namespace Report

/-- The report of a command line that makes no sense. -/
def usage : Report := ⟨2, "", none⟩

/-- The name and the version of the program. -/
def version : Report := ⟨0, "minic 0.1.0\n", some ""⟩

/-- How the program is used. -/
def help : Report :=
  ⟨0, "Usage: minic run <INPUT> <OUTPUT> [--indent 2|4] [-v|--verbose]\n" ++
    "       minic view <INPUT>\n", some ""⟩

end Report

/-- The text that tells of an error: a diagnostic for a refused source, and else the message. -/
def TransferError.told (colour : Bool) : TransferError → String
  | .sourceRefused e =>
    ((DiagnosticLog.empty colour).report ⟨.error, e.position, e.detail⟩).printed
  | e => e.message ++ "\n"

/-- A run that is ready to write its output. -/
structure Pending where
  options : RunOptions
  /-- What has been printed so far. -/
  output : String
  errors : String
  /-- The program whose outline is to be written. -/
  program : Program

namespace RunOptions

/-- What is said before the input is read. -/
def announceInput (o : RunOptions) : String :=
  if o.verbose then s!"Parsing {o.input}...\n" else ""

/-- What is said before the output is written. -/
def announceOutput (o : RunOptions) (program : Program) : String :=
  if o.verbose then
    s!"Found {program.decls.length} top-level declarations. Writing {o.output}...\n"
  else ""

/-- What is said at the end. -/
def announceEnd (o : RunOptions) (lines : Nat) : String :=
  if o.verbose then s!"Wrote {lines} lines.\n" else ""

/-- Does all that comes before the output is written. -/
def prepare (o : RunOptions) (colour : Bool) (input : Input) : Except Report Pending :=
  match input.program o.input with
  | .error e => .error ⟨1, "", some (o.announceInput ++ e.told colour)⟩
  | .ok (_, program) =>
    .ok
      { options := o
        output := "Parsed successfully!\n"
        errors := o.announceInput ++ o.announceOutput program
        program := program }

end RunOptions

/-- Does all that comes after the output is written, or not written. -/
def Pending.conclude (p : Pending) (colour : Bool) (written : Except TransferError Nat) : Report :=
  match written with
  | .error e => ⟨1, p.output, some (p.errors ++ e.told colour)⟩
  | .ok lines => ⟨0, p.output, some (p.errors ++ p.options.announceEnd lines)⟩

/-- What `view` reports where there is no terminal. -/
def viewWithoutTerminal (path : String) (colour : Bool) (input : Input) : Report :=
  match input.program path with
  | .error e => ⟨1, "", some (e.told colour)⟩
  | .ok _ =>
    ⟨1, "", some "Error: failed to enable raw mode: No such device or address (os error 6)\n"⟩

namespace FileStore

/-- Performs `run`. -/
def performRun (s : FileStore) (o : RunOptions) (colour : Bool) : Report × FileStore :=
  match o.prepare colour (s.input o.input) with
  | .error report => (report, s)
  | .ok pending =>
    let (written, s) := s.writeOutline pending.program o.output o.indent.unit
    (pending.conclude colour written, s)

/-- Performs what a command line asks for. -/
def perform (s : FileStore) (arguments : List String) (colour : Bool) : Report × FileStore :=
  match Command.ofArguments arguments with
  | none => (.usage, s)
  | some .showVersion => (.version, s)
  | some .showHelp => (.help, s)
  | some (.view path) => (viewWithoutTerminal path colour (s.input path), s)
  | some (.run o) => s.performRun o colour

end FileStore

end SyntaxOutline

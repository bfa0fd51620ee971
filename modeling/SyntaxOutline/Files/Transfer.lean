import SyntaxOutline.Files.Store
import SyntaxOutline.Grammar.Session
import SyntaxOutline.Outline.Buffer
import SyntaxOutline.Outline.Printer

/-!
# Programs in and outlines out

Reading a program from a file and writing its outline to another, with everything that can go
wrong on the way. What is found at the input's path is a value (`Input`), so that the decisions made
here do not depend on how files are got at.
-/

namespace SyntaxOutline

/-- Why no program could be read, or its outline not be written. -/
inductive TransferError where
  | inputNotFound (path : String)
  | inputNotRead (path : String) (error : SystemError)
  | sourceRefused (error : SourceError)
  | outputNotOpened (path : String) (error : SystemError)
  | outputNotWritten (fault : SinkFault)
deriving DecidableEq, Repr

namespace TransferError

/-- The wording of each reason. -/
def message : TransferError → String
  | inputNotFound path => s!"File {path} not found."
  | inputNotRead path error => s!"Could not read {path}: {error.message}"
  | sourceRefused error => error.message
  | outputNotOpened path error => s!"File {path} could not be opened: {error.message}"
  | outputNotWritten fault => s!"Error while printing tree: {fault.renderMessage}"

/-- The wording of the cause behind each reason, where there is one. -/
def cause? : TransferError → Option String
  | inputNotFound _ => none
  | inputNotRead _ error => some error.message
  | sourceRefused error => some error.message
  | outputNotOpened _ error => some error.message
  | outputNotWritten fault => some fault.renderMessage

end TransferError

/-- What is found at the path of an input. -/
inductive Input where
  /-- No regular file. -/
  | missing
  /-- A file that cannot be read. -/
  | unreadable (error : SystemError)
  | contents (bytes : ByteArray)

/-- What a store has at the path of an input. -/
def FileStore.input (s : FileStore) (path : String) : Input :=
  match s.contents? path, (s.accessTo path).unreadable? with
  | none, _ => .missing
  | some _, some e => .unreadable e
  | some bytes, none => .contents bytes

/-- The source text of an input and the program it spells. -/
def Input.program (path : String) : Input → Except TransferError (String × Program)
  | missing => .error (.inputNotFound path)
  | unreadable error => .error (.inputNotRead path error)
  | contents bytes =>
    match String.fromUTF8? bytes with
    | none => .error (.inputNotRead path .notText)
    | some source =>
      match parse source with
      | .ok program => .ok (source, program)
      | .error e => .error (.sourceRefused e)

/-- The outline of a program as the bytes of a file, and the number of its lines. -/
def Program.outlineBytes (program : Program) (unit : String) : ByteArray × Nat :=
  ((program.outlineText unit).toUTF8, (program.outline 0).length)

/-- Writes the outline of a program to a file over a buffer; gives the number of lines. A file that
was opened stays, even if it does not take the whole outline. -/
def FileStore.writeOutline (s : FileStore) (program : Program) (path unit : String) :
    Except TransferError Nat × FileStore :=
  match s.create path with
  | .error e => (.error (.outputNotOpened path e), s)
  | .ok (opened, s) =>
    match program.print unit (Buffered.new (s.sink opened) Buffered.defaultCapacity) with
    | (.error fault, output) => (.error (.outputNotWritten fault), s.keep output.close.held opened)
    | (.ok lines, output) => (.ok lines, s.keep output.close.held opened)

end SyntaxOutline

import SyntaxOutline.Position

/-!
# Diagnostics

A diagnostic is a message about a position in a source, with a tag that says how grave it is. The
tag may be coloured. A `DiagnosticLog` prints diagnostics and remembers whether one was fatal.
-/

namespace SyntaxOutline

/-- How grave a diagnostic is. -/
inductive Severity where
  | error
  | warning
deriving DecidableEq, Repr

namespace Severity

/-- The tag of a severity. -/
def tag : Severity → String
  | error => "**ERROR**"
  | warning => "**WARNING**"

/-- The terminal colour of a severity's tag. -/
def colourCode : Severity → String
  | error => "31"
  | warning => "33"

/-- The tag, bold and coloured if asked for. -/
def shown (colour : Bool) (s : Severity) : String :=
  if colour then s!"\x1b[1;{s.colourCode}m{s.tag}\x1b[0m" else s.tag

end Severity

/-- A message about a position. -/
structure Diagnostic where
  severity : Severity
  position : Position
  message : String
deriving DecidableEq, Repr

/-- The text of a diagnostic. -/
def Diagnostic.text (colour : Bool) (d : Diagnostic) : String :=
  s!"At line: {d.position.line}, column: {d.position.column} {d.severity.shown colour} {d.message}"

/-- The diagnostics that have been printed. -/
structure DiagnosticLog where
  colour : Bool
  /-- Whether one of them was an error. -/
  hadFatal : Bool
  /-- What has been printed. -/
  printed : String
deriving DecidableEq, Repr

namespace DiagnosticLog

/-- A log with nothing in it. -/
def empty (colour : Bool) : DiagnosticLog := ⟨colour, false, ""⟩

/-- Prints a diagnostic on a line of its own. -/
def report (l : DiagnosticLog) (d : Diagnostic) : DiagnosticLog :=
  { l with
    hadFatal := l.hadFatal || d.severity == .error
    printed := l.printed ++ d.text l.colour ++ "\n" }

end DiagnosticLog

end SyntaxOutline

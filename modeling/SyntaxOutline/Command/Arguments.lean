/-!
# Command lines

There are two commands. `run` takes the paths of an input and an output and may be told a width of
indentation and to report its progress; `view` takes the path of an input. Options may stand
anywhere behind the command, `--` ends them, and none may be given twice. A path may not be empty.
Words are read in order, and the first that asks for help or for the version, or that is wrong,
settles the matter.
-/

namespace SyntaxOutline

/-- The widths of indentation that can be asked for. -/
inductive IndentWidth where
  | two
  | four
deriving DecidableEq, Repr

namespace IndentWidth

/-- The unit of indentation. -/
def unit : IndentWidth → String
  | two => "  "
  | four => "    "

/-- The width that a word asks for. -/
def ofText? (word : String) : Option IndentWidth :=
  if word = "2" then some two else if word = "4" then some four else none

end IndentWidth

/-- What `run` is told. -/
structure RunOptions where
  input : String
  output : String
  indent : IndentWidth
  verbose : Bool
deriving DecidableEq, Repr

/-- What a command line asks for. -/
inductive Command where
  | run (options : RunOptions)
  | view (input : String)
  | showVersion
  | showHelp
deriving DecidableEq, Repr

namespace Command

/-- What has been read of a command's words. -/
structure Words where
  /-- The paths, in order. -/
  paths : List String
  indent? : Option IndentWidth
  verbose : Bool
deriving DecidableEq, Repr

/-- What the words of a command come to. -/
inductive Reading where
  | words (w : Words)
  | help
  | wrong
deriving DecidableEq, Repr

/-- The words that a command takes. -/
structure Shape where
  /-- The number of paths. -/
  paths : Nat
  /-- Whether it takes the options of `run`. -/
  options : Bool
deriving DecidableEq, Repr

/-- Reads the letters behind a single dash. -/
def readLetters (shape : Shape) (w : Words) : List Char → Reading
  | [] => .words w
  | c :: cs =>
    if c = 'h' then .help
    else if c = 'v' && shape.options && !w.verbose then
      readLetters shape { w with verbose := true } cs
    else .wrong

/-- Adds a path, if there is use for one more and it is not empty. -/
def addPath (shape : Shape) (w : Words) (path : String) : Reading :=
  if w.paths.length < shape.paths && !path.isEmpty then .words { w with paths := w.paths ++ [path] }
  else .wrong

/-- Sets the width of indentation, if it is a known one and has not been set. -/
def setIndent (shape : Shape) (w : Words) (value : String) : Reading :=
  match IndentWidth.ofText? value with
  | some width =>
    if shape.options && w.indent?.isNone then .words { w with indent? := some width } else .wrong
  | none => .wrong

/-- Reads a word that is no value of an option. -/
def readWord (shape : Shape) (w : Words) (word : String) : Reading :=
  if word = "--help" then .help
  else if word = "--verbose" then readLetters shape w ['v']
  else if word.startsWith "--indent=" then setIndent shape w (String.ofList (word.toList.drop 9))
  else if word.startsWith "--" then .wrong
  -- A single dash is a path like any other.
  else if word.startsWith "-" && word != "-" then readLetters shape w (word.toList.drop 1)
  else addPath shape w word

/-- Reads words that are paths whatever they look like. -/
def readPaths (shape : Shape) (w : Words) : List String → Reading
  | [] => .words w
  | word :: words =>
    match addPath shape w word with
    | .words w => readPaths shape w words
    | other => other

/-- Reads the words of a command. -/
def readWords (shape : Shape) (w : Words) : List String → Reading
  | [] => .words w
  | word :: words =>
    if word = "--" then readPaths shape w words
    else if word = "--indent" then
      match words with
      | [] => .wrong
      | value :: words =>
        match setIndent shape w value with
        | .words w => readWords shape w words
        | other => other
    else
      match readWord shape w word with
      | .words w => readWords shape w words
      | other => other

/-- The words that `run` takes. -/
def runShape : Shape := ⟨2, true⟩

/-- The words that `view` takes. -/
def viewShape : Shape := ⟨1, false⟩

/-- The command that the words behind `run` make. -/
def ofRunWords (words : List String) : Option Command :=
  match readWords runShape ⟨[], none, false⟩ words with
  | .words ⟨[input, output], indent?, verbose⟩ =>
    some (.run ⟨input, output, indent?.getD .two, verbose⟩)
  | .help => some .showHelp
  | _ => none

/-- The command that the words behind `view` make. -/
def ofViewWords (words : List String) : Option Command :=
  match readWords viewShape ⟨[], none, false⟩ words with
  | .words ⟨[input], _, _⟩ => some (.view input)
  | .help => some .showHelp
  | _ => none

/-- What a command line asks for; `none` if it makes no sense. -/
def ofArguments : List String → Option Command
  | "run" :: words => ofRunWords words
  | "view" :: words => ofViewWords words
  | "--version" :: _ => some .showVersion
  | "--help" :: _ => some .showHelp
  | word :: _ =>
    match word.toList with
    | '-' :: 'V' :: _ => some .showVersion
    | '-' :: 'h' :: _ => some .showHelp
    | _ => none
  | [] => none

end Command

end SyntaxOutline

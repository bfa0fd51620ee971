import SyntaxOutline.Position

/-!
# Tokens

The vocabulary of the language: fifteen keywords, twenty-four marks, identifiers and four kinds
of literal. A literal keeps the text it was written with, quotes and escapes included.

Every token has a number, a name in capitals that goes with the number, a description for
messages, and a spelling: the text it is written as in a source.
-/

namespace SyntaxOutline

/-- Words that cannot be identifiers. -/
inductive Keyword where
  | int | bool | double | void | char | struct
  | if_ | else_ | while_ | for_ | return_
  | true_ | false_ | null | sizeof
deriving DecidableEq, Repr

namespace Keyword

/-- All keywords, in the order of their numbers. -/
def all : List Keyword :=
  [int, bool, double, void, char, struct, if_, else_, while_, for_, return_, true_, false_,
    null, sizeof]

/-- How the keyword is written. -/
def spelling : Keyword → String
  | int => "int"
  | bool => "bool"
  | double => "double"
  | void => "void"
  | char => "char"
  | struct => "struct"
  | if_ => "if"
  | else_ => "else"
  | while_ => "while"
  | for_ => "for"
  | return_ => "return"
  | true_ => "true"
  | false_ => "false"
  | null => "null"
  | sizeof => "sizeof"

/-- The number of the keyword among all tokens. -/
def code : Keyword → Nat
  | int => 2
  | bool => 3
  | double => 4
  | void => 5
  | char => 6
  | struct => 7
  | if_ => 8
  | else_ => 9
  | while_ => 10
  | for_ => 11
  | return_ => 12
  | true_ => 13
  | false_ => 14
  | null => 15
  | sizeof => 16

/-- The keyword that is written as `word`. -/
def ofSpelling? (word : String) : Option Keyword := all.find? (·.spelling == word)

/-- Whether a declaration may start with the keyword. -/
def startsType : Keyword → Bool
  | int | bool | double | void | char | struct => true
  | _ => false

theorem mem_all (k : Keyword) : k ∈ all := by cases k <;> decide

end Keyword

/-- Brackets, separators and operators. -/
inductive Mark where
  | lcurly | rcurly | lparen | rparen | lbracket | rbracket
  | semicolon | comma | dot | assign
  | plus | minus | times | divide | percent | ampersand | bar | not
  | equals | notEquals | less | greater | lessEq | greaterEq
deriving DecidableEq, Repr

namespace Mark

/-- All marks, in the order of their numbers. -/
def all : List Mark :=
  [lcurly, rcurly, lparen, rparen, lbracket, rbracket, semicolon, comma, dot, assign, plus, minus,
    times, divide, percent, ampersand, bar, not, equals, notEquals, less, greater, lessEq,
    greaterEq]

/-- How the mark is written. -/
def spelling : Mark → String
  | lcurly => "\x7b"
  | rcurly => "\x7d"
  | lparen => "("
  | rparen => ")"
  | lbracket => "["
  | rbracket => "]"
  | semicolon => ";"
  | comma => ","
  | dot => "."
  | assign => "="
  | plus => "+"
  | minus => "-"
  | times => "*"
  | divide => "/"
  | percent => "%"
  | ampersand => "&"
  | bar => "|"
  | not => "!"
  | equals => "=="
  | notEquals => "!="
  | less => "<"
  | greater => ">"
  | lessEq => "<="
  | greaterEq => ">="

/-- The number of the mark among all tokens. -/
def code : Mark → Nat
  | lcurly => 22
  | rcurly => 23
  | lparen => 24
  | rparen => 25
  | lbracket => 26
  | rbracket => 27
  | semicolon => 28
  | comma => 29
  | dot => 30
  | assign => 31
  | plus => 32
  | minus => 33
  | times => 34
  | divide => 35
  | percent => 36
  | ampersand => 37
  | bar => 38
  | not => 39
  | equals => 40
  | notEquals => 41
  | less => 42
  | greater => 43
  | lessEq => 44
  | greaterEq => 45

end Mark

/-- One token of a source. The end of the input is not a token. -/
inductive Token where
  | keyword (k : Keyword)
  | mark (m : Mark)
  | ident (name : String)
  | intLit (text : String)
  | realLit (text : String)
  | stringLit (text : String)
  | charLit (text : String)
deriving DecidableEq, Repr

namespace Token

/-- The number that stands for the end of the input. -/
def endCode : Nat := 0

/-- How the end of the input is described. -/
def endDescription : String := "end of file"

/-- The names that go with the token numbers, from 0 on. The first two are the end of the input
and a token that could not be read. -/
def codeNames : List String :=
  ["EOF", "error", "INT", "BOOL", "DOUBLE", "VOID", "CHAR", "STRUCT", "IF", "ELSE", "WHILE", "FOR",
    "RETURN", "TRUE", "FALSE", "NULL", "SIZEOF", "ID", "INTLITERAL", "REALLITERAL",
    "STRINGLITERAL", "CHARLITERAL", "LCURLY", "RCURLY", "LPAREN", "RPAREN", "LSQBRACKET",
    "RSQBRACKET", "SEMICOLON", "COMMA", "DOT", "ASSIGN", "PLUS", "MINUS", "TIMES", "DIVIDE",
    "PERCENT", "AMPERSAND", "BAR", "NOT", "EQUALS", "NOTEQUALS", "LESS", "GREATER", "LESSEQ",
    "GREATEREQ"]

/-- The name that goes with a number; numbers that stand for nothing share one name. -/
def codeName (code : Nat) : String := codeNames[code]?.getD "UNKNOWN TOKEN"

/-- The number of a token. -/
def code : Token → Nat
  | keyword k => k.code
  | mark m => m.code
  | ident _ => 17
  | intLit _ => 18
  | realLit _ => 19
  | stringLit _ => 20
  | charLit _ => 21

/-- The name of a token. -/
def name (t : Token) : String := codeName t.code

/-- The text of an identifier or a literal; the other tokens have none of their own. -/
def text? : Token → Option String
  | keyword _ | mark _ => none
  | ident text | intLit text | realLit text | stringLit text | charLit text => some text

/-- How messages speak of a token. -/
def describe : Token → String
  | ident name => s!"identifier '{name}'"
  | intLit text => s!"int literal {text}"
  | realLit text => s!"real literal {text}"
  | stringLit text => s!"string literal {text}"
  | charLit text => s!"char literal {text}"
  | t => t.name

/-- How the token is written in a source. -/
def spelling : Token → String
  | keyword k => k.spelling
  | mark m => m.spelling
  | ident text | intLit text | realLit text | stringLit text | charLit text => text

/-- Whether a declaration may start with the token. -/
def startsType : Token → Bool
  | keyword k => k.startsType
  | _ => false

/-- The token that a word of letters, digits and underscores stands for. -/
def ofWord (word : String) : Token :=
  match Keyword.ofSpelling? word with
  | some k => keyword k
  | none => ident word

end Token

end SyntaxOutline

import SyntaxOutline.Main
import SyntaxOutline.Literal.Value
import SyntaxOutline.Program.Equality
import SyntaxOutline.Viewer.App
import SyntaxOutline.Proofs.Grammar.Reads
import SyntaxOutline.Proofs.Program.Demand
import SyntaxOutline.Proofs.Program.Precedence
import SyntaxOutline.Proofs.Grammar.ExpressionReads
import SyntaxOutline.Proofs.Grammar.ProgramReads
import SyntaxOutline.Proofs.Outline.TokenStream
import SyntaxOutline.Proofs.Grammar.Verdict
import SyntaxOutline.Proofs.Grammar.ExpressionVerdict
import SyntaxOutline.Proofs.Grammar.ProgramVerdict
import SyntaxOutline.Proofs.Program.Nesting
import SyntaxOutline.Proofs.Grammar.NestingLimit
import SyntaxOutline.Proofs.Outline.LineText
import SyntaxOutline.Proofs.Outline.Shape
import SyntaxOutline.Proofs.Outline.Injective
import SyntaxOutline.Proofs.Outline.FullSink
import SyntaxOutline.Proofs.Outline.Accounts
import SyntaxOutline.Proofs.Lexer.Spelling
import SyntaxOutline.Proofs.Lexer.Gaps
import SyntaxOutline.Proofs.Lexer.LongestMatch
import SyntaxOutline.Proofs.Lexer.Concatenation
import SyntaxOutline.Proofs.Grammar.Rules
import SyntaxOutline.Proofs.Grammar.Follows
import SyntaxOutline.Proofs.Grammar.ExpressionFollows
import SyntaxOutline.Proofs.Grammar.ProgramFollows
import SyntaxOutline.Proofs.Grammar.Derived
import SyntaxOutline.Proofs.Grammar.EarliestError
import SyntaxOutline.Proofs.Grammar.Concatenation
import SyntaxOutline.Proofs.Grammar.Cursor
import SyntaxOutline.Proofs.Grammar.CursorMirrors
import SyntaxOutline.Proofs.Grammar.RoutineMirrors
import SyntaxOutline.Proofs.Grammar.SessionSafety
import SyntaxOutline.Proofs.Grammar.Layout
import SyntaxOutline.Proofs.Command.Run
import SyntaxOutline.Proofs.Files.Frame
import SyntaxOutline.Proofs.Viewer.Drawing
import SyntaxOutline.Proofs.Viewer.Scrolling
import SyntaxOutline.Proofs.Grammar.Unambiguous
import SyntaxOutline.Proofs.Lexer.LaidOut
import SyntaxOutline.Proofs.Lexer.TruePositions
import SyntaxOutline.Proofs.Outline.ProgramTree
import SyntaxOutline.Proofs.Outline.DepthLimit
import SyntaxOutline.Proofs.Lexer.Resuming
import SyntaxOutline.Proofs.Viewer.TreeLines
import SyntaxOutline.Proofs.Outline.PrintedTokens
import SyntaxOutline.Proofs.Viewer.Highlighting

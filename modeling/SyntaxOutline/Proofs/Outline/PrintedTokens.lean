import SyntaxOutline.Proofs.Outline.TokenStream
import SyntaxOutline.Proofs.Viewer.TreeLines

/-!
# What is printed gives back the tokens

The text that is printed for a program is all it takes to get back the tokens of the source. It is
cut into lines and each line into its indentation, its label and its value, as the viewer does it; a
label with its value stands for the tokens that it names. Nothing is lost, added or reordered on the
way from the source through the program to the text: main result `parse_printed_tokens`.
-/

namespace SyntaxOutline

/-- The tokens that a line stands for which was taken apart. -/
def TreeLine.reading (l : TreeLine) : List (Nat × Option String) :=
  Line.reading ⟨0, String.ofList l.name, l.value?.map String.ofList⟩

/-- The tokens that the lines of a text stand for, from top to bottom. -/
def printedTokens (text : String) : List (Nat × Option String) :=
  (Text.lines text).flatMap fun line => (TreeLine.split line.toList).reading

/-- A line is read by its label and its value, which its parts keep. -/
theorem Item.reading_parts (unit : String) (i : Item) : (i.parts unit).reading = i.line.reading := by
  rw [TreeLine.reading, parts, String.ofList_toList, Option.map_map]
  have hvalue : i.entry.value?.map (String.ofList ∘ String.toList) = i.entry.value? := by
    cases i.entry.value? with
    | none => rfl
    | some value => exact congrArg some String.ofList_toList
  rw [hvalue]
  rfl

/-- What is printed for a source that parses stands for the tokens of the program. -/
theorem printedTokens_outlineText {source : String} {p : Program} (h : parse source = .ok p)
    (n : Nat) : printedTokens (p.outlineText (spaces n)) = p.tokens.map Token.key := by
  calc
    printedTokens (p.outlineText (spaces n))
        = ((Text.lines (p.outlineText (spaces n))).map fun line =>
            TreeLine.split line.toList).flatMap TreeLine.reading := (List.flatMap_map ..).symm
    _ = ((p.outline 0).map (Item.parts (spaces n))).flatMap TreeLine.reading := by
      rw [lines_outlineText_of_parse h n, split_lines]
    _ = ((p.outline 0).map Item.line).flatMap Line.reading := by
      rw [List.flatMap_map, List.flatMap_map]
      exact congrArg (fun f => (p.outline 0).flatMap f) (funext (Item.reading_parts (spaces n)))
    _ = p.tokens.map Token.key := by rw [flatMap_reading, Program.outlineTokens_outline]

/-- Parsing and printing lose, add and reorder no token. Of a source that parses, print the program
to a sink without a limit, with any number of spaces to indent by. The sink has taken a text, as
many lines of it as were counted, and the tokens that these lines stand for are the tokens of the
source, each with its number and with its text if it is an identifier or a literal. -/
theorem parse_printed_tokens {source : String} {p : Program} (h : parse source = .ok p) (n : Nat) :
    ∃ list text, tokensOf source = .ok list ∧
      (p.print (spaces n) Sink.unlimited).2.held = text.toUTF8 ∧
      (p.print (spaces n) Sink.unlimited).1 = .ok (Text.lines text).length ∧
      printedTokens text = list.tokens.map fun t => (t.token.code, t.token.text?) := by
  obtain ⟨list, hlist, htokens⟩ := tokenKinds?_eq_some (parse_ok h).1
  refine ⟨list, p.outlineText (spaces n), hlist, ?_, ?_, ?_⟩
  · rw [Program.print_unlimited]
  · rw [Program.print_unlimited, lines_outlineText_of_parse h n, List.length_map]
  · rw [printedTokens_outlineText h, ← htokens, List.map_map]
    rfl

/-- A struct, a parameter of its type, an array, and a loop without a start and a step. -/
def loopSource : String :=
  "struct P\x7bint x;\x7d;void f(struct P p)\x7bint a[3];for(;a[0]<p.x;)\x7breturn;\x7d\x7d"

/-- The program that `loopSource` spells. -/
def loopProgram : Program :=
  ⟨[.struct "P" [⟨.int, "x", none⟩],
    .function .void "f" [⟨.struct "P", "p"⟩]
      ⟨[⟨.int, "a", some ⟨"3"⟩⟩],
        [.forLoop none
          (.binary .less (.place (.element (.var "a") (.int ⟨"0"⟩)))
            (.place (.field (.var "p") "x")))
          none ⟨[], [.return_ none]⟩]⟩]⟩

/-- A program with a loop, printed with two blanks as unit. -/
theorem parse_printed_tokens_loop :
    parse loopSource = .ok loopProgram ∧
      ∃ list text, tokensOf loopSource = .ok list ∧
        (loopProgram.print "  " Sink.unlimited).2.held = text.toUTF8 ∧
        (loopProgram.print "  " Sink.unlimited).1 = .ok (Text.lines text).length ∧
        printedTokens text = list.tokens.map fun t => (t.token.code, t.token.text?) := by
  have h : parse loopSource = .ok loopProgram := by with_unfolding_all rfl
  exact ⟨h, parse_printed_tokens h 2⟩

end SyntaxOutline

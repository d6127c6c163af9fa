import TemplateAtlas.LineLexer
import TemplateAtlas.Soy.Grammar

/-!
# Reading Soy line by line

The modes in force form a stack, written innermost first: entering a mode puts it on top, leaving
one takes it off, and the outermost mode is never left.  The stack is what one line hands on to the
next.

* `readFrom` — the tokens of what is left of a line, and the stack after them.  Each token takes the
  character in front and `Cut.extra` more.  In a mode without rules the reading stops.
* `readLine` — the tokens of a line.  An empty line leaves the stack as it is, even when it is empty;
  any other line treats the empty stack as ordinary text.
* `unknownMode?` — after reading, a mode without rules on top of the stack is one that the reading
  needed and could not use.
* `lexer` — the line lexer, which starts every text as ordinary text.
-/

namespace TemplateAtlas.Soy

/-- The modes in force, innermost first. -/
abbrev Stack := List Mode

/-- The stack after a move out of the mode on top; the outermost mode is never left. -/
def Move.apply : Move → Mode → Stack → Stack
  | stay, mode, below => mode :: below
  | enter inner, mode, below => inner :: mode :: below
  | leave, mode, [] => [mode]
  | leave, _, below => below

/-- The tokens of what is left of a line from a column on, and the stack after them. -/
def readFrom (column : Nat) (before : Option Char) (stack : Stack) :
    List Char → List Token × Stack
  | [] => ([], stack)
  | c :: cs =>
    match stack with
    | [] => ([], stack)
    | mode :: below =>
      match mode.cut? before c cs with
      | none => ([], stack)
      | some cut =>
        let text := c :: cs.take cut.extra
        let (tokens, stack) :=
          readFrom (column + text.length) text.getLast? (cut.move.apply mode below)
            (cs.drop cut.extra)
        (.placed text cut.kind column :: tokens, stack)
termination_by cs => cs.length
decreasing_by simp only [List.length_drop, List.length_cons]; omega

/-- The tokens of a line and the stack after it. -/
def readLine (line : List Char) (stack : Stack) : List Token × Stack :=
  if line.isEmpty then ([], stack)
  else readFrom 0 none (if stack.isEmpty then [.root] else stack) line

/-- The mode without rules that stopped the reading of a line, if one did. -/
def unknownMode? (line : List Char) (stack : Stack) : Option String :=
  if line.isEmpty then none
  else
    match (readLine line stack).2 with
    | .unknown name :: _ => some name
    | _ => none

/-- The Soy lexer.  Every text starts as ordinary text. -/
def lexer : LineLexer Stack where
  restart _ := [.root]
  line := readLine

end TemplateAtlas.Soy

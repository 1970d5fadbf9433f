import DocReview.Source.Grammar.Statement
import DocReview.Text.Lines
/-!
# Program — from a text to its statements

`parse` reads a whole program and `parseExpression` one expression.  A text with a null character is refused; line ends
are line feeds, and a program ends with one.
-/
namespace DocReview.Source

open Reader

/-- A program's text as it is read. -/
def programText (cs : List Char) : List Char :=
  let cs := Text.foldNewlines cs
  if cs.getLast? = some '\n' then cs else cs ++ ['\n']

def run {α : Type} (p : Reader α) (ts : List Token) : Except Refusal α :=
  match p { rest := ts, lastLine := 0 } with
  | .ok (a, _) => .ok a
  | .error e => .error e

def parse (cs : List Char) : Except Refusal (List Stmt) :=
  if cs.contains '\x00' then .error .malformed
  else
    let text := programText cs
    let depth := text.length + 2
    run (do
      let body ← Statements.upTo (Rules.upTo depth) depth
      expect .finish
      return body) (tokens text)

def parseExpression (cs : List Char) : Except Refusal Expr :=
  if cs.contains '\x00' then .error .malformed
  else
    let text := Text.foldNewlines cs
    let depth := text.length + 2
    run (do
      let e ← (Rules.upTo depth).expressions
      let _ ← many (· = .newline) skip
      expect .finish
      return e) (tokens text)

end DocReview.Source

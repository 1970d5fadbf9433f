import DocReview.Number.Binary64
/-!
# Token — the words of a source text

A token knows the line it starts on, the column in bytes, and the line it ends on.  The token list of a text ends with
`Tok.finish`, or with the `Tok.fault` at which reading stopped.
-/
namespace DocReview.Source

inductive Keyword where
  | kFalse | kNone | kTrue | kAnd | kAs | kAssert | kAsync | kAwait | kBreak | kClass | kContinue | kDef | kDel
  | kElif | kElse | kExcept | kFinally | kFor | kFrom | kGlobal | kIf | kImport | kIn | kIs | kLambda | kNonlocal
  | kNot | kOr | kPass | kRaise | kReturn | kTry | kWhile | kWith | kYield
  deriving DecidableEq

def Keyword.spellings : List (List Char × Keyword) :=
  [(['F', 'a', 'l', 's', 'e'], .kFalse),
    (['N', 'o', 'n', 'e'], .kNone),
    (['T', 'r', 'u', 'e'], .kTrue),
    (['a', 'n', 'd'], .kAnd),
    (['a', 's'], .kAs),
    (['a', 's', 's', 'e', 'r', 't'], .kAssert),
    (['a', 's', 'y', 'n', 'c'], .kAsync),
    (['a', 'w', 'a', 'i', 't'], .kAwait),
    (['b', 'r', 'e', 'a', 'k'], .kBreak),
    (['c', 'l', 'a', 's', 's'], .kClass),
    (['c', 'o', 'n', 't', 'i', 'n', 'u', 'e'], .kContinue),
    (['d', 'e', 'f'], .kDef),
    (['d', 'e', 'l'], .kDel),
    (['e', 'l', 'i', 'f'], .kElif),
    (['e', 'l', 's', 'e'], .kElse),
    (['e', 'x', 'c', 'e', 'p', 't'], .kExcept),
    (['f', 'i', 'n', 'a', 'l', 'l', 'y'], .kFinally),
    (['f', 'o', 'r'], .kFor),
    (['f', 'r', 'o', 'm'], .kFrom),
    (['g', 'l', 'o', 'b', 'a', 'l'], .kGlobal),
    (['i', 'f'], .kIf),
    (['i', 'm', 'p', 'o', 'r', 't'], .kImport),
    (['i', 'n'], .kIn),
    (['i', 's'], .kIs),
    (['l', 'a', 'm', 'b', 'd', 'a'], .kLambda),
    (['n', 'o', 'n', 'l', 'o', 'c', 'a', 'l'], .kNonlocal),
    (['n', 'o', 't'], .kNot),
    (['o', 'r'], .kOr),
    (['p', 'a', 's', 's'], .kPass),
    (['r', 'a', 'i', 's', 'e'], .kRaise),
    (['r', 'e', 't', 'u', 'r', 'n'], .kReturn),
    (['t', 'r', 'y'], .kTry),
    (['w', 'h', 'i', 'l', 'e'], .kWhile),
    (['w', 'i', 't', 'h'], .kWith),
    (['y', 'i', 'e', 'l', 'd'], .kYield)]

def Keyword.ofText? (w : List Char) : Option Keyword := Keyword.spellings.lookup w

/-- Operators and delimiters. `unknown` is a printable character that no rule takes. -/
inductive Punct where
  | lparen | rparen | lbracket | rbracket | lbrace | rbrace
  | comma | colon | semicolon | dot | ellipsis | arrow | colonEq | eq
  | plus | minus | star | slash | percent | amp | bar | caret | tilde | at | less | greater
  | doubleStar | doubleSlash | shiftLeft | shiftRight
  | eqEq | notEq | lessEq | greaterEq
  | plusEq | minusEq | starEq | slashEq | percentEq | ampEq | barEq | caretEq | atEq
  | doubleStarEq | doubleSlashEq | shiftLeftEq | shiftRightEq
  | unknown
  deriving DecidableEq

/-- The longest operator at the start of a text, with the number of its characters. -/
def Punct.scan : List Char → Punct × Nat
  | '*' :: '*' :: '=' :: _ => (.doubleStarEq, 3)
  | '/' :: '/' :: '=' :: _ => (.doubleSlashEq, 3)
  | '<' :: '<' :: '=' :: _ => (.shiftLeftEq, 3)
  | '>' :: '>' :: '=' :: _ => (.shiftRightEq, 3)
  | '.' :: '.' :: '.' :: _ => (.ellipsis, 3)
  | '*' :: '*' :: _ => (.doubleStar, 2)
  | '/' :: '/' :: _ => (.doubleSlash, 2)
  | '<' :: '<' :: _ => (.shiftLeft, 2)
  | '>' :: '>' :: _ => (.shiftRight, 2)
  | '!' :: '=' :: _ => (.notEq, 2)
  | '%' :: '=' :: _ => (.percentEq, 2)
  | '&' :: '=' :: _ => (.ampEq, 2)
  | '*' :: '=' :: _ => (.starEq, 2)
  | '+' :: '=' :: _ => (.plusEq, 2)
  | '-' :: '=' :: _ => (.minusEq, 2)
  | '-' :: '>' :: _ => (.arrow, 2)
  | '/' :: '=' :: _ => (.slashEq, 2)
  | ':' :: '=' :: _ => (.colonEq, 2)
  | '<' :: '=' :: _ => (.lessEq, 2)
  | '<' :: '>' :: _ => (.unknown, 2)
  | '=' :: '=' :: _ => (.eqEq, 2)
  | '>' :: '=' :: _ => (.greaterEq, 2)
  | '@' :: '=' :: _ => (.atEq, 2)
  | '^' :: '=' :: _ => (.caretEq, 2)
  | '|' :: '=' :: _ => (.barEq, 2)
  | '(' :: _ => (.lparen, 1)
  | ')' :: _ => (.rparen, 1)
  | '[' :: _ => (.lbracket, 1)
  | ']' :: _ => (.rbracket, 1)
  | '{' :: _ => (.lbrace, 1)
  | '}' :: _ => (.rbrace, 1)
  | ',' :: _ => (.comma, 1)
  | ':' :: _ => (.colon, 1)
  | ';' :: _ => (.semicolon, 1)
  | '.' :: _ => (.dot, 1)
  | '=' :: _ => (.eq, 1)
  | '+' :: _ => (.plus, 1)
  | '-' :: _ => (.minus, 1)
  | '*' :: _ => (.star, 1)
  | '/' :: _ => (.slash, 1)
  | '%' :: _ => (.percent, 1)
  | '&' :: _ => (.amp, 1)
  | '|' :: _ => (.bar, 1)
  | '^' :: _ => (.caret, 1)
  | '~' :: _ => (.tilde, 1)
  | '@' :: _ => (.at, 1)
  | '<' :: _ => (.less, 1)
  | '>' :: _ => (.greater, 1)
  | _ => (.unknown, 1)

/-- A number as written: an integer, a double, or an imaginary part. -/
inductive Number where
  | int (n : Nat)
  | float (x : Binary64)
  | imaginary (x : Binary64)
  /-- A decimal integer with more digits than are read. -/
  | tooLong
  deriving DecidableEq

/-- A string literal as written: its letters before the quote, and what stands between the quotes. -/
structure Quote where
  bytes : Bool
  raw : Bool
  formatted : Bool
  /-- Whether the literal starts with a small `u`, which is kept when it is printed. -/
  marked : Bool
  body : List Char
  deriving DecidableEq

inductive LexFault where
  /-- A character, number, string or bracket that cannot be read. -/
  | malformed
  /-- A backslash that ends no line, or a text that ends inside brackets or after a backslash. -/
  | unfinished
  /-- A line indented less than the one before, and not as any line around it. -/
  | badDedent
  | tooDeep
  /-- Tabs and blanks that compare differently for different widths of a tab. -/
  | mixedTabs
  deriving DecidableEq

inductive Tok where
  /-- A name, and whether it was written in ASCII: only then can it act as a soft keyword. -/
  | name (id : String) (ascii : Bool)
  | keyword (k : Keyword)
  | number (n : Number)
  | string (q : Quote)
  | punct (p : Punct)
  | newline
  | indent
  | dedent
  | finish
  | fault (f : LexFault)
  deriving DecidableEq

structure Token where
  tok : Tok
  line : Nat
  col : Nat
  endLine : Nat
  deriving DecidableEq

end DocReview.Source

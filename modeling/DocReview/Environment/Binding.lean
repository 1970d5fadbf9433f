import DocReview.Environment.Reader
import DocReview.Text.Blank
/-!
# Binding — lines of an environment file

An environment file gives values to names, a binding after the other.  A binding starts with blanks and perhaps the word
`export`; its key may stand between apostrophes, its value between apostrophes or double quotes, and it ends, perhaps
after a comment, with its line.  Where no binding can be read the rest of the line is passed over, and what was read is a
binding in error.  A binding knows its own text and the line where reading it began, from the mark that is set there.
-/
namespace DocReview.Environment

open DocReview.Text (isBlank)

structure Binding where
  key : Option String
  value : Option String
  text : List Char
  /-- The line where reading it began. -/
  line : Nat
  isError : Bool
  deriving DecidableEq

/-! ## Patterns -/

def blanks : Pattern Unit := fun cs => some ((), (cs.takeWhile isBlank).length)

def isInlineBlank (c : Char) : Bool := isBlank c && c ≠ '\n'

def inlineLength (cs : List Char) : Nat := (cs.takeWhile isInlineBlank).length

def inlineBlanks : Pattern Unit := fun cs => some ((), inlineLength cs)

/-- The word `export` and the blanks after it, if there are any. -/
def exportWord : Pattern Unit := fun cs =>
  let after := inlineLength (cs.drop 6)
  if "export".toList.isPrefixOf cs ∧ after ≠ 0 then some ((), 6 + after) else some ((), 0)

/-- A key between apostrophes. -/
def quotedKey : Pattern (List Char)
  | '\'' :: rest =>
    let key := rest.takeWhile (· ≠ '\'')
    if key = [] ∨ key.length = rest.length then none else some (key, key.length + 2)
  | _ => none

def isKeyChar (c : Char) : Bool := c ≠ '=' && c ≠ '#' && !isBlank c

def plainKey : Pattern (List Char) := fun cs =>
  let key := cs.takeWhile isKeyChar
  if key = [] then none else some (key, key.length)

def equalsSign : Pattern Unit
  | '=' :: rest => some ((), 1 + inlineLength rest)
  | _ => none

/-- What stands before the first quote that has no backslash before it. -/
def closed? (quote : Char) : Char → List Char → Option (List Char)
  | _, [] => none
  | before, c :: cs => if c = quote ∧ before ≠ '\\' then some [] else (closed? quote c cs).map (c :: ·)

/-- What stands before the last quote that has a backslash before it. -/
def lastClosed? (quote : Char) : Char → List Char → Option (List Char)
  | _, [] => none
  | before, c :: cs =>
    match lastClosed? quote c cs with
    | some inner => some (c :: inner)
    | none => if c = quote ∧ before = '\\' then some [] else none

/-- A value between quotes: up to a quote that closes it, or else up to the last escaped one. -/
def quotedValue (quote : Char) : Pattern (List Char)
  | c :: rest =>
    if c = quote then
      (closed? quote quote rest <|> lastClosed? quote quote rest).map fun inner => (inner, inner.length + 2)
    else none
  | [] => none

def lineLength (cs : List Char) : Nat := (cs.takeWhile (· ≠ '\n')).length

def plainValue : Pattern (List Char) := fun cs => some (cs.takeWhile (· ≠ '\n'), lineLength cs)

/-- A comment up to the end of its line, if there is one. -/
def comment : Pattern Unit := fun cs =>
  let blank := inlineLength cs
  match cs.drop blank with
  | '#' :: rest => some ((), blank + 1 + lineLength rest)
  | _ => some ((), 0)

def lineEnd : Pattern Unit := fun cs =>
  let blank := inlineLength cs
  match cs.drop blank with
  | [] => some ((), blank)
  | '\n' :: _ => some ((), blank + 1)
  | _ => none

/-- What is left of a line, and the line feed after it. -/
def restOfLine : Pattern Unit := fun cs => some ((), min (lineLength cs + 1) cs.length)

/-! ## Escapes -/

/-- Replaces the escapes that `meaning` knows; `pending` after a backslash. -/
def unescapeFrom (meaning : Char → Option Char) : Bool → List Char → List Char
  | false, [] => []
  | true, [] => ['\\']
  | false, c :: cs => if c = '\\' then unescapeFrom meaning true cs else c :: unescapeFrom meaning false cs
  | true, c :: cs =>
    match meaning c with
    | some d => d :: unescapeFrom meaning false cs
    | none => '\\' :: c :: unescapeFrom meaning false cs

def unescape (meaning : Char → Option Char) (cs : List Char) : List Char := unescapeFrom meaning false cs

def singleEscape : Char → Option Char
  | '\\' => some '\\'
  | '\'' => some '\''
  | _ => none

def doubleEscape : Char → Option Char
  | '\\' => some '\\'
  | '\'' => some '\''
  | '"' => some '"'
  | 'a' => some '\x07'
  | 'b' => some '\x08'
  | 'f' => some '\x0c'
  | 'n' => some '\n'
  | 'r' => some '\r'
  | 't' => some '\t'
  | 'v' => some '\x0b'
  | _ => none

/-- What stands before the first blanks that a number sign follows. -/
def beforeComment : List Char → List Char
  | [] => []
  | c :: cs =>
    if isBlank c && (cs.dropWhile isBlank).head? = some '#' then [] else c :: beforeComment cs

/-! ## Bindings -/

/-- Reads a key; where a comment starts there is none. -/
def readKey : Read (Option (List Char)) := do
  let next ← Read.peek
  if next = some '#' then return none
  else if next = some '\'' then return some (← Read.pattern quotedKey)
  else return some (← Read.pattern plainKey)

def readValue : Read (List Char) := do
  let next ← Read.peek
  if next = some '\'' then return unescape singleEscape (← Read.pattern (quotedValue '\''))
  else if next = some '"' then return unescape doubleEscape (← Read.pattern (quotedValue '"'))
  else if next = none ∨ next = some '\n' then return []
  else return Text.trimEnd (beforeComment (← Read.pattern plainValue))

/-- Reads the value that a key is given, if there is an equals sign. -/
def readAssigned : Read (Option (List Char)) := do
  if (← Read.peek) = some '=' then
    Read.pattern equalsSign
    return some (← readValue)
  else return none

def readAfterKey : Read (Option (List Char)) := do
  Read.pattern inlineBlanks
  let value ← readAssigned
  Read.pattern comment
  Read.pattern lineEnd
  return value

def readPair : Read (Option (List Char) × Option (List Char)) := do
  Read.pattern exportWord
  return (← readKey, ← readAfterKey)

/-- Reads a key and a value from a text that has some left; behind the last binding there may be blanks alone. -/
def readBody : Read (Option (List Char) × Option (List Char)) := do
  Read.pattern blanks
  if (← get).hasNext then readPair else return (none, none)

def Reader.binding (r : Reader) (key value : Option (List Char)) (isError : Bool) : Binding :=
  ⟨key.map String.ofList, value.map String.ofList, r.marked, r.mark.line, isError⟩

def readBinding : StateM Reader Binding := do
  modify Reader.setMark
  match ← readBody.run with
  | some (key, value) => return (← get).binding key value false
  | none =>
    discard (Read.pattern restOfLine).run
    return (← get).binding none none true

/-- The bindings that are ahead: so many at most. -/
def readBindings : Nat → StateM Reader (List Binding)
  | 0 => return []
  | bound + 1 => do
    if (← get).hasNext then return (← readBinding) :: (← readBindings bound) else return []

def bindings (cs : List Char) : List Binding := ((readBindings cs.length).run { text := cs }).1

end DocReview.Environment

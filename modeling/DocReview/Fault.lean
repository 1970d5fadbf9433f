import DocReview.Disk
import DocReview.Json.Reader
import DocReview.Source.Cursor
import DocReview.Text.Quoted
/-!
# Fault — what can go wrong

Every operation that can fail says so with one of these causes, and `Fault.message` puts a cause into words.  Data of
any shape is used as if it had the shape expected, so most causes are that a value is of another kind.
-/
namespace DocReview

inductive Fault where
  | lacks (kind : Kind) (operation : String)
  | notIterable (kind : Kind)
  | notSubscriptable (kind : Kind)
  | noLength (kind : Kind)
  | notContainer (kind : Kind)
  | itemNotText (index : Nat) (kind : Kind)
  | notJoinable
  | fieldOfList
  | fieldOfText
  | notKey (kind : Kind)
  | missingKey (key : String)
  | outOfRange
  | notComparable (symbol : String) (left right : Kind)
  /-- A text cannot be repeated so many times. -/
  | notCount (kind : Kind)
  /-- A text cannot be repeated so many times, for there is no such number. -/
  | countTooLarge
  | notPosition
  | notPath (kind : Kind)
  | unsupported (symbol : String) (left right : Kind)
  | notConcatText (kind : Kind)
  | notConcatList (kind : Kind)
  | notInteger (kind : Kind)
  | notReal (kind : Kind)
  | badInteger (text : String)
  | nanToInteger
  | infinityToInteger
  | tooLargeForFloat
  | quotientTooLarge
  | badPath (cause : PathFault) (path : String)
  | badUtf8 (fault : Text.Utf8Fault)
  | badJson (fault : Json.Fault) (document : List Char)
  | refused (refusal : Source.Refusal)
  | noApiKey
  | unknownStyle (style : String)
  | negative
  | unbound (name : String)
  | noColumn (name : String)
  /-- An outside service failed, in its own words. -/
  | service (text : String)
  | badVariableName
  | embeddedNull
  | cannotOpenDatabase
  | notDatabase

namespace Fault

def quote (s : String) : String := String.ofList (Text.quoted (Text.codePoints s))

def pathWords : PathFault → String
  | .missing => "[Errno 2] No such file or directory"
  | .exists => "[Errno 17] File exists"
  | .notDirectory => "[Errno 20] Not a directory"
  | .isDirectory => "[Errno 21] Is a directory"

def utf8Words (f : Text.Utf8Fault) : String :=
  let place :=
    if f.count = 1 then
      "byte 0x" ++ String.ofList (Text.hexPadded 2 f.byte) ++ " in position " ++ toString f.position
    else "bytes in position " ++ toString f.position ++ "-" ++ toString (f.position + f.count - 1)
  "'utf-8' codec can't decode " ++ place ++ ": " ++ f.cause.text

private def object (k : Kind) (rest : String) : String := "'" ++ k.name ++ "' object " ++ rest

private def pair (a b : Kind) : String := "'" ++ a.name ++ "' and '" ++ b.name ++ "'"

def message : Fault → String
  | .lacks k op => object k ("has no attribute '" ++ op ++ "'")
  | .notIterable k => object k "is not iterable"
  | .notSubscriptable k => object k "is not subscriptable"
  | .noLength k => "object of type '" ++ k.name ++ "' has no len()"
  | .notContainer k => "argument of type '" ++ k.name ++ "' is not iterable"
  | .itemNotText i k => "sequence item " ++ toString i ++ ": expected str instance, " ++ k.name ++ " found"
  | .notJoinable => "can only join an iterable"
  | .fieldOfList => "list indices must be integers or slices, not str"
  | .fieldOfText => "string indices must be integers, not 'str'"
  | .notKey k => "unhashable type: '" ++ k.name ++ "'"
  | .missingKey key => quote key
  | .outOfRange => "list index out of range"
  | .notComparable symbol a b => "'" ++ symbol ++ "' not supported between instances of " ++ pair a b
  | .notCount k => "can't multiply sequence by non-int of type '" ++ k.name ++ "'"
  | .countTooLarge => "cannot fit 'int' into an index-sized integer"
  | .notPosition => "slice indices must be integers or None or have an __index__ method"
  | .notPath k => "expected str, bytes or os.PathLike object, not " ++ k.name
  | .unsupported symbol a b => "unsupported operand type(s) for " ++ symbol ++ ": " ++ pair a b
  | .notConcatText k => "can only concatenate str (not \"" ++ k.name ++ "\") to str"
  | .notConcatList k => "can only concatenate list (not \"" ++ k.name ++ "\") to list"
  | .notInteger k => object k "cannot be interpreted as an integer"
  | .notReal k => "int() argument must be a string, a bytes-like object or a real number, not '" ++ k.name ++ "'"
  | .badInteger text => "invalid literal for int() with base 10: " ++ quote text
  | .nanToInteger => "cannot convert float NaN to integer"
  | .infinityToInteger => "cannot convert float infinity to integer"
  | .tooLargeForFloat => "int too large to convert to float"
  | .quotientTooLarge => "integer division result too large for a float"
  | .badPath cause path => pathWords cause ++ ": " ++ quote path
  | .badUtf8 f => utf8Words f
  | .badJson f document => f.message document
  | .refused _ => ""
  | .noApiKey => "GROQ_API_KEY not set"
  | .unknownStyle style => "Unknown style: " ++ style
  | .negative => "negative"
  | .unbound name => "name '" ++ name ++ "' is not defined"
  | .noColumn name => quote ("None of [" ++ quote name ++ "] are in the columns")
  | .service text => text
  | .badVariableName => "illegal environment variable name"
  | .embeddedNull => "embedded null byte"
  | .cannotOpenDatabase => "unable to open database file"
  | .notDatabase => "file is not a database"

end Fault
end DocReview

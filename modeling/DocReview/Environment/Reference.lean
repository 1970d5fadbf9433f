/-!
# Reference — variables inside values

A value may refer to variables: `${name}` stands for the variable's value, and `${name:-default}` for the default where
there is no such variable.  A name ends at a brace or a colon, a default at a brace.
-/
namespace DocReview.Environment

inductive Atom where
  | literal (text : List Char)
  | variable (name : List Char) (default : Option (List Char))
  deriving DecidableEq

def readReference? (cs : List Char) : Option (Atom × List Char) :=
  let name := cs.takeWhile fun c => c ≠ '}' && c ≠ ':'
  match cs.dropWhile fun c => c ≠ '}' && c ≠ ':' with
  | '}' :: rest => some (.variable name none, rest)
  | ':' :: '-' :: rest =>
    match rest.dropWhile (· ≠ '}') with
    | _ :: after => some (.variable name (some (rest.takeWhile (· ≠ '}'))), after)
    | [] => none
  | _ => none

/-- The parts of a value after the literal text `before`, backwards: so many steps at most. -/
def atomsFrom : Nat → List Char → List Char → List Atom
  | 0, before, cs => if before.isEmpty && cs.isEmpty then [] else [.literal (before.reverse ++ cs)]
  | bound + 1, before, cs =>
    let flushed := if before.isEmpty then [] else [Atom.literal before.reverse]
    match cs with
    | [] => flushed
    | '$' :: '{' :: rest =>
      match readReference? rest with
      | some (a, rest) => flushed ++ a :: atomsFrom bound [] rest
      | none => atomsFrom bound ('$' :: before) ('{' :: rest)
    | c :: rest => atomsFrom bound (c :: before) rest

def atoms (value : List Char) : List Atom := atomsFrom (value.length + 1) [] value

/-- What a variable stands for; one that is there without a value stands for nothing. -/
def Atom.resolve (lookup : String → Option (Option String)) : Atom → List Char
  | .literal text => text
  | .variable name default =>
    match lookup (String.ofList name) with
    | some (some value) => value.toList
    | some none => []
    | none => default.getD []

def resolve (lookup : String → Option (Option String)) (value : String) : String :=
  String.ofList ((atoms value.toList).flatMap (Atom.resolve lookup))

end DocReview.Environment

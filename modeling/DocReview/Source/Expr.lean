import DocReview.Number.Binary64
/-!
# Expr — expressions

The expressions of a source text, without their positions.  Parentheses leave no trace, except that a tuple is a tuple.
-/
namespace DocReview.Source

inductive BoolOp where
  | and | or
  deriving DecidableEq

inductive BinOp where
  | add | sub | mult | matMult | div | mod | pow | lShift | rShift | bitOr | bitXor | bitAnd | floorDiv
  deriving DecidableEq

inductive UnaryOp where
  | invert | not | plus | minus
  deriving DecidableEq

inductive CmpOp where
  | eq | notEq | lt | ltE | gt | gtE | is | isNot | mem | notMem
  deriving DecidableEq

/-- How a value in a formatted string is turned into text, when that is said. -/
inductive Conversion where
  | str | repr | ascii
  deriving DecidableEq

/-- A literal. Text is a list of code points, since an escape can name a lone surrogate. -/
inductive Literal where
  | none
  | bool (b : Bool)
  | ellipsis
  | int (n : Nat)
  | float (x : Binary64)
  | imaginary (x : Binary64)
  | text (marked : Bool) (points : List Nat)
  | bytes (bs : List Nat)
  deriving DecidableEq

mutual

inductive Expr where
  | boolOp (op : BoolOp) (values : List Expr)
  | named (target value : Expr)
  | binOp (left : Expr) (op : BinOp) (right : Expr)
  | unary (op : UnaryOp) (operand : Expr)
  | lambda (params : Params) (body : Expr)
  | ifExp (test body orelse : Expr)
  | dict (items : List DictItem)
  | set (elts : List Expr)
  | listComp (elt : Expr) (clauses : List ForClause)
  | setComp (elt : Expr) (clauses : List ForClause)
  | dictComp (key value : Expr) (clauses : List ForClause)
  | generator (elt : Expr) (clauses : List ForClause)
  | await (value : Expr)
  | yield (value : Option Expr)
  | yieldFrom (value : Expr)
  | compare (left : Expr) (rest : List Comparison)
  | call (func : Expr) (args : List Expr) (keywords : List Argument)
  /-- A value in a formatted string, with its format, which is a formatted string again. -/
  | formatted (value : Expr) (conversion : Option Conversion) (format : Option Expr)
  | joined (parts : List Expr)
  | literal (value : Literal)
  | attribute (value : Expr) (attr : String)
  | subscript (value index : Expr)
  | starred (value : Expr)
  | name (id : String)
  | list (elts : List Expr)
  | tuple (elts : List Expr)
  | slice (lower upper step : Option Expr)

/-- An entry of a dictionary, or a dictionary whose entries are taken over. -/
inductive DictItem where
  | entry (key value : Expr)
  | spread (value : Expr)

inductive Comparison where
  | mk (op : CmpOp) (right : Expr)

/-- A keyword argument, or a dictionary of them. -/
inductive Argument where
  | keyword (name : String) (value : Expr)
  | spread (value : Expr)

inductive ForClause where
  | mk (isAsync : Bool) (target iter : Expr) (conditions : List Expr)

inductive Param where
  | mk (name : String) (hint : Option Expr)

/-- The parameters of a definition. `defaults` belong to the last of the positional ones; `kwDefaults` stand beside
the keyword-only ones. -/
inductive Params where
  | mk (positionalOnly : List Param) (positional : List Param) (variadic : Option Param)
      (keywordOnly : List Param) (kwDefaults : List (Option Expr)) (keywords : Option Param) (defaults : List Expr)

end

instance : Inhabited Expr := ⟨.name ""⟩

namespace Param

def name : Param → String
  | .mk n _ => n

def hint : Param → Option Expr
  | .mk _ a => a

end Param

namespace Params

def empty : Params := .mk [] [] none [] [] none []

def positional : Params → List Param
  | .mk _ ps _ _ _ _ _ => ps

def keywordOnly : Params → List Param
  | .mk _ _ _ ks _ _ _ => ks

def defaults : Params → List Expr
  | .mk _ _ _ _ _ _ ds => ds

end Params
end DocReview.Source

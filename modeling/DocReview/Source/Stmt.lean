import DocReview.Source.Expr
/-!
# Stmt — statements

The statements of a source text.  Definitions carry the place of their `def` or `class`.
-/
namespace DocReview.Source

/-- Where a definition stands: its first and last line, and the column of its first word in bytes. -/
structure Span where
  line : Nat
  endLine : Nat
  col : Nat
  deriving DecidableEq

inductive Pattern where
  | value (e : Expr)
  | singleton (l : Literal)
  | sequence (ps : List Pattern)
  | mapping (keys : List Expr) (ps : List Pattern) (rest : Option String)
  | classOf (cls : Expr) (ps : List Pattern) (names : List String) (named : List Pattern)
  | star (name : Option String)
  | capture (p : Option Pattern) (name : Option String)
  | alternatives (ps : List Pattern)

structure Alias where
  name : String
  asName : Option String
  deriving DecidableEq

structure WithItem where
  context : Expr
  target : Option Expr

mutual

inductive Stmt where
  | funcDef (isAsync : Bool) (span : Span) (name : String) (params : Params) (body : List Stmt)
      (decorators : List Expr) (returns : Option Expr)
  | classDef (span : Span) (name : String) (bases : List Expr) (keywords : List Argument) (body : List Stmt)
      (decorators : List Expr)
  | ret (value : Option Expr)
  | delete (targets : List Expr)
  | assign (targets : List Expr) (value : Expr)
  | augAssign (target : Expr) (op : BinOp) (value : Expr)
  | annAssign (target hint : Expr) (value : Option Expr)
  | forLoop (isAsync : Bool) (target iter : Expr) (body orelse : List Stmt)
  | whileLoop (test : Expr) (body orelse : List Stmt)
  | ifElse (test : Expr) (body orelse : List Stmt)
  | withBlock (isAsync : Bool) (items : List WithItem) (body : List Stmt)
  | matchCases (subject : Expr) (cases : List Case)
  | raise (exc cause : Option Expr)
  | tryExcept (grouped : Bool) (body : List Stmt) (handlers : List Handler) (orelse final : List Stmt)
  | assertion (test : Expr) (msg : Option Expr)
  | importNames (names : List Alias)
  | importFrom (module : Option String) (names : List Alias) (level : Nat)
  | globalNames (names : List String)
  | nonlocalNames (names : List String)
  | expr (value : Expr)
  | pass
  | breakLoop
  | continueLoop

inductive Case where
  | mk (pattern : Pattern) (guard : Option Expr) (body : List Stmt)

inductive Handler where
  | mk (type : Option Expr) (name : Option String) (body : List Stmt)

end

instance : Inhabited Stmt := ⟨.pass⟩

end DocReview.Source

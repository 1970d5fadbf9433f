import DocReview.Definition.Docstring
import DocReview.Definition.Measure
import DocReview.Value.Basic
/-!
# Record — what is known about a source file

A file has records of its functions, its classes with their methods, and its imports.  Only definitions that stand
directly in the file or in a class have one.  The `value` of a record is the data that reports are computed from.
-/
namespace DocReview.Definition

open DocReview.Source

structure Argument where
  name : String
  hint : Option String
  deriving DecidableEq

structure FunctionRecord where
  name : String
  line : Nat
  endLine : Nat
  args : List Argument
  defaults : List (Option String)
  returns : Option String
  hasDocstring : Bool
  complexity : Nat
  nestingDepth : Nat
  raises : List String
  yields : Bool
  indent : Nat
  deriving DecidableEq

structure MethodRecord where
  name : String
  line : Nat
  endLine : Nat
  args : List Argument
  returns : Option String
  hasDocstring : Bool
  complexity : Nat
  nestingDepth : Nat
  classAttributes : List String
  indent : Nat
  deriving DecidableEq

structure ClassRecord where
  name : String
  line : Nat
  endLine : Nat
  hasDocstring : Bool
  methods : List MethodRecord
  deriving DecidableEq

structure FileRecord where
  path : String
  functions : List FunctionRecord
  classes : List ClassRecord
  imports : List String
  moduleDocstring : Bool
  deriving DecidableEq

def argumentOf (p : Param) : Argument := ⟨p.name, p.hint.bind Expr.print?⟩

/-- The column a body of four more blanks starts at. -/
def bodyIndent (span : Span) : Nat := span.col + 4

/-- The record of a plain function; other statements have none. Positional and keyword-only arguments are listed. -/
def functionRecord? (s : Stmt) : Option FunctionRecord :=
  match s with
  | .funcDef false span name params body _ returns =>
    let n := s.node
    some
      { name
        line := span.line
        endLine := span.endLine
        args := (params.positional ++ params.keywordOnly).map argumentOf
        defaults := params.defaults.map Expr.print?
        returns := returns.bind Expr.print?
        hasDocstring := isDocumented body
        complexity := complexity span n
        nestingDepth := nestingDepth n
        raises := raises n
        yields := yields n
        indent := bodyIndent span }
  | _ => none

def functionRecords (body : List Stmt) : List FunctionRecord := body.filterMap functionRecord?

def classAttributes (body : List Stmt) : List String :=
  body.flatMap fun s =>
    match s with
    | .assign targets _ => targets.filterMap fun t =>
      match t with
      | .name id => some id
      | _ => none
    | _ => []

/-- The record of a plain function as a method. Only positional arguments are listed. -/
def methodRecord? (attributes : List String) (s : Stmt) : Option MethodRecord :=
  match s with
  | .funcDef false span name params body _ returns =>
    let n := s.node
    some
      { name
        line := span.line
        endLine := span.endLine
        args := params.positional.map argumentOf
        returns := returns.bind Expr.print?
        hasDocstring := isDocumented body
        complexity := complexity span n
        nestingDepth := nestingDepth n
        classAttributes := attributes
        indent := bodyIndent span }
  | _ => none

def classRecord? : Stmt → Option ClassRecord
  | .classDef span name _ _ body _ =>
    some
      { name
        line := span.line
        endLine := span.endLine
        hasDocstring := isDocumented body
        methods := body.filterMap (methodRecord? (classAttributes body)) }
  | _ => none

def classRecords (body : List Stmt) : List ClassRecord := body.filterMap classRecord?

def insertName (name : String) : List String → List String
  | [] => [name]
  | n :: ns => if name < n then name :: n :: ns else if name = n then n :: ns else n :: insertName name ns

def importedNames (program : Node) : List String :=
  (program.walk.flatMap fun n =>
    match n.label with
    | .imports names => names
    | _ => []).foldl (fun acc name => insertName name acc) []

def fileRecord (path : String) (body : List Stmt) : FileRecord :=
  { path
    functions := functionRecords body
    classes := classRecords body
    imports := importedNames (programNode body)
    moduleDocstring := isDocumented body }

/-! ## Records as data -/

private def number (n : Nat) : Value := .int n

def Argument.value (a : Argument) : Value := .dict [("name", .str a.name), ("annotation", .ofText? a.hint)]

def FunctionRecord.value (f : FunctionRecord) : Value :=
  .dict
    [("type", .str "function"), ("name", .str f.name), ("lineno", number f.line), ("end_lineno", number f.endLine),
      ("args", .list (f.args.map Argument.value)), ("defaults", .list (f.defaults.map .ofText?)),
      ("returns", .ofText? f.returns), ("has_docstring", .bool f.hasDocstring), ("complexity", number f.complexity),
      ("nesting_depth", number f.nestingDepth), ("raises", .strings f.raises), ("yields", .bool f.yields),
      ("indent", number f.indent)]

def MethodRecord.value (m : MethodRecord) : Value :=
  .dict
    [("type", .str "method"), ("name", .str m.name), ("lineno", number m.line), ("end_lineno", number m.endLine),
      ("args", .list (m.args.map Argument.value)), ("returns", .ofText? m.returns),
      ("has_docstring", .bool m.hasDocstring), ("complexity", number m.complexity),
      ("nesting_depth", number m.nestingDepth), ("class_attributes", .strings m.classAttributes),
      ("indent", number m.indent)]

def ClassRecord.value (c : ClassRecord) : Value :=
  .dict
    [("type", .str "class"), ("name", .str c.name), ("lineno", number c.line), ("end_lineno", number c.endLine),
      ("has_docstring", .bool c.hasDocstring), ("methods", .list (c.methods.map MethodRecord.value))]

def FileRecord.value (f : FileRecord) : Value :=
  .dict
    [("path", .str f.path), ("functions", .list (f.functions.map FunctionRecord.value)),
      ("classes", .list (f.classes.map ClassRecord.value)), ("imports", .strings f.imports),
      ("module_docstring", .bool f.moduleDocstring)]

end DocReview.Definition

import DocReview.Source.Node
import DocReview.Source.Printer
/-!
# Measure — what is measured about a definition

Branches and nesting, the exceptions raised, whether something is yielded, and the cyclomatic count of every function.
-/
namespace DocReview.Definition

open DocReview.Source

/-- Control flow that nests. -/
def isBlock : Label → Bool
  | .ifElse | .forLoop | .whileLoop | .withBlock | .tryExcept _ => true
  | _ => false

/-- Control flow, comprehensions and conditional expressions. -/
def isBranch (l : Label) : Bool :=
  match l with
  | .comprehension | .conditional => true
  | l => isBlock l

/-- Branches in a definition, and one more for every ten lines after its first; never less than one. -/
def complexity (span : Span) (n : Node) : Nat :=
  max 1 (n.count isBranch + (span.endLine - span.line) / 10)

mutual

/-- The deepest nesting met so far, after a node at a depth. -/
def deepest (depth best : Nat) : Node → Nat
  | .mk l cs => if isBlock l then deepestAll (depth + 1) (max best (depth + 1)) cs else deepestAll depth best cs

def deepestAll (depth best : Nat) : List Node → Nat
  | [] => best
  | n :: ns => deepestAll depth (deepest depth best n) ns

end

def nestingDepth (n : Node) : Nat := deepest 0 0 n

/-- The exceptions raised anywhere in a definition, as texts; one without a text is left out. -/
def raises (n : Node) : List String :=
  n.walk.filterMap fun m =>
    match m.label with
    | .raise (some e) => e.print?
    | _ => none

/-- Whether anything is yielded anywhere in a definition. -/
def yields (n : Node) : Bool :=
  n.walk.any fun m =>
    match m.label with
    | .yield => true
    | _ => false

/-! ## Cyclomatic complexity -/

structure Scored where
  name : String
  score : Nat
  deriving DecidableEq

/-- What a visit has found: the functions that have ended, and the score of the one it is in. -/
structure Tally where
  ended : List Scored
  score : Nat
  deriving DecidableEq

mutual

/-- Visits a node. A function starts a score of its own and leaves that of its surroundings as it was. -/
def visit : Node → Tally → Tally
  -- An asynchronous function has no score: what is in it counts for what is around it.
  | .mk (.function false name _ _) cs, t =>
    let inner := visitAll cs ⟨t.ended, 1⟩
    ⟨inner.ended ++ [⟨name, inner.score⟩], t.score⟩
  | .mk .ifElse cs, t => visitAll cs { t with score := t.score + 1 }
  | .mk .forLoop cs, t => visitAll cs { t with score := t.score + 1 }
  | .mk .whileLoop cs, t => visitAll cs { t with score := t.score + 1 }
  | .mk (.tryExcept handlers) cs, t => visitAll cs { t with score := t.score + handlers }
  | .mk _ cs, t => visitAll cs t

def visitAll : List Node → Tally → Tally
  | [], t => t
  | n :: ns, t => visitAll ns (visit n t)

end

/-- Every function of a program with its cyclomatic complexity, in the order in which they end. -/
def cyclomatic (program : Node) : List Scored := (visit program ⟨[], 0⟩).ended

/-! ## Size -/

structure Sized where
  name : String
  isClass : Bool
  line : Nat
  size : Nat
  deriving DecidableEq

def sizeOf? (n : Node) : Option Sized :=
  match n.label with
  | .function _ name line size => some ⟨name, false, line, size⟩
  | .classDef name line size => some ⟨name, true, line, size⟩
  | _ => none

/-- Every definition of a program, those of lesser depth first. -/
def sizes (program : Node) : List Sized := program.walk.filterMap sizeOf?

/-- One hundred less a point for every statement in the body of a definition, and not less than zero. -/
def maintainability (ds : List Sized) : Nat := 100 - ds.foldl (fun points d => points + d.size) 0

end DocReview.Definition

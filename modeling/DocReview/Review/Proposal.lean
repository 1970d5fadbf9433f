import DocReview.Screen.Page
import DocReview.Value.Arithmetic
/-!
# Proposal — docstrings for functions that have none

A docstring is generated for every function of the results that has none, file by file.  The proposals also keep the
last function that was looked at and the last docstring that was generated.
-/
namespace DocReview.Review

open Screen

structure Proposal where
  name : Value
  line : Value
  indent : Value
  file : Value
  docstring : String
  existing : Value

structure Proposals where
  files : List (Value × List Proposal) := []
  lastFunction : Option Value := none
  lastDocstring : Option String := none

def propose (style file function : Value) : Draw Proposal := do
  let docstring ← generate function style
  check do
    return ⟨← function.field "name", ← function.field "lineno", ← function.field "indent", file, docstring,
      ← function.get "docstring"⟩

/-- Goes through the functions of a file; gives its proposals, newest first, and what was looked at last. -/
def proposeAll (style file : Value) : List Value → List Proposal → Proposals → Draw (List Proposal × Proposals)
  | [], found, seen => return (found, seen)
  | f :: fs, found, seen => do
    -- A function with a docstring counts as looked at too.
    let seen := { seen with lastFunction := some f }
    if (← check (f.get "has_docstring")).truthy then proposeAll style file fs found seen
    else
      let p ← propose style file f
      proposeAll style file fs (p :: found) { seen with lastDocstring := some p.docstring }

/-- Enters the proposals of a file: in its place if it is there, else at the end. -/
def enterFile (file : Value) (ps : List Proposal) : List (Value × List Proposal) → List (Value × List Proposal)
  | [] => [(file, ps)]
  | (f, old) :: rest => if f.sameKey file then (f, ps) :: rest else (f, old) :: enterFile file ps rest

/-- The proposals for the functions of a file record, after those for the records before it. -/
def proposeFile (style : Value) (before : Proposals) (record : Value) : Draw Proposals := do
  let file ← check (record.get "path")
  let functions ← check (do (← record.get "functions" (.list [])).elements)
  let (found, seen) ← proposeAll style file functions [] before
  if found.isEmpty then return seen
  else
    if !file.isKey then throw (.fault (.notKey file.kind))
    return { seen with files := enterFile file found.reverse seen.files }

def proposals (style results : Value) : Draw Proposals := do
  (← check results.elements).foldlM (proposeFile style) {}

end DocReview.Review

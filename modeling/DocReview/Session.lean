import DocReview.Coverage.Basic
import DocReview.Report.Rows
import DocReview.Report.Store
import DocReview.Scan
import DocReview.Search
import DocReview.Suggestion.Insertion
import DocReview.Suggestion.Style
/-!
# Session — steps of work on a project

A session works on a disk and keeps the records of its last scan.  Each step answers with data or with what a file
holds, or fails; a step that fails changes nothing.
-/
namespace DocReview

open DocReview.Definition (FileRecord FunctionRecord)

structure Session where
  disk : Disk
  records : List FileRecord := []
  apiKey : Option String

namespace Session

inductive Step where
  | write (files : List (String × Option Entry))
  | read (path : String)
  | insert (path : String) (position indent docstring : Value)
  | file (path : String)
  | scan (path : String) (deep : Bool) (skip : Value)
  | functions
  | coverage
  | report (path : String)
  | rows
  | search (text status : Value)
  | metrics (path : String)
  /-- Documents the function with the given number in the file with the given number of the last scan. -/
  | document (file function : Int) (style : Value) (answer : String)

inductive Outcome where
  | data (v : Value)
  | content (c : Content)

/-- The element at an index; a negative one counts from the end. -/
def elementAt {α : Type} (xs : List α) (i : Int) : Except Fault α :=
  match (if i < 0 then if 0 ≤ xs.length + i then xs[(xs.length + i).toNat]? else none else xs[i.toNat]?) with
  | some x => .ok x
  | none => .error .outOfRange

def recordValues (s : Session) : Value := .list (s.records.map FileRecord.value)

def fileContent (d : Disk) (path : String) : Except Fault Outcome := do
  return .content (← Disk.named path (d.read path))

def sizedValue (d : Definition.Sized) : Value :=
  .dict
    [("name", .str d.name), ("type", .str (if d.isClass then "Class" else "Function")), ("line", .int d.line),
      ("complexity", .int d.size)]

def step (s : Session) : Step → Except Fault (Session × Outcome)
  | .write files => .ok ({ s with disk := s.disk.placeAll files }, .data .none)
  | .read path => do return (s, ← fileContent s.disk path)
  | .insert path position indent docstring => do
    let disk ← Suggestion.insertInFile s.disk path position indent docstring
    return ({ s with disk }, ← fileContent disk path)
  | .file path => do return (s, .data (← Scan.file s.disk path).value)
  | .scan path deep skip => do
    let records ← Scan.records s.disk path deep skip
    return ({ s with records }, .data (.strings (records.map FileRecord.path)))
  | .functions =>
    .ok (s, .data (.list (s.records.map fun r => .list (r.functions.map FunctionRecord.value))))
  | .coverage => do return (s, .data (← Coverage.compute s.recordValues).value)
  | .report path => do
    let report ← Coverage.compute s.recordValues
    let disk ← Report.store s.disk report.value path
    return ({ s with disk }, ← fileContent disk path)
  | .rows => do return (s, .data (.list ((← Report.rows s.recordValues).map Report.Row.value)))
  | .search text status => do
    let all := Value.list (s.records.flatMap fun r => r.functions.map FunctionRecord.value)
    let kept ← (← Search.functions all text status).elements
    return (s, .data (.list (← kept.mapM fun f => f.field "name")))
  | .metrics path => do
    let (index, sizes) ← Scan.metrics s.disk path
    return (s, .data (.list [.int index, .list (sizes.map sizedValue)]))
  | .document file function style answer => do
    let record ← elementAt s.records file
    let f ← elementAt record.functions function
    let content ← (Suggestion.ask s.apiKey (fun _ => answer) f.value).content
    let docstring ← Suggestion.generate f.value style content
    let disk ← Suggestion.insertInFile s.disk record.path (.int f.line) (.int f.indent) (.str docstring)
    return ({ s with disk }, ← fileContent disk record.path)

def run : Session → List Step → List (Except Fault Outcome)
  | _, [] => []
  | s, t :: ts =>
    match s.step t with
    | .ok (s, o) => .ok o :: run s ts
    | .error f => .error f :: run s ts

end Session
end DocReview

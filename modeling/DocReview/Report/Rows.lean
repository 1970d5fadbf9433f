import DocReview.Path
import DocReview.Value.Access
/-!
# Rows — functions and classes as table rows

Each function and each class of a file makes one row: its file, what it is, its name, its arguments and whether it is
documented.
-/
namespace DocReview.Report

structure Row where
  file : String
  isClass : Bool
  name : Value
  arguments : String
  documented : Bool

def argumentNames (record : Value) : Except Fault String := do
  let args ← (← record.get "args" (.list [])).elements
  Value.join ", " (← args.mapM fun a => a.field "name")

def functionRow (file : String) (record : Value) : Except Fault Row := do
  let arguments ← argumentNames record
  return ⟨file, false, ← record.field "name", arguments, (← record.field "has_docstring").truthy⟩

def classRow (file : String) (record : Value) : Except Fault Row := do
  return ⟨file, true, ← record.field "name", "", (← record.field "has_docstring").truthy⟩

/-- The rows of one file: its functions, then its classes. -/
def fileRows (record : Value) : Except Fault (List Row) := do
  let file := Path.name (← Path.ofValue (← record.field "path"))
  let functions ← (← (← record.get "functions" (.list [])).elements).mapM (functionRow file)
  let classes ← (← (← record.get "classes" (.list [])).elements).mapM (classRow file)
  return functions ++ classes

def rows (records : Value) : Except Fault (List Row) := do
  return (← (← records.elements).mapM fileRows).flatten

namespace Row

def role (r : Row) : String := if r.isClass then "Class" else "Function"

def status (r : Row) : String := if r.documented then "Present" else "Missing"

def value (r : Row) : Value :=
  .dict
    [("File", .str r.file), ("Type", .str r.role), ("Name", r.name), ("Arguments", .str r.arguments),
      ("Docstring", .str r.status)]

end Row
end DocReview.Report

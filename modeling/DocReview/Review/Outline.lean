import DocReview.Report.Rows
import DocReview.Screen.Page
/-!
# Outline — what was found in a file

The outline of a file lists its functions with their arguments, its classes and their methods, each with whether it is
documented.
-/
namespace DocReview.Review

open Screen

def functionLine (record : Value) : Except Fault String := do
  let arguments ← Report.argumentNames record
  return "Function: " ++ (← record.field "name").text ++ "(" ++ arguments ++ ") | doc: "
    ++ (← record.field "has_docstring").text

def methodLine (record : Value) : Except Fault String := do
  return "  Method: " ++ (← record.field "name").text ++ " | doc: " ++ (← record.field "has_docstring").text

def classLines (record : Value) : Except Fault (List String) := do
  let line := "Class: " ++ (← record.field "name").text ++ " | doc: " ++ (← record.field "has_docstring").text
  let methods ← (← (← record.get "methods" (.list [])).elements).mapM methodLine
  return line :: methods

def outline (record : Value) : Except Fault String := do
  let name := Path.name (← Path.ofValue (← record.field "path"))
  let documented := Value.bool (← record.get "module_docstring").truthy
  let functions ← (← (← record.get "functions" (.list [])).elements).mapM functionLine
  let classes ← (← (← record.get "classes" (.list [])).elements).mapM classLines
  let lines := ["# File: " ++ name, "Module docstring: " ++ documented.text, ""] ++ functions ++ classes.flatten
  return String.ofList (Text.joinWith ['\n'] (lines.map String.toList))

def recordOf? (selected : Value) : List Value → Except Fault (Option Value)
  | [] => .ok none
  | r :: rs => do
    if selected.isText (← r.get "path").text then return some r else recordOf? selected rs

/-- The outline of the selected file. Where it is not among the results there is no outline to show. -/
def outlinePanel (results : Value) : Draw Unit := do
  put (.markdown "### 🧠 AST Parsing Output")
  let selected := (← memory).selectedFile.getD .none
  if selected.truthy && results.truthy then
    match ← check (do recordOf? selected (← results.elements)) with
    | some record =>
      if record.truthy then put (.code (.str (← check (outline record)))) else missing
    | none => missing
  else put (.info "Select a file from sidebar to see AST output.")
where
  missing : Draw Unit := do
    put (.warning "Selected file not found.")
    throw (.fault (.unbound "txt_lines"))

end DocReview.Review

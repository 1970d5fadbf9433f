import DocReview.Definition.Record
import DocReview.Path
import DocReview.Source.Program
import DocReview.Value.Access
/-!
# Scan — the source files below a path

A path to a source file gives the record of that file.  A path to a directory gives the records of its source files in
the order of their names, and then those of its subdirectories, each in the same way; files that cannot be read are left
out, and so are those whose names start with two underscores and the subdirectories to skip.
-/
namespace DocReview.Scan

open DocReview.Definition (FileRecord)

def program (d : Disk) (path : String) : Except Fault (List Source.Stmt) := do
  (Source.parse (← d.readText path)).mapError Fault.refused

def file (d : Disk) (path : String) : Except Fault FileRecord := do
  return Definition.fileRecord path (← program d path)

/-- The directories that are skipped unless others are named. -/
def defaultSkip : Value := .strings ["venv", ".venv", "__pycache__", ".git"]

/-- Whether a name is one of those to skip: an element of a list, a part of a text or a key of a mapping. -/
def skips (skip : Value) (name : String) : Except Fault Bool :=
  match skip with
  | .str s => .ok (Text.occursIn name.toList s.toList)
  | .list items => .ok (items.any fun v => v.isText name)
  | .dict fields => .ok (fields.any fun p => p.1 = name)
  | v => .error (.notContainer v.kind)

def isSourceName (name : String) : Bool := ".py".toList.isSuffixOf name.toList

/-- Whether a file of a directory is read. -/
def isEligible (name : String) : Bool := isSourceName name && !"__".toList.isPrefixOf name.toList

/-- The record of a file of the given content, or nothing for one that cannot be read. -/
def eligible? (dir : String) : String × Entry → Option FileRecord
  | (name, .file content) =>
    if isEligible name then
      match Disk.textOf content with
      | .ok cs =>
        match Source.parse cs with
        | .ok body => some (Definition.fileRecord (Path.join dir name) body)
        | .error _ => none
      | .error _ => none
    else none
  | (_, .dir _) => none

mutual

/-- An entry whose directories have their entries in the order of their names. -/
def ordered : Entry → Entry
  | .file c => .file c
  | .dir es => .dir (Entry.sorted (orderedAll es))

def orderedAll : List (String × Entry) → List (String × Entry)
  | [] => []
  | (n, e) :: es => (n, ordered e) :: orderedAll es

end

mutual

/-- The records below an ordered entry at a path. -/
def below (skip : Value) (deep : Bool) (dir : String) : Entry → Except Fault (List FileRecord)
  | .file _ => .ok []
  | .dir es => do return es.filterMap (eligible? dir) ++ (← belowAll skip deep dir es)

def belowAll (skip : Value) (deep : Bool) (dir : String) : List (String × Entry) → Except Fault (List FileRecord)
  | [] => .ok []
  | (_, .file _) :: es => belowAll skip deep dir es
  | (n, .dir sub) :: es => do
    -- The name is looked up among those to skip even where nothing deeper is read, and this may fail.
    let inside ← if (← skips skip n) || !deep then pure [] else below skip deep (Path.join dir n) (.dir sub)
    return inside ++ (← belowAll skip deep dir es)

end

/-- The records of the source files below a path; only the directory itself is read unless `deep`. -/
def records (d : Disk) (path : String) (deep : Bool := true) (skip : Value := defaultSkip) :
    Except Fault (List FileRecord) := do
  if d.isFile path && isSourceName path then return [← file d path]
  match d.find path with
  | .ok e => below skip deep path (ordered e)
  | .error _ => return []

/-- The size of each definition of a source file, and the index they give. -/
def metrics (d : Disk) (path : String) : Except Fault (Nat × List Definition.Sized) := do
  let sizes := Definition.sizes (Source.programNode (← program d path))
  return (Definition.maintainability sizes, sizes)

/-- The plain functions of a text with their cyclomatic complexity; a text that is no program has none. -/
def complexities (cs : List Char) : List Definition.Scored :=
  match Source.parse cs with
  | .ok body => Definition.cyclomatic (Source.programNode body)
  | .error _ => []

end DocReview.Scan

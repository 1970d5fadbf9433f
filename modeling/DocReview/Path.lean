import DocReview.Fault
import DocReview.Text.Lines
/-!
# Path — names of files

A path is read as its steps: empty steps and single dots say nothing and are dropped, two dots stay.  The normal form of
a path is its steps with slashes between them; the path of no steps is a dot.
-/
namespace DocReview.Path

/-- What a path that starts at the root starts with: one slash, or exactly two. -/
def rootOf (path : String) : String :=
  match path.toList with
  | '/' :: '/' :: '/' :: _ => "/"
  | '/' :: '/' :: _ => "//"
  | '/' :: _ => "/"
  | _ => ""

/-- The steps of a path that say something. -/
def steps (path : String) : List String :=
  ((Text.splitOn '/' path.toList).map String.ofList).filter fun s => s ≠ "" ∧ s ≠ "."

def ofSteps (root : String) (ss : List String) : String :=
  if root = "" ∧ ss.isEmpty then "." else root ++ String.ofList (Text.joinWith ['/'] (ss.map String.toList))

/-- The path without steps that say nothing. -/
def normal (path : String) : String := ofSteps (rootOf path) (steps path)

def name (path : String) : String := (steps path).getLastD ""

/-- The name without its last suffix; a name that only starts or ends with its last dot has none. -/
def stem (path : String) : String :=
  let cs := (name path).toList
  let suffix := (cs.reverse.takeWhile (· ≠ '.')).length
  let before := cs.length - suffix - 1
  if suffix = cs.length ∨ suffix = 0 ∨ before = 0 then name path else String.ofList (cs.take before)

def parent (path : String) : String := ofSteps (rootOf path) (steps path).dropLast

def join (dir name : String) : String :=
  if dir = "" ∨ dir.toList.getLast? = some '/' then dir ++ name else dir ++ "/" ++ name

def ofValue : Value → Except Fault String
  | .str s => .ok s
  | v => .error (.notPath v.kind)

end DocReview.Path

namespace DocReview.Disk

/-- Puts something, or nothing, in the place of whatever is at a path; directories on the way are made. -/
def place (d : Disk) (path : String) (e : Option Entry) : Disk := ⟨d.root.set e (Path.steps path)⟩

def placeAll (d : Disk) (files : List (String × Option Entry)) : Disk :=
  files.foldl (fun d p => d.place p.1 p.2) d

def named {α : Type} (path : String) (r : Except PathFault α) : Except Fault α := r.mapError (.badPath · path)

/-- The text of what a file holds: bytes are read as UTF-8, and all line ends become line feeds. -/
def textOf : Content → Except Fault (List Char)
  | .text cs => .ok (Text.foldNewlines cs)
  | .bytes bs => (Text.decode bs).mapError Fault.badUtf8 |>.map Text.foldNewlines

def readText (d : Disk) (path : String) : Except Fault (List Char) := do
  textOf (← named path (d.read path))

def writeText (d : Disk) (path : String) (cs : List Char) : Except Fault Disk := named path (d.write path (.text cs))

/-- Makes a directory that may be there already, and its parents where it has none: so many at most. -/
def makeDirs (d : Disk) : Nat → String → Except Fault Disk
  | bound, path =>
    match d.makeDir path with
    | .ok d => .ok d
    | .error .missing =>
      match bound with
      | 0 => .error (.badPath .missing path)
      | bound + 1 => do
        let d ← makeDirs d bound (Path.parent path)
        match d.makeDir path with
        | .ok d => .ok d
        | .error cause => if d.isDir path then .ok d else .error (.badPath cause path)
    | .error cause => if d.isDir path then .ok d else .error (.badPath cause path)

def makeParents (d : Disk) (path : String) : Except Fault Disk :=
  makeDirs d (Path.steps path).length (Path.parent path)

end DocReview.Disk

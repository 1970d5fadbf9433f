import DocReview.Text.Lines
import DocReview.Text.Utf8
/-!
# Disk — files and directories

A disk is a tree.  Paths are relative to its root, and are followed a part at a time, so that a missing or wrong part is
found where it stands.  A file holds text, or bytes that may be none.
-/
namespace DocReview

inductive Content where
  | text (cs : List Char)
  | bytes (bs : List Nat)
  deriving DecidableEq

inductive Entry where
  | file (content : Content)
  | dir (entries : List (String × Entry))

inductive PathFault where
  | missing
  | exists
  | notDirectory
  | isDirectory
  deriving DecidableEq

namespace Entry

def lookup? (name : String) : List (String × Entry) → Option Entry
  | [] => none
  | (n, e) :: rest => if n = name then some e else lookup? name rest

def put (name : String) (e : Entry) : List (String × Entry) → List (String × Entry)
  | [] => [(name, e)]
  | (n, old) :: rest => if n = name then (n, e) :: rest else (n, old) :: put name e rest

def isDir : Entry → Bool
  | .dir _ => true
  | .file _ => false

/-- The entry at the end of a list of names. -/
def at? : List String → Entry → Option Entry
  | [], e => some e
  | n :: ns, .dir es => (lookup? n es).bind (at? ns)
  | _ :: _, .file _ => none

/-- Puts an entry, or nothing, at the end of a list of names; what stands in the way becomes a directory. -/
def set (e : Option Entry) : List String → Entry → Entry
  | [], old => e.getD old
  | [n], old =>
    let es := match old with
      | .dir es => es
      | .file _ => []
    match e with
    | some e => .dir (put n e es)
    | none => .dir (es.filter fun p => p.1 ≠ n)
  | n :: ns, old =>
    let es := match old with
      | .dir es => es
      | .file _ => []
    .dir (put n (set e ns ((lookup? n es).getD (.dir []))) es)

def sorted (es : List (String × Entry)) : List (String × Entry) := es.mergeSort fun a b => decide (a.1 ≤ b.1)

/-- A name inside a directory; the root has no name. -/
def inside (dir name : String) : String := if dir = "" then name else dir ++ "/" ++ name

mutual

def filesAt (path : String) : Entry → List (String × Content)
  | .file c => [(path, c)]
  | .dir es => filesAmong path es

def filesAmong (dir : String) : List (String × Entry) → List (String × Content)
  | [] => []
  | (n, e) :: es => filesAt (inside dir n) e ++ filesAmong dir es

end

end Entry

structure Disk where
  root : Entry := .dir []

namespace Disk

def parts (path : String) : List String := (Text.splitOn '/' path.toList).map String.ofList

/-- Follows the parts of a path from the entry that the names `here`, backwards, lead to. -/
def follow (root : Entry) : List String → List String → Except PathFault (List String)
  | here, [] => .ok here
  | here, p :: ps =>
    match root.at? here.reverse with
    | some (.dir es) =>
      if p = "" ∨ p = "." then follow root here ps
      else if p = ".." then follow root here.tail ps
      else if (Entry.lookup? p es).isSome then follow root (p :: here) ps
      else .error .missing
    | some (.file _) => .error .notDirectory
    | none => .error .missing

/-- The names that lead to what a path leads to. -/
def locate (d : Disk) (path : String) : Except PathFault (List String) :=
  if path = "" ∨ path.toList.head? = some '/' then .error .missing
  else (follow d.root [] (parts path)).map List.reverse

def find (d : Disk) (path : String) : Except PathFault Entry := do
  let names ← d.locate path
  match d.root.at? names with
  | some e => return e
  | none => throw .missing

def isFile (d : Disk) (path : String) : Bool :=
  match d.find path with
  | .ok (.file _) => true
  | _ => false

def isDir (d : Disk) (path : String) : Bool :=
  match d.find path with
  | .ok (.dir _) => true
  | _ => false

def contains (d : Disk) (path : String) : Bool :=
  match d.find path with
  | .ok _ => true
  | .error _ => false

def read (d : Disk) (path : String) : Except PathFault Content := do
  match ← d.find path with
  | .file c => return c
  | .dir _ => throw .isDirectory

def split (path : String) : String × String :=
  let ps := parts path
  (String.ofList (Text.joinWith ['/'] (ps.dropLast.map String.toList)), ps.getLastD "")

/-- The names that lead to the directory a path's last part stands in, and that part. -/
def locateParent (d : Disk) (path : String) : Except PathFault (List String × String) := do
  if path = "" ∨ path.toList.head? = some '/' then throw .missing
  let ps := parts path
  let names := (← follow d.root [] ps.dropLast).reverse
  match d.root.at? names with
  | some (.dir _) => return (names, ps.getLastD "")
  | some (.file _) => throw .notDirectory
  | none => throw .missing

/-- Whether the last part of a path names no entry of its own. -/
def isBare (last : String) : Bool := last = "" || last = "." || last = ".."

/-- Writes a file, in a directory that is there. -/
def write (d : Disk) (path : String) (c : Content) : Except PathFault Disk := do
  let (names, last) ← d.locateParent path
  if isBare last then throw .isDirectory
  match d.root.at? (names ++ [last]) with
  | some (.dir _) => throw .isDirectory
  | _ => return ⟨d.root.set (some (.file c)) (names ++ [last])⟩

def makeDir (d : Disk) (path : String) : Except PathFault Disk := do
  let (names, last) ← d.locateParent path
  if isBare last then throw .exists
  match d.root.at? (names ++ [last]) with
  | some _ => throw .exists
  | none => return ⟨d.root.set (some (.dir [])) (names ++ [last])⟩

def files (d : Disk) : List (String × Content) := d.root.filesAt ""

def changes (before after : Disk) : List (String × Content) :=
  let old := before.files
  after.files.filter fun p => !old.contains p

end Disk
end DocReview

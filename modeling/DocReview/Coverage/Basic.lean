import DocReview.Value.Access
/-!
# Coverage — how much of the code is documented

Functions, classes and methods are the items of a file.  A file's coverage lists its items and says how many there are,
how many are documented, and what part of a hundred that is; a file without items is covered in full.  The numbers are
counters that go up by one at each item, beside the list that it is put into, and are added to the counters of all files.
The records of files are data of any shape, so an item's name, line and documentation are whatever stands there.
-/
namespace DocReview.Coverage

/-- What an item is; a method names its class. -/
inductive Role where
  | function
  | classDef
  | method (owner : Value)

structure Item where
  role : Role
  name : Value
  line : Value
  hasDoc : Value

structure FileCoverage where
  total : Nat
  documented : Nat
  percent : Binary64
  items : List Item

structure Summary where
  total : Nat
  documented : Nat
  percent : Binary64

structure Report where
  files : List (String × FileCoverage)
  summary : Summary

/-- `part` of `whole` as a percentage with two decimals. -/
def percent (part whole : Nat) : Binary64 :=
  Binary64.roundPlaces 2 (Binary64.mul (Binary64.ofRatio false part whole) (Binary64.ofInt 100))

/-- The percentage of documented items; where there are none, a hundred. -/
def percentOrFull (documented total : Nat) : Binary64 :=
  if total = 0 then Binary64.ofInt 100 else percent documented total

def itemOf (role : Role) (record : Value) : Except Fault Item := do
  return ⟨role, ← record.get "name", ← record.get "lineno", ← record.get "has_docstring"⟩

/-! ## Counting -/

/-- The counters of a file and its items, as far as the loops over its definitions have come. -/
structure Tally where
  total : Nat := 0
  documented : Nat := 0
  items : List Item := []

def Tally.count (t : Tally) (i : Item) : Tally where
  total := t.total + 1
  documented := if i.hasDoc.truthy then t.documented + 1 else t.documented
  items := t.items ++ [i]

def countItem (role : Role) (t : Tally) (record : Value) : Except Fault Tally := do
  return t.count (← itemOf role record)

/-- Counts a class, then its methods. -/
def countClass (t : Tally) (record : Value) : Except Fault Tally := do
  let item ← itemOf .classDef record
  let methods ← (← record.get "methods" (.list [])).elements
  methods.foldlM (countItem (.method item.name)) (t.count item)

/-- Counts the definitions of a file record: functions, then classes with their methods. -/
def countFile (record : Value) : Except Fault Tally := do
  let functions ← record.get "functions" (.list [])
  let classes ← record.get "classes" (.list [])
  let t ← (← functions.elements).foldlM (countItem .function) {}
  (← classes.elements).foldlM countClass t

def Tally.coverage (t : Tally) : FileCoverage := ⟨t.total, t.documented, percentOrFull t.documented t.total, t.items⟩

/-- A file record's path, in words, and its coverage. -/
def fileCoverage (record : Value) : Except Fault (String × FileCoverage) := do
  let path ← record.get "path"
  return (path.text, (← countFile record).coverage)

/-- Enters what is said of a file under its path: in its place if it is there, else at the end. -/
def enter {α : Type} (path : String) (a : α) : List (String × α) → List (String × α)
  | [] => [(path, a)]
  | (p, b) :: rest => if p = path then (p, a) :: rest else (p, b) :: enter path a rest

/-- The files entered so far, with the running totals. -/
structure Totals where
  files : List (String × FileCoverage) := []
  total : Nat := 0
  documented : Nat := 0

def Totals.add (t : Totals) (file : String × FileCoverage) : Totals where
  files := enter file.1 file.2 t.files
  total := t.total + file.2.total
  documented := t.documented + file.2.documented

def addFile (t : Totals) (record : Value) : Except Fault Totals := do return t.add (← fileCoverage record)

/-- The coverage of the files with the given records. Two records with one path count twice and are listed once. -/
def compute (records : Value) : Except Fault Report := do
  let t ← (← records.elements).foldlM addFile {}
  return ⟨t.files, ⟨t.total, t.documented, percentOrFull t.documented t.total⟩⟩

/-! ## As data -/

def Item.value (i : Item) : Value :=
  let rest := [("name", i.name), ("lineno", i.line), ("has_doc", i.hasDoc)]
  match i.role with
  | .function => .dict (("type", .str "function") :: rest)
  | .classDef => .dict (("type", .str "class") :: rest)
  | .method owner => .dict (("type", .str "method") :: ("class", owner) :: rest)

def FileCoverage.value (f : FileCoverage) : Value :=
  .dict
    [("total_items", .int f.total), ("doc_count", .int f.documented), ("coverage_percent", .float f.percent),
      ("items", .list (f.items.map Item.value))]

def Summary.value (s : Summary) : Value :=
  .dict [("total_items", .int s.total), ("total_docs", .int s.documented), ("coverage_percent", .float s.percent)]

def Report.value (r : Report) : Value :=
  .dict [("files", .dict (r.files.map fun p => (p.1, p.2.value))), ("summary", r.summary.value)]

end DocReview.Coverage

import DocReview.Fault
/-!
# Setup — the tables of a database

Setting a database up makes the tables that it lacks.  It can be done again, and for a file that is empty; a file with
other content is no database, and a directory cannot be opened.
-/
namespace DocReview.Database

structure Column where
  name : String
  type : String
  notNull : Bool := false
  isKey : Bool := false
  deriving DecidableEq

structure Table where
  name : String
  columns : List Column
  deriving DecidableEq

/-- What the place of a database holds. -/
inductive Store where
  | empty
  | tables (ts : List Table)
  | other
  | directory
  deriving DecidableEq

def departments : Table :=
  ⟨"departments", [⟨"department_id", "INTEGER", false, true⟩, ⟨"department_name", "TEXT", false, false⟩]⟩

def employees : Table :=
  ⟨"employees",
    [⟨"emp_id", "INTEGER", false, true⟩, ⟨"emp_name", "TEXT", true, false⟩, ⟨"age", "INTEGER", false, false⟩,
      ⟨"salary", "INTEGER", false, false⟩, ⟨"join_date", "TEXT", false, false⟩,
      ⟨"department_id", "INTEGER", false, false⟩]⟩

/-- The table in which the last numbers given to rows are kept. -/
def sequence : Table := ⟨"sqlite_sequence", [⟨"name", "", false, false⟩, ⟨"seq", "", false, false⟩]⟩

def ensure (ts : List Table) (t : Table) : List Table :=
  if ts.any (·.name = t.name) then ts else ts ++ [t]

/-- Makes the tables that a database lacks; numbering the rows of one of them needs the table of numbers. -/
def tablesAfter (ts : List Table) : List Table := ensure (ensure (ensure ts departments) sequence) employees

def setUp : Store → Except Fault Store
  | .empty => .ok (.tables (tablesAfter []))
  | .tables ts => .ok (.tables (tablesAfter ts))
  | .other => .error .notDatabase
  | .directory => .error .cannotOpenDatabase

def report : String := "employee.db created with tables\n"

def path : String := "employee.db"

def Store.ofEntry? : Option Entry → Store
  | none => .empty
  | some (.dir _) => .directory
  | some (.file (.text cs)) => if cs.isEmpty then .empty else .other
  | some (.file (.bytes bs)) => if bs.isEmpty then .empty else .other

def setUps : Nat → Store → List (Except Fault (List Table))
  | 0, _ => []
  | n + 1, s =>
    match setUp s with
    | .ok (.tables ts) => .ok ts :: setUps n (.tables ts)
    | .ok s => .ok [] :: setUps n s
    | .error f => .error f :: setUps n s

end DocReview.Database

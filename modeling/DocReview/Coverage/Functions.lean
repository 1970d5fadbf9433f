import DocReview.Coverage.Basic
import DocReview.Value.Arithmetic
/-!
# Functions — coverage of functions alone

Here only functions count, a file without any has coverage zero, and the whole is held against a threshold.
-/
namespace DocReview.Coverage

structure FunctionCoverage where
  total : Nat
  documented : Nat
  deriving DecidableEq

structure FunctionReport where
  files : List (String × FunctionCoverage)
  whole : FunctionCoverage
  meetsThreshold : Bool

namespace FunctionCoverage

/-- The percentage of documented functions, as a number: a whole zero where there are none. -/
def percent (c : FunctionCoverage) : Value.Number :=
  if c.total = 0 then .whole 0 else .double (Coverage.percent c.documented c.total)

def ofRecord (record : Value) : Except Fault (String × FunctionCoverage) := do
  let path ← record.get "path"
  let functions ← record.get "functions" (.list [])
  let total ← functions.size
  let documented ← (← functions.elements).mapM fun f => do return (← f.get "has_docstring").truthy
  return (path.text, ⟨total, documented.countP id⟩)

def reaches (percent : Value.Number) (threshold : Value) : Except Fault Bool :=
  match threshold.number? with
  | some t =>
    match percent.order t with
    | some .lt => .ok false
    | some _ => .ok true
    | none => .ok false
  | none => .error (.notComparable ">=" percent.value.kind threshold.kind)

/-- The files entered so far, with the running totals. -/
structure Totals where
  files : List (String × FunctionCoverage) := []
  whole : FunctionCoverage := ⟨0, 0⟩

def Totals.add (t : Totals) (file : String × FunctionCoverage) : Totals where
  files := enter file.1 file.2 t.files
  whole := ⟨t.whole.total + file.2.total, t.whole.documented + file.2.documented⟩

def addFile (t : Totals) (record : Value) : Except Fault Totals := do return t.add (← ofRecord record)

def compute (records : Value) (threshold : Value := .int 0) : Except Fault FunctionReport := do
  let t ← (← records.elements).foldlM addFile {}
  return ⟨t.files, t.whole, ← reaches t.whole.percent threshold⟩

def fields (c : FunctionCoverage) : List (String × Value) :=
  [("total_functions", .int c.total), ("documented", .int c.documented), ("coverage_percent", c.percent.value)]

end FunctionCoverage

def FunctionReport.value (r : FunctionReport) : Value :=
  .dict
    [("aggregate", .dict (r.whole.fields ++ [("meets_threshold", .bool r.meetsThreshold)])),
      ("files", .dict (r.files.map fun p => (p.1, .dict p.2.fields)))]

end DocReview.Coverage

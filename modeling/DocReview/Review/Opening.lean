import DocReview.Coverage.Basic
import DocReview.Report.Store
import DocReview.Scan
import DocReview.Screen.Page
import DocReview.Value.Arithmetic
/-!
# Opening — the scan that every run starts with

A scan reads the sources below a path, computes their coverage and stores the report; only then are its results
remembered.  If it fails, the results of the last scan that did not are shown.
-/
namespace DocReview.Review

open Screen

structure Scanned where
  results : Value
  report : Value
  first : Option String
  disk : Disk

/-- Scans a path and stores the report. -/
def scan (d : Disk) (path : String) : Except Fault Scanned := do
  let records ← Scan.records d path
  let results := Value.list (records.map Definition.FileRecord.value)
  let report := (← Coverage.compute results).value
  let disk ← Report.store d report Report.coveragePath
  return ⟨results, report, records.head?.map (·.path), disk⟩

/-- Remembers what a scan found, and takes over the disk with its report. -/
def keep (s : Scanned) : Draw Unit := do
  setDisk s.disk
  remember fun m => { m with lastScan := some s.results, lastReport := some s.report }

/-- Puts an entry, a mapping's key with its coverage, before those with a greater one. -/
def insertByCoverage (key : Value) (entry : String × Value) :
    List (Value × String × Value) → Except Fault (List (Value × String × Value))
  | [] => .ok [(key, entry)]
  | (k, e) :: rest => do
    if ← key.precedes k then return (key, entry) :: (k, e) :: rest
    else return (k, e) :: (← insertByCoverage key entry rest)

/-- The files of a report, those with the least coverage first; files with the same stay in order. -/
def byCoverage (files : List (String × Value)) : Except Fault (List (String × Value)) := do
  let keyed ← files.mapM fun p => do return (← p.2.get "coverage_percent" (.int 0), p)
  let sorted ← keyed.foldlM (fun acc p => insertByCoverage p.1 p.2 acc) []
  return sorted.map Prod.snd

private def zero : Value := .float (Binary64.zero false)

def fileLine (file : String) (coverage : Value) : Draw Unit := do
  let short := Path.name file
  let percent ← check (coverage.get "coverage_percent" zero)
  put (.markdown ("**" ++ short ++ "** — " ++ percent.text ++ "%"))
  put (.progress (.int (← check percent.toInteger)))
  if ← button ("Preview: " ++ short) (some ("preview-" ++ short)) then
    remember fun m => { m with selectedFile := some (.str file) }

def quickMetrics (report : Value) : Draw Unit := do
  let summary ← check (report.get "summary" (.dict []))
  let _ ← check (summary.get "total_items" (.int 0))
  let percent ← check (summary.get "coverage_percent" zero)
  put (.markdown "")
  put (.markdown ("**Overall coverage**: " ++ percent.text ++ "%"))
  put (.progress (.int (← check percent.toInteger)))
  put (.markdown "---")
  put (.markdown "#### Files")
  let files ← check (report.get "files" (.dict []))
  let sorted ← check (do byCoverage (← files.entries))
  sorted.forM fun p => fileLine p.1 p.2

def defaultPath : String := "examples/"

/-- The scan that a run starts with; gives the results to work with. -/
def opening : Draw Value := do
  match scan (← disk) defaultPath with
  | .ok s =>
    keep s
    match s.first with
    | some path => remember fun m => { m with selectedFile := some (.str path) }
    | none =>
      remember fun m => { m with selectedFile := none }
      put (.success "Scanned 0 file(s). Report saved.")
    return s.results
  | .error f =>
    put (.error ("Scan failed: " ++ f.message))
    put (.text f.message)
    let m ← memory
    let report := m.lastReport.getD .none
    if report.truthy then quickMetrics report
    else put (.info "No scan run yet. Enter path and click Scan.")
    return m.lastScan.getD .none

end DocReview.Review

import DocReview.Json.Writer
import DocReview.Report.Rows
import DocReview.Screen.Page
import DocReview.Table.Csv
import DocReview.Text.Blank
import DocReview.Text.LetterCase
/-!
# Feature — tools of the dashboard

The dashboard has four tools, one of which is open at a time: a filter by documentation, a search by name, an export of
all rows, and help.
-/
namespace DocReview.Review

open Screen

inductive Feature where
  | filters
  | search
  | export
  | help
  deriving DecidableEq

namespace Feature

def name : Feature → String
  | .filters => "filters"
  | .search => "search"
  | .export => "export"
  | .help => "help"

def label : Feature → String
  | .filters => "🔍\nAdvanced Filters\nFilter by status"
  | .search => "🔎\nSearch\nFind functions"
  | .export => "📤\nExport\nJSON & CSV"
  | .help => "ℹ️\nHelp & Tips\nQuick guide"

def all : List Feature := [.filters, .search, .export, .help]

end Feature

def featureButtons : Draw Unit := do
  put (.markdown "### ✨ Enhanced UI Features")
  put (.caption "Explore powerful analysis tools")
  put (.markdown "<div class=\"feature-section\">")
  Feature.all.forM fun f => do
    if ← button f.label (some ("feature_" ++ f.name)) then
      remember fun m => { m with activeFeature := some (.str f.name) }
  put (.markdown "</div>")

def isOpen (f : Feature) : Draw Bool := do return ((← memory).activeFeature.getD .none).isText f.name

def fileName (record : Value) : Except Fault String := do
  return Path.name (← Path.ofValue (← record.field "path"))

/-! ## Filters -/

/-- The row of a function, or nothing where only functions without a docstring are wanted and it has one. -/
def filterRow? (onlyMissing : Bool) (record function : Value) : Except Fault (Option Value) := do
  let documented := (← function.get "has_docstring" (.bool false)).truthy
  if onlyMissing && documented then return none
  let file ← fileName record
  return some (.dict
    [("File", .str file), ("Function", ← function.field "name"),
      ("Docstring", .str (if documented then "Yes" else "No"))])

def filterRows (onlyMissing : Bool) (record : Value) : Except Fault (List Value) := do
  let functions ← (← record.get "functions" (.list [])).elements
  return (← functions.mapM (filterRow? onlyMissing record)).filterMap id

def filterPanel (results : Value) : Draw Unit := do
  put (.markdown "## 🔎 Advanced Filters")
  let status ← choose "Documentation status" ["All", "Missing Docstring"]
  let rows ← check (do (← results.elements).mapM (filterRows (status.isText "Missing Docstring")))
  put (.table rows.flatten)

/-! ## Search -/

/-- The row of a definition, if its name contains the text searched for. -/
def searchRow? (query : List Char) (file role : String) (record : Value) : Except Fault (Option Value) := do
  let name ← record.field "name"
  if Text.occursIn query (Text.lower (← name.textFor "lower")) then
    let status := if (← record.field "has_docstring").truthy then "✅ Fixed" else "❌ Missing"
    return some (.dict [("File", .str file), ("Name", name), ("Type", .str role), ("Docstring", .str status)])
  else return none

def searchRows (query : List Char) (record : Value) : Except Fault (List Value) := do
  let file ← fileName record
  let functions ← (← (← record.get "functions" (.list [])).elements).mapM (searchRow? query file "Function")
  let classes ← (← (← record.get "classes" (.list [])).elements).mapM (searchRow? query file "Class")
  return functions.filterMap id ++ classes.filterMap id

def searchPanel (results : Value) : Draw Unit := do
  put (.markdown "## 🔎 Search Functions")
  put (.caption "Search across all parsed functions and classes")
  let text ← textField "Enter function or class name"
  let query := Text.lower (Text.trim text.toList)
  if !query.isEmpty then
    let rows ← check (do (← results.elements).mapM (searchRows query))
    if rows.flatten.isEmpty then put (.info "No matching functions or classes found.")
    else
      put (.markdown "### Results")
      put (.table rows.flatten)

/-! ## Export -/

def exportColumns : List String := ["File", "Type", "Name", "Arguments", "Docstring"]

def exportCells (r : Report.Row) : List Value :=
  [.str r.file, .str r.role, r.name, .str r.arguments, .str r.status]

/-- The rows as a table; no rows have no columns. -/
def exportCsv (rows : List Report.Row) : String :=
  if rows.isEmpty then Table.csv [] [] else Table.csv exportColumns (rows.map exportCells)

def exportSummary (total documented : Nat) : String :=
  let gap := "\n                    "
  gap ++ "• **Total Items:** " ++ toString total ++ "  " ++ gap ++ "• **Documented:** " ++ toString documented ++ "  "
    ++ gap ++ "• **Missing Docstrings:** " ++ toString (total - documented) ++ gap

def exportPanel (results : Value) : Draw Unit := do
  put (.markdown "## 📤 Export Data")
  put (.caption "Download analysis results in JSON or CSV format")
  let rows ← check (Report.rows results)
  put (.markdown "### 📊 Export Summary")
  put (.info (exportSummary rows.length (rows.countP Report.Row.documented)))
  let json := String.ofList (Json.indented (.list (rows.map Report.Row.value)))
  put (.download "📥 Export as JSON" json "docstring_report.json" "application/json")
  put (.download "📥 Export as CSV" (exportCsv rows) "docstring_report.csv" "text/csv")

/-! ## Help -/

def card (color heading : String) (entries : List String) (closing : List String) : String :=
  let indent := "                "
  let lines := ["<div class=\"ui-card\" style=\"border-left: 6px solid " ++ color ++ ";\">",
    "<h4>" ++ heading ++ "</h4>", "<ul>"] ++ entries.map (fun e => "<li>" ++ e ++ "</li>") ++ ["</ul>"]
  String.ofList (Text.joinWith ['\n']
    ((([""] ++ lines.map (indent ++ ·)) ++ closing).map String.toList))

def helpCards : List String :=
  let closing := ["                </div>", "                "]
  [card "#22C55E" "📊 Coverage Metrics"
      ["<b>Coverage %</b> = (Documented / Total) × 100", "🟢 Green badge: ≥ 90%", "🟡 Yellow badge: 70–89%",
        "🔴 Red badge: &lt; 70%"] closing,
    card "#F59E0B" "✅ Function Status"
      ["🟢 Docstring present", "🔴 Missing or incomplete docstring", "Auto-detected docstring style",
        "Style-specific validation"] closing,
    card "#3B82F6" "🧪 Test Results"
      ["Real-time test execution summary", "Pass / Fail indicators", "File-wise test breakdown",
        "Integrated pytest reports"] closing,
    card "#8B5CF6" "📄 Docstring Styles"
      ["<b>Google</b>: Args, Returns, Raises", "<b>NumPy</b>: Parameters / Returns format",
        "<b>reST</b>: :param, :return:", "Auto-style detection & validation"] ["               </div>", "               "]]

def helpPanel : Draw Unit := do
  put (.markdown "## ℹ️ Interactive Help & Tips")
  put (.caption "Contextual help and quick reference guide")
  helpCards.forM fun c => put (.markdown c)

def featurePanel (results : Value) : Draw Unit := do
  if ← isOpen .filters then filterPanel results
  if ← isOpen .search then searchPanel results
  if ← isOpen .export then exportPanel results
  if ← isOpen .help then helpPanel

end DocReview.Review

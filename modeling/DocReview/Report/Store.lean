import DocReview.Json.Writer
import DocReview.Path
/-!
# Store — reports on disk

A report is stored as indented JSON, in a directory that is made if need be, and read back as the value it was.
-/
namespace DocReview.Report

def store (d : Disk) (report : Value) (path : String) : Except Fault Disk := do
  let d ← d.makeParents path
  d.writeText (Path.normal path) (Json.indented report)

def load (d : Disk) (path : String) : Except Fault Value := do
  let cs ← d.readText (Path.normal path)
  (Json.read cs).mapError (.badJson · cs)

def coveragePath : String := "storage/reports/docstring_coverage.json"

def testResultsPath : String := "storage/reports/pytest_results.json"

/-- The results of the last test run; nothing if there are none. -/
def loadTestResults (d : Disk) : Except Fault Value :=
  if d.contains testResultsPath then load d testResultsPath else .ok .none

/-- The results of the last test run; nothing if there are none that can be read. -/
def loadTestResults? (d : Disk) : Value :=
  match loadTestResults d with
  | .ok v => v
  | .error _ => .none

end DocReview.Report

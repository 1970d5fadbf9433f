import DocReview.Text.LetterCase
import DocReview.Value.Access
/-!
# Search — functions by name and documentation

A search keeps the functions whose names contain a text, whatever the case of letters, and those that are documented
(`OK`) or not (`Fix`).  The functions kept are in order and unchanged.
-/
namespace DocReview.Search

def matchesName (search function : Value) : Except Fault Bool := do
  let wanted ← search.textFor "lower"
  let name ← (← function.field "name").textFor "lower"
  return Text.occursIn (Text.lower wanted) (Text.lower name)

def isDocumented (function : Value) : Except Fault Bool := do return (← function.field "has_docstring").truthy

def keep (test : Value → Except Fault Bool) (v : Value) : Except Fault Value := do
  return .list (← (← v.elements).filterM test)

/-- The functions that a search keeps; one for nothing keeps everything as it is. -/
def functions (all search status : Value) : Except Fault Value := do
  let found ← if search.truthy then keep (matchesName search) all else pure all
  if status.isText "OK" then keep isDocumented found
  else if status.isText "Fix" then keep (fun f => do return !(← isDocumented f)) found
  else return found

end DocReview.Search

import DocReview.Text.Lines
import DocReview.Value.Text
/-!
# Csv — tables as text

A row is a line of fields with commas between them.  A field with a comma, a double quote or a line feed stands between
double quotes, and its own double quotes are doubled.
-/
namespace DocReview.Table

def field (cs : List Char) : List Char :=
  if cs.any fun c => c = ',' || c = '"' || c = '\n' then
    '"' :: (cs.flatMap fun c => if c = '"' then ['"', '"'] else [c]) ++ ['"']
  else cs

/-- The text of a cell; nothing is an empty field. -/
def cell : Value → List Char
  | .none => []
  | v => v.text.toList

def line (fields : List (List Char)) : List Char := Text.joinWith [','] (fields.map field) ++ ['\n']

/-- A table with a line of column names first; a table without columns is an empty line. -/
def csv (columns : List String) (rows : List (List Value)) : String :=
  if columns.isEmpty then "\n"
  else String.ofList ((columns.map String.toList :: rows.map fun r => r.map cell).flatMap line)

end DocReview.Table

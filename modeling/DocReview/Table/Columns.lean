import DocReview.Number.Shortest
/-!
# Columns — names of table columns

A name that occurs again gets a number: how often it has occurred before.  The numbers are kept by name, from zero on, and go
up by one each time.
-/
namespace DocReview.Table

/-- Numbers the names that were seen before; the newest number of a name is the one that counts. -/
def numberRepeats : List (String × Nat) → List String → List String
  | _, [] => []
  | seen, c :: cs =>
    match seen.lookup c with
    | some k => (c ++ "_" ++ String.ofList (decimalDigits (k + 1))) :: numberRepeats ((c, k + 1) :: seen) cs
    | none => c :: numberRepeats ((c, 0) :: seen) cs

def distinctColumns (columns : List String) : List String := numberRepeats [] columns

end DocReview.Table

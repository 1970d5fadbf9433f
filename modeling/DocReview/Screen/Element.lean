import DocReview.Value.Basic
/-!
# Element — what a page shows and does

A run of an app draws a page: a list of elements in the order they were drawn.  Widgets are elements with the reader's
answer to them; what is asked of outside services is listed as well, where it was asked.
-/
namespace DocReview.Screen

structure Frame where
  index : List Value
  columns : List String
  rows : List (List Value)

def Frame.numbered (columns : List String) (rows : List (List Value)) : Frame :=
  ⟨(List.range rows.length).map fun (n : Nat) => .int n, columns, rows⟩

structure ModelSettings where
  context : Nat
  threads : Nat
  gpuLayers : Nat
  temperature : Binary64

inductive Element where
  | page (title : String)
  | title (text : String)
  | subheader (text : String)
  | markdown (text : String)
  | caption (text : String)
  | write (text : String)
  | text (text : String)
  | code (content : Value)
  | info (text : String)
  | success (text : String)
  | warning (text : String)
  | error (text : String)
  | divider
  | table (rows : List Value)
  | frameChart (frame : Frame)
  | countChart (counts : List (String × Nat))
  | metric (label : String) (value : Value)
  | progress (value : Value)
  | frame (frame : Frame)
  | spinner (label : String)
  | expander (label : String)
  | button (label : String) (key : Option String) (pressed : Bool)
  | input (label value : String)
  | choice (label : String) (options : List String) (value : Value)
  | download (label data file mime : String)
  | asked (subject : String)
  | checked (path : String)
  | loadedModel (settings : ModelSettings)
  /-- A statement was run on a database server, with a schema or none. -/
  | executed (schema : Value) (statement : String)
  | queried (schema : Value) (query : String)
  | closed

end DocReview.Screen

import DocReview.Suggestion.Content
import DocReview.Text.Blank
/-!
# Style — docstrings laid out

A docstring is laid out from the record of a function and the content a model gave, in one of three styles.  All of them
list the arguments of the record in order, each with its type or `TYPE` and its description or `DESCRIPTION`.
-/
namespace DocReview.Suggestion

inductive Style where
  | google
  | numpy
  | rest
  deriving DecidableEq

def Style.ofValue (v : Value) : Except Fault Style :=
  if v.isText "google" then .ok .google
  else if v.isText "numpy" then .ok .numpy
  else if v.isText "rest" then .ok .rest
  else .error (.unknownStyle v.text)

/-- A docstring's content by its parts; any of them may be of any shape. -/
structure Parts where
  summary : Value
  args : Value
  returns : Value
  raises : Value

def Parts.ofContent (record content : Value) (summary : Value → Value) : Except Fault Parts := do
  match content with
  | .dict _ =>
    let plain := summary (← record.field "name")
    return ⟨← content.get "summary" plain, ← content.get "args" (.dict []), ← content.get "returns" (.str ""),
      ← content.get "raises" (.dict [])⟩
  | v => throw (.lacks v.kind "get")

def typeOf (argument : Value) : Except Fault Value := do return (← argument.get "annotation").orElse (.str "TYPE")

def tripleQuoted (body : String) : String := "\"\"\"\n" ++ body ++ "\n\"\"\""

private def line (s : String) : Value := .str s

private def indentedLine (v : Value) : Value := .str ("    " ++ v.text)

/-! ## Google -/

def googleArgument (descriptions argument : Value) : Except Fault Value := do
  let name ← argument.field "name"
  let type ← typeOf argument
  let description ← descriptions.getAt name placeholder
  return .str ("    " ++ name.text ++ " (" ++ type.text ++ "): " ++ description.text)

def googleArguments (arguments descriptions : Value) : Except Fault (List Value) := do
  if arguments.truthy then
    let lines ← (← arguments.elements).mapM (googleArgument descriptions)
    return line "Args:" :: lines ++ [line ""]
  else return []

def googleReturns (type description : Value) : List Value :=
  if type.truthy then
    [line ("Returns:\n    " ++ type.text ++ ": " ++ (description.orElse placeholder).text), line ""]
  else []

def googleRaises (raises : Value) : Except Fault (List Value) := do
  if raises.truthy then
    let lines := (← raises.entries).map fun p => line ("    " ++ p.1 ++ ": " ++ p.2.text)
    return line "Raises:" :: lines ++ [line ""]
  else return []

/-- A docstring with sections that are set in under their headings. -/
def googleDocstring (record content : Value) : Except Fault String := do
  let p ← Parts.ofContent record content plainSummary
  let arguments ← googleArguments (← record.get "args" (.list [])) p.args
  let returns := googleReturns (← record.get "returns") p.returns
  let raises ← googleRaises p.raises
  let body ← Value.join "\n" ([p.summary, line ""] ++ arguments ++ returns ++ raises)
  return tripleQuoted (String.ofList (Text.trim body.toList))

/-! ## NumPy -/

/-- A summary that only names the function, as the other two styles have it. -/
def functionSummary (name : Value) : Value := .str (name.text ++ " function.")

def described (descriptions argument : Value) : Except Fault (Value × Value × Value) := do
  let type ← typeOf argument
  match descriptions with
  | .dict _ =>
    let name ← argument.field "name"
    return (name, type, ← descriptions.getAt name placeholder)
  | v => throw (.lacks v.kind "get")

def numpyArgument (descriptions argument : Value) : Except Fault (List Value) := do
  let (name, type, description) ← described descriptions argument
  return [line (name.text ++ " : " ++ type.text), indentedLine description]

def numpyReturns (type description : Value) : List Value :=
  if type.truthy then
    [line "", line "Returns", line "-------", line type.text, indentedLine (description.orElse placeholder)]
  else []

def numpyRaises (raises : Value) : Except Fault (List Value) := do
  if raises.truthy then
    let lines := (← raises.entries).flatMap fun p => [line p.1, indentedLine p.2]
    return [line "", line "Raises", line "------"] ++ lines
  else return []

/-- A docstring with underlined headings. -/
def numpyDocstring (record content : Value) : Except Fault String := do
  let p ← Parts.ofContent record content functionSummary
  let arguments ← (← (← record.get "args" (.list [])).elements).mapM (numpyArgument p.args)
  let returns := numpyReturns (← record.get "returns") p.returns
  let raises ← numpyRaises p.raises
  let heading := [p.summary, line "", line "Parameters", line "----------"]
  return tripleQuoted (← Value.join "\n" (heading ++ arguments.flatten ++ returns ++ raises))

/-! ## reST -/

def restArgument (descriptions argument : Value) : Except Fault (List Value) := do
  let (name, type, description) ← described descriptions argument
  return [line (":param " ++ name.text ++ ": " ++ description.text), line (":type " ++ name.text ++ ": " ++ type.text)]

def restReturns (type description : Value) : List Value :=
  if type.truthy then
    [line (":return: " ++ (description.orElse placeholder).text), line (":rtype: " ++ type.text)]
  else []

/-- A docstring with a field for each fact. -/
def restDocstring (record content : Value) : Except Fault String := do
  let p ← Parts.ofContent record content functionSummary
  let arguments ← (← (← record.get "args" (.list [])).elements).mapM (restArgument p.args)
  let returns := restReturns (← record.get "returns") p.returns
  let raises := (← p.raises.entries).map fun p => line (":raises " ++ p.1 ++ ": " ++ p.2.text)
  return tripleQuoted (← Value.join "\n" ([p.summary, line ""] ++ arguments.flatten ++ returns ++ raises))

def Style.layout : Style → Value → Value → Except Fault String
  | .google => googleDocstring
  | .numpy => numpyDocstring
  | .rest => restDocstring

/-- The docstring that the content of an exchange gives in a style; the style is looked at last. -/
def generate (record style content : Value) : Except Fault String := do
  (← Style.ofValue style).layout record content

end DocReview.Suggestion

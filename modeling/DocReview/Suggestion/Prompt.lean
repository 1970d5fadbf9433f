import DocReview.Value.Access
/-!
# Prompt — what a language model is asked

The prompt asks for the content of a docstring as JSON, says what rules it keeps, and ends with what is known about the
function.
-/
namespace DocReview.Suggestion

def instructions : List String :=
  ["",
    "Return ONLY valid JSON in this exact format:",
    "",
    "\x7b",
    "  \"summary\": \"1–2 line description of what the function does\",",
    "  \"args\": \x7b",
    "    \"arg_name\": \"description\"",
    "  \x7d,",
    "  \"returns\": \"description of the return value\",",
    "  \"raises\": \x7b",
    "    \"ExceptionName\": \"reason\"",
    "  \x7d",
    "\x7d",
    "",
    "Rules:",
    "- The summary MUST be written in imperative mood",
    "- Start with the base verb (e.g., Add, Calculate, Normalize, Convert, Fetch, Validate)",
    "- Do NOT use third-person verbs (no Adds, Calculates, Returns)",
    "- If the summary violates this rule, rewrite it internally before responding",
    "- Include \"raises\" ONLY if exceptions actually occur",
    "- If no exceptions occur, return \"raises\": \x7b\x7d",
    "- Do NOT invent exceptions",
    "- Do NOT include markdown",
    "- Do NOT include triple quotes",
    "- JSON must be strictly valid",
    "- Be concise and professional",
    "",
    ""]

structure Subject where
  name : Value
  arguments : List Value
  returns : Value
  raises : Value

def Subject.ofRecord (record : Value) : Except Fault Subject := do
  let args ← (← record.get "args" (.list [])).elements
  let arguments ← args.mapM fun a => a.field "name"
  let raises ← record.get "raises" (.list [])
  return ⟨← record.field "name", arguments, ← record.get "returns", raises⟩

/-- The line that names the function starts so. -/
def nameMark : String := "Function name: "

def Subject.prompt (s : Subject) : String :=
  String.ofList (Text.joinWith ['\n'] ((instructions ++
    [nameMark ++ s.name.text,
      "Arguments: " ++ (Value.list s.arguments).text,
      "Return type: " ++ s.returns.text,
      "Known raises: " ++ s.raises.text,
      ""]).map String.toList))

/-- The function that a prompt asks about: what the last line of that kind names. -/
def namedIn? (prompt : String) : Option String :=
  ((Text.splitOn '\n' prompt.toList).filterMap fun l =>
    if nameMark.toList.isPrefixOf l then some (String.ofList (l.drop nameMark.length)) else none).getLast?

end DocReview.Suggestion

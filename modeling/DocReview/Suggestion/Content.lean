import DocReview.Suggestion.Prompt
import DocReview.Value.Arithmetic
/-!
# Content — what a docstring says

The content of a docstring is what a language model answers: JSON of any shape.  An answer that is no JSON is replaced
by content that only has placeholders.
-/
namespace DocReview.Suggestion

structure ModelConfig where
  model : String
  temperature : Binary64
  apiKey : String

def modelConfig (apiKey : String) : ModelConfig := ⟨"llama-3.1-8b-instant", Binary64.ofRatio false 3 10, apiKey⟩

def ModelConfig.value (c : ModelConfig) : Value :=
  .dict [("model", .str c.model), ("temperature", .float c.temperature), ("api_key", .str c.apiKey)]

def placeholder : Value := .str "DESCRIPTION"

def plainSummary (name : Value) : Value := .str ("Short description of `" ++ name.text ++ "`.")

/-- The first of each group of values that are the same key; a value that cannot be a key is refused. -/
def distinctKeys : List Value → List Value → Except Fault (List Value)
  | _, [] => .ok []
  | seen, k :: ks =>
    if k.isKey then
      if seen.any (k.sameKey ·) then distinctKeys seen ks else do return k :: (← distinctKeys (k :: seen) ks)
    else .error (.notKey k.kind)

def fallback (s : Subject) : Except Fault Value := do
  let keys ← distinctKeys [] s.arguments
  let args := keys.foldl (fun fields k => Value.insert k.text placeholder fields) []
  return .dict [("summary", plainSummary s.name), ("args", .dict args), ("returns", placeholder), ("raises", .dict [])]

/-- The content that an answer holds; only an answer that is no JSON leads to placeholders. -/
def contentOf (s : Subject) (answer : String) : Except Fault Value :=
  let cs := answer.toList
  match Json.read cs with
  | .ok v => .ok v
  | .error f =>
    match f.cause with
    | .tooManyDigits _ => .error (.badJson f cs)
    | _ => fallback s

structure Question where
  config : ModelConfig
  prompt : String

structure Exchange where
  asked : Option Question
  content : Except Fault Value

/-- Asks a model, which answers a prompt by `answer`, for the content of a function's docstring. Nothing is asked without
a key or about a record that cannot be described. -/
def ask (apiKey : Option String) (answer : String → String) (record : Value) : Exchange :=
  match apiKey with
  | none => ⟨none, .error .noApiKey⟩
  | some key =>
    if key = "" then ⟨none, .error .noApiKey⟩
    else
      match Subject.ofRecord record with
      | .error f => ⟨none, .error f⟩
      | .ok s => ⟨some ⟨modelConfig key, s.prompt⟩, contentOf s (answer s.prompt)⟩

end DocReview.Suggestion

import DocReview.Screen.Page
import DocReview.Text.Blank
/-!
# Chat — asking a language model

Two small apps ask a model one question at a time: a hosted model, which needs a key, and a local one, which is loaded
first.
-/
namespace DocReview.Chat

open Screen

def respond (prompt : String) : Draw Unit := do
  put (.spinner "Thinking...")
  put (.asked (subjectOf prompt))
  let answer := (← read).answer prompt
  put (.subheader "Response:")
  put (.write answer)

def hosted : Draw Unit := do
  put (.title "Groq LLM Test (LangChain + Streamlit)")
  match (← read).apiKey with
  | none | some "" => put (.error "GROQ_API_KEY not found. Please set it in your .env file.")
  | some _ =>
    let prompt ← textField "Enter your prompt:" "What is a data scientist? Explain step by step."
    if ← button "Run LLM" then
      if Text.allBlank prompt.toList then put (.warning "Please enter a prompt.") else respond prompt

def settings : ModelSettings := ⟨8192, 8, 0, Binary64.ofRatio false 3 10⟩

def question (text : String) : String := "You are a helpful AI.\nQuestion: " ++ text ++ "\nAnswer:"

/-- Loads the local model, or asks it once it is loaded. -/
def localModel : Draw Unit := do
  put (.title "Local Llama 3.1 (8B) - GGUF Chatbot")
  if !(← memory).hasModelPlace then
    remember fun m => { m with hasModelPlace := true, modelLoaded := some (.bool false) }
  if ((← memory).modelLoaded.getD .none).truthy then
    put (.success "✅ Model loaded! You can ask questions.")
    let text ← textField "Enter your question:"
    if ← button "Send" then
      if Text.allBlank text.toList then put (.warning "Please enter a question!") else respond (question text)
  else
    put (.info "Click the button to load the model (first time only).")
    if ← button "Load model" then
      put (.spinner "Loading model... this may take some time the first run.")
      put (.loadedModel settings)
      remember fun m => { m with modelLoaded := some (.bool true) }
      put (.success "✅ Model loaded!")
      throw .rerun

end DocReview.Chat

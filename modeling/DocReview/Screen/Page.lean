import DocReview.Issue
import DocReview.Path
import DocReview.Screen.Element
import DocReview.Suggestion.Style
/-!
# Page — one run of an app

A run draws a page from top to bottom, with the reader's answers known beforehand.  What it draws, what it remembers for
the next run and what it does to the disk stay, also when the run is cut short.
-/
namespace DocReview.Screen

/-- The databases of a server with their tables, what it answers to queries, and why it refuses to be connected to. -/
structure Server where
  databases : List (String × List String) := []
  queries : List (String × List String × List (List Value)) := []
  refusal : Option String := none

/-- What the reader does, and what outside services answer, in one run. -/
structure Answers where
  clicks : List String := []
  texts : List (String × String) := []
  choices : List (String × Value) := []
  /-- What a language model answers about a subject, and otherwise. -/
  replies : List (String × String) := []
  reply : String := ""
  apiKey : Option String
  check : Issue.Checked := {}
  server : Server := {}

/-- What is remembered from one run to the next. -/
structure Memory where
  view : Option Value := none
  activeFeature : Option Value := none
  selectedFile : Option Value := none
  validation : Option Value := none
  lastScan : Option Value := none
  lastReport : Option Value := none
  /-- Whether a place for a local model was made, and whether the model is in it. -/
  hasModelPlace : Bool := false
  modelLoaded : Option Value := none

/-- A page as far as it is drawn, newest element first. -/
structure Page where
  drawn : List Element := []
  memory : Memory := {}
  disk : Disk := {}

inductive Halt where
  | rerun
  | stop
  | fault (f : Fault)

abbrev Draw := ReaderT Answers (ExceptT Halt (StateM Page))

def put (e : Element) : Draw Unit := modify fun p => { p with drawn := e :: p.drawn }

def check {α : Type} (r : Except Fault α) : Draw α :=
  match r with
  | .ok a => pure a
  | .error f => throw (.fault f)

def memory : Draw Memory := do return (← get).memory

def remember (change : Memory → Memory) : Draw Unit := modify fun p => { p with memory := change p.memory }

def disk : Draw Disk := do return (← get).disk

def setDisk (d : Disk) : Draw Unit := modify fun p => { p with disk := d }

def lookup? {α : Type} (key : String) : List (String × α) → Option α
  | [] => none
  | (k, v) :: rest => if k = key then some v else lookup? key rest

/-! ## Widgets -/

/-- A button; it is known by its key, or by its label if it has none. -/
def button (label : String) (key : Option String := none) : Draw Bool := do
  let pressed := (← read).clicks.contains (key.getD label)
  put (.button label key pressed)
  return pressed

/-- A field for text; what it holds unless the reader changes it. -/
def textField (label : String) (initial : String := "") : Draw String := do
  let value := (lookup? label (← read).texts).getD initial
  put (.input label value)
  return value

/-- A choice among options: the first of them unless the reader chooses. -/
def choose (label : String) (options : List String) : Draw Value := do
  let first := match options with
    | o :: _ => .str o
    | [] => .none
  let value := (lookup? label (← read).choices).getD first
  put (.choice label options value)
  return value

/-! ## Outside services -/

/-- What a prompt is about: the function it names, or else all of it. -/
def subjectOf (prompt : String) : String := (Suggestion.namedIn? prompt).getD prompt

def Answers.answer (a : Answers) (prompt : String) : String := (lookup? (subjectOf prompt) a.replies).getD a.reply

def generate (record style : Value) : Draw String := do
  let answers ← read
  let exchange := Suggestion.ask answers.apiKey answers.answer record
  if let some question := exchange.asked then put (.asked (subjectOf question.prompt))
  let content ← check exchange.content
  check (Suggestion.generate record style content)

/-! ## Runs -/

/-- A run of an app: how it ended, if not at its end, and the page. -/
structure Run where
  halt : Option Halt
  page : Page

def Run.elements (r : Run) : List Element := r.page.drawn.reverse

def run (app : Draw Unit) (answers : Answers) (memory : Memory) (disk : Disk) : Run :=
  match (app.run answers).run { memory, disk } with
  | (.ok (), page) => ⟨none, page⟩
  | (.error halt, page) => ⟨some halt, page⟩

end DocReview.Screen

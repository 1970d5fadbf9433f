import DocReview.Environment.Binding
import DocReview.Environment.Reference
import DocReview.Path
/-!
# Load — variables from a file

Loading adds the bindings of a file to the variables of an environment.  It never changes a variable that is there; in
references, variables of the environment come before those of the file.
-/
namespace DocReview.Environment

abbrev Variables := List (String × String)

def lookup? {α : Type} (key : String) : List (String × α) → Option α
  | [] => none
  | (k, v) :: rest => if k = key then some v else lookup? key rest

def assign {α : Type} (key : String) (value : α) : List (String × α) → List (String × α)
  | [] => [(key, value)]
  | (k, v) :: rest => if k = key then (k, value) :: rest else (k, v) :: assign key value rest

/-- What a name in a reference stands for: a variable of the environment, or else one of the file so far. -/
def meaning (env : Variables) (known : List (String × Option String)) (name : String) : Option (Option String) :=
  match lookup? name env with
  | some v => some (some v)
  | none => lookup? name known

/-- The keys of a file with their values, references replaced. The last value of a key is the one it has. -/
def resolved (env : Variables) (pairs : List (String × Option String)) : List (String × Option String) :=
  pairs.foldl (fun known p => assign p.1 (p.2.map (resolve (meaning env known))) known) []

def settingFault? (key value : String) : Option Fault :=
  let isNull (c : Char) : Bool := c = '\x00'
  if key.toList.any isNull || value.toList.any isNull then some .embeddedNull
  else if key.toList.contains '=' then some .badVariableName
  else none

/-- Sets the variables that are not there, up to the first that cannot be set. -/
def setAll (env : Variables) : List (String × Option String) → Variables × Option Fault
  | [] => (env, none)
  | (_, none) :: rest => setAll env rest
  | (key, some value) :: rest =>
    if (lookup? key env).isSome then setAll env rest
    else
      match settingFault? key value with
      | some f => (env, some f)
      | none => setAll (env ++ [(key, value)]) rest

/-- A letter of the word for yes, in lower case. -/
def foldLetter (c : Char) : Char := if c = 'ſ' then 's' else c.toLower

def isDisabled (env : Variables) : Bool :=
  match lookup? "PYTHON_DOTENV_DISABLED" env with
  | some v => ["1", "true", "t", "yes", "y"].contains (String.ofList (v.toList.map foldLetter))
  | none => false

/-- A directory and those it stands in, up to the root. -/
def upwards (dir : String) : List String :=
  let steps := Path.steps dir
  (List.range (steps.length + 1)).map fun n => Path.ofSteps "" (steps.take (steps.length - n))

/-- The environment file of a directory: its own, or that of the nearest directory above it. -/
def find? (d : Disk) (dir : String) : Option String :=
  (upwards dir).map (Path.join · ".env") |>.find? d.isFile

/-- What came of loading: the variables, the lines that could not be read, and what stopped it. -/
structure Loaded where
  env : Variables
  badLines : List Nat := []
  fault : Option Fault := none

def loadText (env : Variables) (cs : List Char) : Loaded :=
  let bs := bindings cs
  let pairs := bs.filterMap fun b => b.key.map fun k => (k, b.value)
  let (after, fault) := setAll env (resolved env pairs)
  { env := after, badLines := (bs.filter Binding.isError).map Binding.line, fault }

def load (d : Disk) (dir : String) (env : Variables) : Loaded :=
  if isDisabled env then { env }
  else
    match find? d dir with
    | none => { env }
    | some path =>
      match d.readText path with
      | .ok cs => loadText env cs
      | .error f => { env, fault := some f }

def badLineText (line : Nat) : String := "python-dotenv could not parse statement starting at line " ++ toString line

def changes (before after : Variables) : Variables := after.filter fun p => lookup? p.1 before ≠ some p.2

end DocReview.Environment

import ReportSheets.CommandLine.Words

namespace ReportSheets.CommandLine

inductive Stop
  | help
  | version
  | misuse
deriving DecidableEq

inductive Action
  | generate
  | fields
  | eval
deriving DecidableEq

namespace Action

def name : Action → String
  | .generate => "generate"
  | .fields => "fields"
  | .eval => "eval"

def all : List Action := [.generate, .fields, .eval]

def named? (name : String) : Option Action := all.find? fun action => action.name == name

def folderChoices : List Choice := [.settingsFile, .outputFolder, .formFolder, .templateFolder]

def vocabulary : Action → Vocabulary
  | .generate => ⟨[.verbose, .help], .format :: folderChoices⟩
  | .fields => ⟨[.verbose, .help], folderChoices⟩
  | .eval => ⟨[.verbose, .help], [.field, .value]⟩

def takesWord (action : Action) (before : List String) (word : String) : Bool :=
  match action with
  | .generate => before.isEmpty && word != ""
  | .fields => true
  | .eval => before.isEmpty

end Action

structure Given where
  verbose : Bool := false
  choices : List (Choice × String) := []
  words : List String := []

namespace Given

def value? (given : Given) (choice : Choice) : Option String :=
  (given.choices.find? fun entry => entry.1 == choice).map (·.2)

def choose (given : Given) (choice : Choice) (value : String) : Except Stop Given :=
  if (given.value? choice).isSome ∨ choice.isPath ∧ value = "" then .error .misuse
  else .ok { given with choices := given.choices ++ [(choice, value)] }

def add (takesWord : List String → String → Bool) (given : Given) : Item → Except Stop Given
  | .flag .help => .error .help
  | .flag .version => .error .version
  | .flag .verbose =>
    if given.verbose then .error .misuse else .ok { given with verbose := true }
  | .choice choice value => given.choose choice value
  | .word text =>
    if takesWord given.words text then .ok { given with words := given.words ++ [text] }
    else .error .misuse

def read (known : Vocabulary) (takesWord : List String → String → Bool) (words : List String) :
    Except Stop Given := do
  let (items, broken) := known.items words
  let given ← items.foldlM (add takesWord) {}
  if broken then throw .misuse
  return given

def complete (environment : String → Option String) (given : Given) (choice : Choice) :
    Except Stop Given :=
  match given.value? choice, choice.environmentName?.bind environment with
  | none, some value => given.choose choice value
  | _, _ => .ok given

end Given

structure FolderChoice where
  settingsFile : Option String
  output : Option String
  forms : Option String
  templates : Option String
deriving DecidableEq

inductive Task
  | generate (dataFile format : String) (folders : FolderChoice)
  | fields (forms : List String) (folders : FolderChoice)
  | eval (formula field value : String)
deriving DecidableEq

structure Request where
  verbose : Bool
  task : Task
deriving DecidableEq

def defaultFormat : String := "EXCEL"

def Given.folders (given : Given) : FolderChoice where
  settingsFile := given.value? .settingsFile
  output := given.value? .outputFolder
  forms := given.value? .formFolder
  templates := given.value? .templateFolder

def Action.task? (action : Action) (given : Given) : Option Task :=
  match action, given.words with
  | .generate, [dataFile] =>
    some (.generate dataFile ((given.value? .format).getD defaultFormat) given.folders)
  | .fields, form :: forms => some (.fields (form :: forms) given.folders)
  | .eval, [formula] =>
    (given.value? .field).map fun field =>
      .eval formula field ((given.value? .value).getD "")
  | _, _ => none

namespace Request

def helpName : String := "help"

def helpStop : List String → Stop
  | [] => .help
  | [name] => if name = helpName ∨ (Action.named? name).isSome then .help else .misuse
  | _ => .misuse

def ofAction (environment : String → Option String) (verbose : Bool) (action : Action)
    (words : List String) : Except Stop Request := do
  let given ← Given.read action.vocabulary action.takesWord words
  let given ← action.vocabulary.choices.foldlM (Given.complete environment) given
  match action.task? given with
  | some task => return ⟨verbose || given.verbose, task⟩
  | none => throw .misuse

def read (environment : String → Option String) (words : List String) : Except Stop Request := do
  let isLeading := fun word => looksLikeOption word && word != "--"
  let given ← Given.read ⟨[.verbose, .help, .version], []⟩ (fun _ _ => false)
    (words.takeWhile isLeading)
  match words.dropWhile isLeading with
  | [] => throw .misuse
  | name :: words =>
    match Action.named? name with
    | some action => ofAction environment given.verbose action words
    | none => throw (if name = helpName then helpStop words else .misuse)

end Request

end ReportSheets.CommandLine

import ReportSheets.Text.Blank

namespace ReportSheets.Path

def separator : Char := '/'

def isAbsolute (path : String) : Bool := path.toList.head? == some separator

/-- The path of a name inside a folder. An absolute name stands for itself. -/
def join (folder name : String) : String :=
  if isAbsolute name ∨ folder = "" then name
  else if folder.toList.getLast? = some separator then folder ++ name
  else folder ++ "/" ++ name

inductive Step
  | stay
  | up
  | down (name : String)
deriving DecidableEq

def stepOf (piece : List Char) : Step :=
  if piece = [] ∨ piece = ['.'] then .stay
  else if piece = ['.', '.'] then .up
  else .down (String.ofList piece)

def pieces (path : String) : List (List Char) := Text.pieces (· == separator) path.toList

/-- An empty step at the end asks for a folder. -/
def steps (path : String) : List Step := (pieces path).map stepOf

def parent (path : String) : String :=
  let named := (pieces path).filter fun piece => piece != [] && piece != ['.']
  String.ofList ((if isAbsolute path then [separator] else []) ++
    [separator].intercalate named.dropLast)

def maxName : Nat := 255

def maxPath : Nat := 4095

end ReportSheets.Path

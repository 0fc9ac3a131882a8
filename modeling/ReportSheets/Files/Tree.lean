import ReportSheets.Archive.Packing
import ReportSheets.Data.Lines
import ReportSheets.Files.Path
import ReportSheets.Workbook.Saved

namespace ReportSheets

inductive FileContent
  | bytes (content : ByteArray)
  | parts (named : List (String × ByteArray))
  | book (saved : SavedBook)

namespace FileContent

/-- The bytes of a file, as far as they are known: packed files are no text, but for those without
parts. -/
def bytes? : FileContent → Option ByteArray
  | bytes content => some content
  | parts [] => some (Archive.pack [])
  | _ => none

def text? (content : FileContent) : Option String := content.bytes?.bind String.fromUTF8?

def lines (content : FileContent) : List RawLine :=
  (content.bytes?.map RawLine.ofBytes).getD [.notUtf8]

end FileContent

abbrev Files := String → Except Error FileContent

namespace Files

def isFile (files : Files) (path : String) : Bool := (files path).isOk

def readText (files : Files) (path : String) : Except Error String := do
  match (← files path).text? with
  | some text => return text
  | none => throw .notUtf8

end Files

inductive FileNode
  | folder
  | file (content : FileContent)

/-- Files and folders by the names that lead to them; the tree's own folder is not listed. -/
structure FileTree where
  nodes : List (List String × FileNode)

namespace FileTree

inductive Place
  | folder (names : List String)
  | beyond
  | file (content : FileContent)

def node? (tree : FileTree) (names : List String) : Option FileNode :=
  if names = [] then some .folder
  else (tree.nodes.find? fun entry => entry.1 == names).map (·.2)

def put (tree : FileTree) (names : List String) (node : FileNode) : FileTree :=
  ⟨tree.nodes.filter (fun entry => entry.1 != names) ++ [(names, node)]⟩

def putFolder (tree : FileTree) (names : List String) : FileTree :=
  if (tree.node? names).isSome then tree else tree.put names .folder

def putFile (tree : FileTree) (names : List String) (content : FileContent) : FileTree :=
  let folders := (List.range names.length).map names.take
  (folders.foldl putFolder tree).put names (.file content)

def downwards : Path.Step → Option String
  | .down name => some name
  | _ => none

def ofFiles (folders : List String) (files : List (String × FileContent)) : FileTree :=
  let start : FileTree := folders.foldl (fun tree name => tree.putFolder [name]) ⟨[]⟩
  files.foldl (fun tree (path, content) =>
    tree.putFile ((Path.steps path).filterMap downwards) content) start

def enter (tree : FileTree) (place : Place) (step : Path.Step) : Except Error Place :=
  match place, step with
  | .file _, _ => .error .notADirectory
  | .folder names, .down name =>
    if Path.maxName < name.utf8ByteSize then .error .nameTooLong
    else
      match tree.node? (names ++ [name]) with
      | some .folder => .ok (.folder (names ++ [name]))
      | some (.file content) => .ok (.file content)
      | none => .error .noSuchFile
  | .folder [], .up => .ok .beyond
  | .folder names, .up => .ok (.folder names.dropLast)
  | .beyond, .down _ => .error .noSuchFile
  | place, _ => .ok place

def start (path : String) : Place := if Path.isAbsolute path then .beyond else .folder []

def locate (tree : FileTree) (path : String) : Except Error Place :=
  if path = "" then .error .noSuchFile
  else if Path.maxPath < path.utf8ByteSize then .error .nameTooLong
  else (Path.steps path).foldlM tree.enter (start path)

def files (tree : FileTree) : Files := fun path => do
  match ← tree.locate path with
  | .file content => return content
  | _ => throw .isADirectory

def size? (tree : FileTree) (path : String) : Option Nat :=
  match tree.locate path with
  | .ok (.folder names) =>
    some (tree.nodes.filter fun entry => entry.1.dropLast == names).length
  | _ => none

def isFolder (tree : FileTree) (path : String) : Bool :=
  match tree.locate path with
  | .ok (.folder _) | .ok .beyond => true
  | _ => false

def makeLast (tree : FileTree) (path : String) : Except Error FileTree := do
  if Path.maxPath < path.utf8ByteSize then throw .nameTooLong
  let pieces := ((Path.pieces path).reverse.dropWhile fun piece => piece == []).reverse
  match ← (pieces.dropLast.map Path.stepOf).foldlM tree.enter (start path) with
  | .file _ => throw .notADirectory
  | .beyond => return tree
  | .folder names =>
    match pieces.getLast?.map Path.stepOf with
    | some (.down name) =>
      if Path.maxName < name.utf8ByteSize then throw .nameTooLong
      else if (tree.node? (names ++ [name])).isSome then throw .fileExists
      else return tree.put (names ++ [name]) .folder
    | _ => throw .fileExists

def orFolder (tree : FileTree) (path : String) (made : Except Error FileTree) :
    Except Error FileTree :=
  match made with
  | .error e => if tree.isFolder path then .ok tree else .error e
  | .ok tree => .ok tree

def makeAround (tree : FileTree) (path : String) : Nat → Except Error FileTree
  | 0 => tree.orFolder path (tree.makeLast path)
  | depth + 1 =>
    if path = "" then .ok tree
    else
      match tree.makeLast path with
      | .error .noSuchFile => do
        let tree ← tree.makeAround (Path.parent path) depth
        tree.orFolder path (tree.makeLast path)
      | made => tree.orFolder path made

def makeFolder (tree : FileTree) (path : String) : Except Error (FileTree × List String) := do
  let tree ← tree.makeAround path (Path.pieces path).length
  match tree.locate path with
  | .ok (.folder names) => return (tree, names)
  | _ => return (tree, [])

end FileTree

end ReportSheets

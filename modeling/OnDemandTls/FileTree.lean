import OnDemandTls.Catalog

namespace OnDemandTls

/-!
# File trees

Files and directories as a value.  A path is a text; its names are separated by
slashes, and a relative path counts from the working directory.  Every operation
says how it fails, in the words of the operating system.
-/

/-- Why an operation on files fails. -/
inductive OsError where
  | notFound
  | permissionDenied
  | alreadyExists
  | notADirectory
  | isADirectory
  /-- The content of a file is no text. -/
  | notText
  /-- Any other reason, in its own words. -/
  | other (text : String)
  deriving DecidableEq, Repr

namespace OsError

/-- The words of the operating system. -/
def message : OsError → String
  | notFound => "No such file or directory (os error 2)"
  | permissionDenied => "Permission denied (os error 13)"
  | alreadyExists => "File exists (os error 17)"
  | notADirectory => "Not a directory (os error 20)"
  | isADirectory => "Is a directory (os error 21)"
  | notText => "stream did not contain valid UTF-8"
  | other text => text

end OsError

/-- What stands under a path. -/
inductive FileNode where
  | file (content : ByteArray) (mode : Nat)
  | directory
  /-- A link to a place where nothing can be made. -/
  | brokenLink

/-- Files and directories under their paths, and the working directory; the top
directory is always there. -/
structure FileTree where
  nodes : Catalog FileNode
  workingDirectory : List String

namespace FileTree

/-- The tree that has only its top directory. -/
def empty : FileTree where
  nodes := Catalog.empty
  workingDirectory := []

/-- Mode of a file that has just been made. -/
def newFileMode : Nat := 0o644

/-- Follow one name of a path; `above` holds the names so far, the last first. -/
def step
    (above : List String)
    (name : String) :
    List String :=
  if name = "" ∨ name = "." then
    above
  else if name = ".." then
    above.drop 1
  else
    name :: above

/-- Whether a path counts from the top of the tree. -/
def isAbsolute (path : String) : Bool :=
  path.toList.head? == some '/'

/-- The names of a path, from the top of the tree. -/
def locate
    (tree : FileTree)
    (path : String) :
    List String :=
  let start := if isAbsolute path then [] else tree.workingDirectory.reverse
  ((path.splitOn "/").foldl step start).reverse

/-- The path of some names. -/
def join (names : List String) : String :=
  String.intercalate "/" names

/-- What stands at the end of some names, or why the way there is barred. -/
def find
    (tree : FileTree)
    (names : List String) :
    Except OsError FileNode :=
  go names []
where
  /-- Walk on from the directory with the given names. -/
  go : List String → List String → Except OsError FileNode
    | [], _ => .ok .directory
    | name :: rest, above =>
        let here := above ++ [name]
        match tree.nodes.get? (join here), rest with
        | none, _ => .error .notFound
        | some node, [] => .ok node
        | some .directory, rest => go rest here
        | some (.file ..), _ => .error .notADirectory
        | some .brokenLink, _ => .error .notFound

/-- Whether something can be reached under a path. -/
def reaches
    (tree : FileTree)
    (path : String) :
    Bool :=
  match tree.find (tree.locate path) with
  | .ok .brokenLink => false
  | .ok _ => true
  | .error _ => false

/-- Read the bytes of a file. -/
def readBytes
    (tree : FileTree)
    (path : String) :
    Except OsError ByteArray :=
  if path = "" then
    .error .notFound
  else
    match tree.find (tree.locate path) with
    | .ok (.file content _) =>
        if path.endsWith "/" then .error .notADirectory else .ok content
    | .ok .directory => .error .isADirectory
    | .ok .brokenLink => .error .notFound
    | .error error => .error error

/-- Read a file as a text. -/
def readText
    (tree : FileTree)
    (path : String) :
    Except OsError String :=
  match tree.readBytes path with
  | .error error => .error error
  | .ok content =>
      match String.fromUTF8? content with
      | some text => .ok text
      | none => .error .notText

/-- Put a node under some names. -/
def place
    (tree : FileTree)
    (names : List String)
    (node : FileNode) :
    FileTree :=
  { tree with nodes := tree.nodes.insert (join names) node }

/-- Whether a file could be made or replaced under a path. -/
def mayWrite
    (tree : FileTree)
    (path : String) :
    Except OsError Unit :=
  if path = "" then
    .error .notFound
  else
    match tree.find (tree.locate path).dropLast with
    | .error error => .error error
    | .ok (.file ..) => .error .notADirectory
    | .ok .brokenLink => .error .notFound
    | .ok .directory =>
        match tree.find (tree.locate path) with
        | .ok .directory => .error .isADirectory
        | .ok .brokenLink => .error .notFound
        | .ok (.file ..) => .ok ()
        | .error _ => if path.endsWith "/" then .error .isADirectory else .ok ()

/-- Write a file in place of an older one, whose mode it keeps. -/
def write
    (tree : FileTree)
    (path content : String) :
    Except OsError FileTree := do
  tree.mayWrite path
  let mode :=
    match tree.find (tree.locate path) with
    | .ok (.file _ mode) => mode
    | _ => newFileMode
  return tree.place (tree.locate path) (.file content.toUTF8 mode)

/-- Change the mode of a file. -/
def setMode
    (tree : FileTree)
    (path : String)
    (mode : Nat) :
    FileTree :=
  match tree.find (tree.locate path) with
  | .ok (.file content _) => tree.place (tree.locate path) (.file content mode)
  | _ => tree

/-- Take away what stands under a path. -/
def remove
    (tree : FileTree)
    (path : String) :
    FileTree :=
  { tree with nodes := tree.nodes.erase (join (tree.locate path)) }

/-- Move a file over another one. -/
def rename
    (tree : FileTree)
    (source target : String) :
    Except OsError FileTree := do
  tree.mayWrite target
  match tree.find (tree.locate source) with
  | .ok node => return (tree.remove source).place (tree.locate target) node
  | .error error => throw error

/-- Make the directories of some names that are not there yet. -/
def makeDirectories
    (tree : FileTree)
    (path : String) :
    Except OsError FileTree :=
  go tree (tree.locate path) []
where
  /-- Make the rest of the way from the directory with the given names. -/
  go : FileTree → List String → List String → Except OsError FileTree
    | tree, [], _ => .ok tree
    | tree, name :: rest, above =>
        let here := above ++ [name]
        match tree.nodes.get? (join here), rest with
        | none, _ => go (tree.place here .directory) rest here
        | some .directory, _ => go tree rest here
        | some (.file ..), [] => .error .alreadyExists
        | some (.file ..), _ => .error .notADirectory
        | some .brokenLink, _ => .error .alreadyExists

/-- The names that a path is written with. -/
def components (path : String) : List String :=
  (path.splitOn "/").filter (fun name => name ≠ "" ∧ name ≠ ".")

/-- The path of a name in a directory; no directory is the working one. -/
def within
    (directory name : String) :
    String :=
  if directory = "" ∨ directory.endsWith "/" then directory ++ name else directory ++ "/" ++ name

/-- The path of the directory that holds what a path names; it is empty for what
the working directory holds. -/
def parent (path : String) : String :=
  (if isAbsolute path then "/" else "") ++ join (components path).dropLast

/-- The last name of a path; empty if that is no name of its own. -/
def fileName (path : String) : String :=
  ((components path).getLast?.filter (· ≠ "..")).getD ""

/-- The characters of a name before and after its last dot; a dot at the start
of a name does not count. -/
def splitExtension (name : List Char) : List Char × Option (List Char) :=
  let ending := name.reverse.takeWhile (· != '.')
  let stem := (name.reverse.dropWhile (· != '.')).drop 1
  if ending.length = name.length ∨ stem = [] ∨ name = ['.', '.'] then
    (name, none)
  else
    (stem.reverse, some ending.reverse)

/-- What follows the last dot of the last name of a path. -/
def extension (path : String) : String :=
  String.ofList ((splitExtension (fileName path).toList).2.getD [])

/-- A path whose last name has another extension. -/
def withExtension
    (path extension : String) :
    String :=
  if fileName path = "" then
    path
  else
    let stem := String.ofList (splitExtension (fileName path).toList).1
    within (parent path) (stem ++ "." ++ extension)

end FileTree

end OnDemandTls

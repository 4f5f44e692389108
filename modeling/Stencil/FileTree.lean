import Stencil.Text.Split

/-!
# File trees

The files and directories that a command can see, as a value. A place in the tree
is the list of names that leads to it from the root; a path is a text, which is
followed from the root or from the current directory, name by name. Creating a
file gives a new tree, and the old one remains.
-/

namespace Stencil

/-- A place in a tree: the names that lead to it from the root. -/
abbrev Place := List String

/-- **A file tree**: directories, files with their contents, and the current
directory. The root is a directory without being listed. -/
structure FileTree where
  directories : List Place
  files : List (Place × ByteArray)
  current : Place

/-- Why a path cannot be used. -/
inductive FileError where
  | notFound
  | notDirectory
  | isDirectory
  | nameTooLong
  | zeroByte
  | notText
  deriving DecidableEq

/-- The wording of a file error. -/
def FileError.message : FileError → String
  | notFound => "No such file or directory (os error 2)"
  | notDirectory => "Not a directory (os error 20)"
  | isDirectory => "Is a directory (os error 21)"
  | nameTooLong => "File name too long (os error 36)"
  | zeroByte => "file name contained an unexpected NUL byte"
  | notText => "stream did not contain valid UTF-8"

/-- What a path leads to. -/
inductive Target where
  | directory (place : Place)
  | file (contents : ByteArray)

/-! ### Paths -/

/-- The names of a path, with the empty ones. -/
def pathNames (path : String) : List String := (splitAtChar '/' path.toList).map String.ofList

/-- Whether a name stands for no step down. -/
def isIdleName (name : String) : Bool := name == "" || name == "."

/-- **The base name of a path**: the last name, unless that leads upwards or there
is none. -/
def baseName? (path : String) : Option String :=
  match (pathNames path).reverse.dropWhile isIdleName with
  | [] => none
  | name :: _ => if name = ".." then none else some name

namespace FileTree

/-- Whether a place is a directory. -/
def isDirectory (t : FileTree) (p : Place) : Bool := p.isEmpty || t.directories.contains p

/-- The contents of the file at a place. -/
def contents? (t : FileTree) (p : Place) : Option ByteArray := t.files.lookup p

/-- The longest name, in bytes. -/
def maxName : Nat := 255

/-- The longest path, in bytes. -/
def maxPath : Nat := 4095

/-- Follows names from a directory. -/
def walk (t : FileTree) (p : Place) : List String → Except FileError Target
  | [] => .ok (.directory p)
  | name :: rest =>
    if isIdleName name then t.walk p rest
    else if name = ".." then t.walk p.dropLast rest
    else if maxName < name.utf8ByteSize then .error .nameTooLong
    else
      let next := p ++ [name]
      match t.contents? next with
      | some bytes => if rest.isEmpty then .ok (.file bytes) else .error .notDirectory
      | none => if t.isDirectory next then t.walk next rest else .error .notFound

/-- Where following a path begins. -/
def origin (t : FileTree) (path : String) : Place :=
  if path.toList.head? = some '/' then [] else t.current

/-- Refuses a path that is no path at all. -/
def checkPath (path : String) : Except FileError Unit :=
  if path.toList.contains '\x00' then .error .zeroByte
  else if path.isEmpty then .error .notFound
  else if maxPath < path.utf8ByteSize then .error .nameTooLong
  else .ok ()

/-- **What a path leads to.** -/
def find (t : FileTree) (path : String) : Except FileError Target :=
  match checkPath path with
  | .error e => .error e
  | .ok () => t.walk (t.origin path) (pathNames path)

/-- Whether a path leads anywhere. -/
def pathExists (t : FileTree) (path : String) : Bool := (t.find path).toOption.isSome

/-- **The text of a file.** -/
def readText (t : FileTree) (path : String) : Except FileError String :=
  match t.find path with
  | .error e => .error e
  | .ok (.directory _) => .error .isDirectory
  | .ok (.file bytes) =>
    match String.fromUTF8? bytes with
    | some s => .ok s
    | none => .error .notText

/-! ### Writing -/

/-- The files with one set. -/
def putFile (p : Place) (bytes : ByteArray) : List (Place × ByteArray) → List (Place × ByteArray)
  | [] => [(p, bytes)]
  | (q, old) :: rest => if q = p then (p, bytes) :: rest else (q, old) :: putFile p bytes rest

/-- The place of a file to be created: its directory must exist, and the path must
end with a name that is not a directory's. -/
def newPlace (t : FileTree) (path : String) : Except FileError Place :=
  match checkPath path with
  | .error e => .error e
  | .ok () =>
    let names := (pathNames path).reverse
    match names.dropWhile (· == "") with
    | [] => .error .isDirectory
    | name :: above =>
      match t.walk (t.origin path) above.reverse with
      | .error e => .error e
      | .ok (.file _) => .error .notDirectory
      | .ok (.directory p) =>
        if names.head? = some "" || isIdleName name || name = ".." then .error .isDirectory
        else if maxName < name.utf8ByteSize then .error .nameTooLong
        else if t.isDirectory (p ++ [name]) then .error .isDirectory
        else .ok (p ++ [name])

/-- **The tree with the contents of a file set.** -/
def setContents (t : FileTree) (p : Place) (bytes : ByteArray) : FileTree :=
  { t with files := putFile p bytes t.files }

/-! ### Building and comparing -/

/-- The tree with a directory. -/
def addDirectory (t : FileTree) (p : Place) : FileTree :=
  if t.isDirectory p then t else { t with directories := p :: t.directories }

/-- The tree with a file, and with the directories that lead to it. -/
def addFile (t : FileTree) (p : Place) (bytes : ByteArray) : FileTree :=
  let above := (List.range p.length).foldl (fun t n => t.addDirectory (p.take n)) t
  above.setContents p bytes

/-- The tree with an empty current directory. -/
def emptyAt (current : Place) : FileTree :=
  (List.range (current.length + 1)).foldl (fun t n => t.addDirectory (current.take n))
    ⟨[], [], current⟩

/-- The place of a path without steps upwards, from the current directory. -/
def placeOf (t : FileTree) (path : String) : Place :=
  t.origin path ++ (pathNames path).filter (!isIdleName ·)

/-- The files of `after` that are new or have other contents than in `before`. -/
def changes (before after : FileTree) : List (Place × ByteArray) :=
  after.files.filter fun (p, bytes) => !(before.contents? p == some bytes)

end FileTree

end Stencil

import LoanDesk.Text.Pieces

/-!
# File trees

A file tree holds texts in files and files in directories.  A path leads from the root to a file
through the directories that it names, and only a directory can be gone through.
-/

namespace LoanDesk

/-- Why a file cannot be read as text. -/
inductive FileError where
  | notFound
  | notDirectory
  | isDirectory
  | nameTooLong
  /-- A name has the character that ends names. -/
  | unexpectedNul
  | notText
  | other (description : String)
deriving DecidableEq, Repr

/-- How the system speaks of an error. -/
def FileError.message : FileError → String
  | notFound => "No such file or directory (os error 2)"
  | notDirectory => "Not a directory (os error 20)"
  | isDirectory => "Is a directory (os error 21)"
  | nameTooLong => "File name too long (os error 36)"
  | unexpectedNul => "file name contained an unexpected NUL byte"
  | notText => "stream did not contain valid UTF-8"
  | other description => description

/-- Directories and files by the names on the way to them. -/
structure FileTree where
  /-- The directories, of which those above another or above a file may be left out. -/
  directories : List (List String)
  files : List (List String × String)

namespace FileTree

/-- What a name can stand for. -/
inductive Entry where
  | directory
  | file (text : String)
deriving DecidableEq, Repr

/-- Whether the names lead to a directory. -/
def isDirectory (t : FileTree) (names : List String) : Bool :=
  names.isEmpty || t.directories.any names.isPrefixOf || t.files.any fun f => names.isPrefixOf f.1

/-- What the names lead to. -/
def entry? (t : FileTree) (names : List String) : Option Entry :=
  match t.files.lookup names with
  | some text => some (.file text)
  | none => if t.isDirectory names then some .directory else none

/-- The most bytes of a name. -/
def maxName : Nat := 255

/-- The most bytes of a path. -/
def maxPath : Nat := 4095

/-- What the parts of a path lead to, from the entry that `names` lead to. -/
def walk (t : FileTree) (names : List String) (entry : Entry) :
    List String → Except FileError Entry
  | [] => .ok entry
  | part :: parts =>
    match entry with
    | .file _ => .error .notDirectory
    | .directory =>
      if part = "" ∨ part = "." then walk t names .directory parts
      else if part = ".." then walk t names.dropLast .directory parts
      else if maxName < part.utf8ByteSize then .error .nameTooLong
      else
        match t.entry? (names ++ [part]) with
        | some entry => walk t (names ++ [part]) entry parts
        | none => .error .notFound

/-- What a path leads to. -/
def find (t : FileTree) (path : String) : Except FileError Entry :=
  if path.toList.contains '\x00' then .error .unexpectedNul
  else if path.isEmpty then .error .notFound
  else if maxPath < path.utf8ByteSize then .error .nameTooLong
  else t.walk [] .directory ((Text.pieces '/' path.toList).map String.ofList)

/-- The text of the file that a path leads to. -/
def read (t : FileTree) (path : String) : Except FileError String :=
  match t.find path with
  | .ok (.file text) => .ok text
  | .ok .directory => .error .isDirectory
  | .error e => .error e

end FileTree

end LoanDesk

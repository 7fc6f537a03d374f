/-!
# Files

What a path leads to.  A path may lead nowhere, so that it cannot be opened; to something that opens
but cannot be read, such as a folder; or to a file.

* `OsError`, `OsError.message` — the causes that the operating system gives.
* `FileAccess` — the outcome of opening a path and reading what is there.
* `Folder.access` — this outcome in a folder of plain files.
-/

namespace StackMachine

/-- A cause given by the operating system. -/
structure OsError where
  /-- The number of the cause. -/
  number : Nat
  /-- Its wording. -/
  wording : String
deriving DecidableEq

namespace OsError

/-- How a cause is reported. -/
def message (e : OsError) : String := e.wording ++ " (os error " ++ toString e.number ++ ")"

/-- The path leads nowhere. -/
def notFound : OsError := ⟨2, "No such file or directory"⟩

/-- The path goes through a file as if it were a folder. -/
def notADirectory : OsError := ⟨20, "Not a directory"⟩

/-- A folder cannot be read as a file. -/
def isADirectory : OsError := ⟨21, "Is a directory"⟩

/-- A path, or one of the names in it, is longer than the system allows. -/
def nameTooLong : OsError := ⟨36, "File name too long"⟩

end OsError

/-- The outcome of opening a path and reading what is there. -/
inductive FileAccess where
  /-- The path cannot be opened. -/
  | unopened (cause : OsError)
  /-- The path opens, but what is there cannot be read. -/
  | unread (cause : OsError)
  /-- The bytes of a file. -/
  | content (bytes : ByteArray)

/-- A folder that holds plain files and no other folder. -/
structure Folder where
  /-- The names and bytes of the files. -/
  files : List (String × ByteArray)

namespace Folder

/-- The length in bytes that a name in a path may have. -/
def nameLimit : Nat := 255

/-- The length in bytes that a path may have. -/
def pathLimit : Nat := 4095

/-- Where a path has led to so far. -/
inductive Place where
  /-- The folder itself. -/
  | inside
  /-- One of the folders around it, of which nothing else is known. -/
  | outside
  /-- A file. -/
  | file (bytes : ByteArray)

/-- Follow one component of a path.  An empty one, from two slashes in a row, leads nowhere new. -/
def follow (folder : Folder) (place : Place) (name : String) : Except OsError Place :=
  match place with
  | .file _ => throw .notADirectory
  | .inside | .outside =>
    if name = "" ∨ name = "." then return place
    else if name = ".." then return .outside
    else if nameLimit < name.utf8ByteSize then throw .nameTooLong
    else
      match place, folder.files.lookup name with
      | .inside, some bytes => return .file bytes
      | _, _ => throw .notFound

/-- Follow a whole path.  A slash at its start leads out of the folder. -/
def resolve (folder : Folder) (path : String) : Except OsError Place :=
  if pathLimit < path.utf8ByteSize then throw .nameTooLong
  else
    let start := if path.toList.head? = some '/' then Place.outside else Place.inside
    (path.splitOn "/").foldlM folder.follow start

/-- What a path leads to. -/
def access (folder : Folder) (path : String) : FileAccess :=
  match folder.resolve path with
  | .error cause => .unopened cause
  | .ok (.file bytes) => .content bytes
  | .ok .inside | .ok .outside => .unread .isADirectory

end Folder

end StackMachine

import SunSpec.Text.Utf8

/-!
# Files

What can be wrong with a file, and a folder held in memory. A path is read from left to right: an
empty part and a part of one point stay where they are, two points go up, and every part but the
last must be a folder.
-/

namespace SunSpec

/-- Why a file cannot be read. -/
inductive FileFault where
  | notFound
  | isFolder
  | notAFolder
  | nameTooLong
  /-- Something stands where a folder was to be made. -/
  | alreadyThere
  /-- Any other reason, in the words of the system. -/
  | other (why : String)
deriving DecidableEq, Repr

/-- The words for a fault. -/
def FileFault.message : FileFault → String
  | notFound => "No such file or directory (os error 2)"
  | isFolder => "Is a directory (os error 21)"
  | notAFolder => "Not a directory (os error 20)"
  | nameTooLong => "File name too long (os error 36)"
  | alreadyThere => "File exists (os error 17)"
  | other why => why

/-- The words for bytes that are no text. -/
def invalidText : String := "stream did not contain valid UTF-8"

/-- A file that was asked for: its path, and its bytes or why there are none. -/
structure SourceFile where
  path : String
  contents : Except FileFault (List UInt8)

namespace SourceFile

/-- There is something at the path, be it a folder. -/
def isThere (f : SourceFile) : Bool :=
  match f.contents with
  | .ok _ | .error .isFolder => true
  | .error _ => false

/-- The text of a file, or why there is none. -/
def text (f : SourceFile) : Except String String :=
  match f.contents with
  | .error e => .error e.message
  | .ok bytes =>
    match Utf8.decode? bytes with
    | some text => .ok text
    | none => .error invalidText

end SourceFile

/-- A folder: files by the parts of their path. -/
structure Folder where
  files : List (List String × List UInt8)

namespace Folder

/-- The parts of a path. -/
def parts (path : String) : List String := (path.splitOn "/").filter fun s => s ≠ "" && s ≠ "."

/-- A folder of files by path. -/
def ofFiles (files : List (String × List UInt8)) : Folder :=
  ⟨files.map fun (path, bytes) => (parts path, bytes)⟩

/-- The file of a path. -/
def file? (f : Folder) (path : List String) : Option (List UInt8) := f.files.lookup path

/-- A path is the folder itself or leads on to a file. -/
def isFolder (f : Folder) (path : List String) : Bool :=
  path.isEmpty || f.files.any fun (p, _) => path.isPrefixOf p && path ≠ p

/-- Walk parts from a folder on. -/
def walk (f : Folder) (here : List String) : List String → Except FileFault (List UInt8)
  | [] => if f.isFolder here then .error .isFolder else match f.file? here with
    | some bytes => .ok bytes
    | none => .error .notFound
  | part :: rest =>
    if f.isFolder here then
      f.walk (if part = ".." then here.dropLast else here ++ [part]) rest
    else if (f.file? here).isSome then .error .notAFolder
    else .error .notFound

/-- A path that can only be that of a folder. -/
def endsInFolder (path : String) : Bool := path.endsWith "/" || path.endsWith "/."

/-- The contents of the file of a path. -/
def read (f : Folder) (path : String) : Except FileFault (List UInt8) :=
  if path.isEmpty then .error .notFound
  else if (parts path).any fun s => 255 < s.utf8ByteSize then .error .nameTooLong
  else
    match f.walk [] (parts path) with
    | .ok bytes => if endsInFolder path then .error .notAFolder else .ok bytes
    | .error e => .error e

/-- The file of a path, as it was asked for. -/
def source (f : Folder) (path : String) : SourceFile := ⟨path, f.read path⟩

/-- Make folders from a folder on, those on the way included. -/
def makeFrom (f : Folder) (here : List String) : List String → Except FileFault Unit
  | [] => if (f.file? here).isSome then .error .alreadyThere else .ok ()
  | part :: rest =>
    if (f.file? here).isSome then .error .notAFolder
    else f.makeFrom (if part = ".." then here.dropLast else here ++ [part]) rest

/-- Make the folder of a path, where nothing but a file can stand in the way. -/
def make (f : Folder) (path : String) : Except FileFault Unit :=
  if (parts path).any fun s => 255 < s.utf8ByteSize then .error .nameTooLong
  else f.makeFrom [] (parts path)

end Folder

end SunSpec

import Turtle.Diagnostic
import Turtle.Text.Host

namespace Turtle

inductive Entry where
  | file (bytes : List UInt8)
  | directory

/-- Paths and the names in them are bytes. -/
abbrev Bytes : Type :=
  List UInt8

/-- The entries stand under their names from the root down, which itself is a directory with no
names. Relative paths start from the working directory. A device with little room takes only so
many bytes of a file. -/
structure FileSystem where
  workingDirectory : List Bytes
  entries : List (List Bytes × Entry)
  room : Option Nat := none

inductive FileFault where
  | notFound
  | notDirectory
  | isDirectory
  | nameTooLong
  | nullByte
  | noSpace

/-- A file error names the path that was looked up. -/
structure FileError where
  fault : FileFault
  path : HostText

/-- Only an error of the look-up tells its path. -/
def FileError.message (error : FileError) : String :=
  let numbered := fun (number : Nat) (reason : String) =>
    s!"[Errno {number}] {reason}: {error.path.quoted}"
  match error.fault with
  | .notFound => numbered 2 "No such file or directory"
  | .notDirectory => numbered 20 "Not a directory"
  | .isDirectory => numbered 21 "Is a directory"
  | .nameTooLong => numbered 36 "File name too long"
  | .nullByte => "embedded null byte"
  | .noSpace => "[Errno 28] No space left on device"

namespace FileSystem

def entry? (files : FileSystem) (names : List Bytes) : Option Entry :=
  if names.isEmpty then some .directory else files.entries.lookup names

def slash : UInt8 := 0x2F

/-- A single dot names the directory itself. -/
def dot : Bytes := [0x2E]

/-- One name leads to an entry of the directory, to the directory itself or to the one above it. -/
def descend (here : List Bytes) (name : Bytes) : List Bytes :=
  if name == dot then here
  else if name == dot ++ dot then here.dropLast
  else here ++ [name]

/-- The names of a path are walked one by one, and all but the last must be directories. -/
def locate (files : FileSystem) (here : List Bytes) : List Bytes → Except FileFault (List Bytes)
  | [] => .ok here
  | name :: rest =>
      if 255 < name.length then .error .nameTooLong
      else
        let path := descend here name
        if rest.isEmpty then .ok path
        else match files.entry? path with
          | some .directory => locate files path rest
          | some (.file _) => .error .notDirectory
          | none => .error .notFound

def names (path : Bytes) : List Bytes :=
  (Text.splitWhen (· == slash) path).filter fun name => !name.isEmpty

/-- A name that is no UTF-8 has no text. -/
def nameText (name : Bytes) : String :=
  match Text.Utf8.decode name with
  | .ok chars => String.ofList chars
  | .error _ => ""

/-- An absolute path starts from the root. -/
def start (files : FileSystem) (path : Bytes) : List Bytes :=
  if path.head? == some slash then [] else files.workingDirectory

def endsInSlash (path : Bytes) : Bool :=
  path.getLast? == some slash

/-- A longer path is refused before any of its names is looked up. -/
def maxPathBytes : Nat := 4095

/-- The bytes of a path are checked before any of its names. -/
def checkPath (path : Bytes) : Except FileFault Unit :=
  if path.contains 0 then .error .nullByte
  else if maxPathBytes < path.length then .error .nameTooLong
  else if path.isEmpty then .error .notFound
  else .ok ()

def resolve (files : FileSystem) (path : Bytes) : Except FileFault (List Bytes) := do
  checkPath path
  files.locate (files.start path) (names path)

/-- A path that ends in a slash is no place for a file, whatever its last name, but the way to that
name is walked first. -/
def resolveNew (files : FileSystem) (path : Bytes) : Except FileFault (List Bytes) := do
  checkPath path
  if endsInSlash path then
    let _ ← files.locate (files.start path) ((names path).dropLast ++ [dot])
    throw .isDirectory
  files.locate (files.start path) (names path)

def readBytes (files : FileSystem) (path : Bytes) : Except FileFault Bytes := do
  match files.entry? (← files.resolve path) with
  | some .directory => .error .isDirectory
  | some (.file bytes) => if endsInSlash path then .error .notDirectory else .ok bytes
  | none => .error .notFound

def put (names : List Bytes) (entry : Entry) : List (List Bytes × Entry) →
    List (List Bytes × Entry)
  | [] => [(names, entry)]
  | (present, old) :: rest =>
      if present == names then (names, entry) :: rest
      else (present, old) :: put names entry rest

def store (files : FileSystem) (names : List Bytes) (bytes : Bytes) : FileSystem :=
  { files with entries := put names (.file bytes) files.entries }

/-- A file is opened for writing where no directory is, and its directory must be there. -/
def openNew (files : FileSystem) (path : Bytes) : Except FileFault (List Bytes) := do
  let place ← files.resolveNew path
  match files.entry? place with
  | some .directory => .error .isDirectory
  | _ => .ok place

/-- The bytes of a file are written as far as there is room, and the rest of them is lost. -/
def fill (files : FileSystem) (place : List Bytes) (bytes : Bytes) :
    Except FileFault Unit × FileSystem :=
  match files.room with
  | none => (.ok (), files.store place bytes)
  | some room =>
      if bytes.length ≤ room then (.ok (), files.store place bytes)
      else (.error .noSpace, files.store place (bytes.take room))

/-- Of the slashes in front of a path one is kept, or two when there are exactly two. -/
def rootText (path : String) : String :=
  let slashes := (path.toList.takeWhile (· == '/')).length
  if slashes == 0 then "" else if slashes == 2 then "//" else "/"

/-- The tidy form of a path leaves out empty names and single dots. -/
def tidy (path : String) : String :=
  let names := (Text.splitWhen (· == '/') path.toList).filter fun name => !name.isEmpty
  let kept := (names.map String.ofList).filter (· != ".")
  let text := rootText path ++ String.intercalate "/" kept
  if text.isEmpty then "." else text

/-- A path is looked up in its tidy form. One whose way is blocked does not exist, and only an
overlong one is an error. -/
def exists? (files : FileSystem) (path : String) : Except FileError Bool :=
  match files.resolve (Text.Utf8.encode (tidy path)) with
  | .ok names => .ok (files.entry? names).isSome
  | .error .nameTooLong => .error ⟨.nameTooLong, .ofString (tidy path)⟩
  | .error _ => .ok false

end FileSystem

/-- A source file cannot be read for a reason that a diagnostic tells, or for any other. -/
inductive SourceFileError where
  | diagnosed (diagnostic : Diagnostic)
  | file (error : FileError)

/-- A source file is UTF-8 text, and its line ends are line feeds. -/
def FileSystem.readSource (files : FileSystem) (path : String) :
    Except SourceFileError (List Char) :=
  match files.readBytes (Text.Utf8.encode path) with
  | .error .notFound => .error (.diagnosed (.unlocated ("File not found: " ++ path)))
  | .error fault => .error (.file ⟨fault, .ofString path⟩)
  | .ok bytes =>
      match Text.Utf8.decode bytes with
      | .ok chars => .ok (Text.normalizeLineEnds chars)
      | .error error =>
          .error (.diagnosed (.unlocated s!"Cannot decode file {path}: {error.message}"))

end Turtle

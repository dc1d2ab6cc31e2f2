import GameRunner.Dict
import GameRunner.Text.Quoted

/-!
# Files

Files by their paths, as far as a program sees them: it can read a file as a whole and write one. A
directory is there if there is a file in it; the current directory, those around it and the root
always are. A path is followed name by name, and each name but the last has to lead to a directory.
-/

namespace GameRunner

/-- Why a file could not be read or written. -/
inductive FileError
  | notFound
  | permissionDenied
  | notDirectory
  | isDirectory
  | nameTooLong
  | nameWithNull
  | notText
  deriving Repr, DecidableEq

namespace FileError

/-- The number of an error of the operating system. -/
def code? : FileError → Option Nat
  | notFound => some 2
  | permissionDenied => some 13
  | notDirectory => some 20
  | isDirectory => some 21
  | nameTooLong => some 36
  | nameWithNull => none
  | notText => none

/-- The kind of an error. -/
def kind : FileError → String
  | notFound => "NotFound"
  | permissionDenied => "PermissionDenied"
  | notDirectory => "NotADirectory"
  | isDirectory => "IsADirectory"
  | nameTooLong => "InvalidFilename"
  | nameWithNull => "InvalidInput"
  | notText => "InvalidData"

/-- The wording of the cause of an error. -/
def cause : FileError → String
  | notFound => "No such file or directory"
  | permissionDenied => "Permission denied"
  | notDirectory => "Not a directory"
  | isDirectory => "Is a directory"
  | nameTooLong => "File name too long"
  | nameWithNull => "file name contained an unexpected NUL byte"
  | notText => "stream did not contain valid UTF-8"

/-- The wording of an error. -/
def message (e : FileError) : String :=
  match e.code? with
  | some code => s!"{e.cause} (os error {code})"
  | none => e.cause

/-- The full account of an error. -/
def account (e : FileError) : String :=
  let facts := s!"kind: {e.kind}, message: " ++ Text.quoted e.cause ++ " \x7d"
  match e.code? with
  | some code => s!"Os \x7b code: {code}, " ++ facts
  | none => "Error \x7b " ++ facts

end FileError

/-- Files by the names on the way to them. -/
structure Files where
  entries : Dict (List String) ByteArray := .empty

namespace Files

/-- A name has at most this many bytes. -/
def nameLimit : Nat := 255

/-- A path has fewer bytes than this. -/
def pathLimit : Nat := 4096

/-- The names in a path. Slashes that follow one another count as one. -/
def names (path : String) : List String := (path.splitOn "/").filter (· ≠ "")

/-- Where a path starts: at the root, which is the name `/`, or in the current directory. -/
def origin (path : String) : List String := if path.startsWith "/" then ["/"] else []

/-- The directory around another one. Those around the current directory are called `..` on the
way, and the root has none but itself. -/
def parent (dir : List String) : List String :=
  match dir.getLast? with
  | none => [".."]
  | some last =>
    if last = ".." then dir ++ [".."] else if last = "/" then dir else dir.dropLast

/-- Where a name leads from a directory. -/
def follow (dir : List String) (name : String) : List String :=
  if name = "." then dir else if name = ".." then parent dir else dir ++ [name]

/-- Whether there is a directory at the end of a way. -/
def isDirectory (f : Files) (way : List String) : Bool :=
  way.all (· = "..") || way = ["/"] ||
    f.entries.keys.any fun key => way.isPrefixOf key && way.length < key.length

/-- Follows a name that has to lead to a directory. -/
def enter (f : Files) (dir : List String) (name : String) : Except FileError (List String) :=
  let way := follow dir name
  if nameLimit < name.utf8ByteSize then .error .nameTooLong
  else if f.isDirectory way then .ok way
  else .error (if f.entries.contains way then .notDirectory else .notFound)

/-- Follows a path as a whole to what is no directory, whether there is a file or not. -/
def locate (f : Files) (path : String) : Except FileError (List String) :=
  if path.contains '\x00' then .error .nameWithNull
  else if path = "" then .error .notFound
  else if pathLimit ≤ path.utf8ByteSize then .error .nameTooLong
  else do
    let dir ← (names path).dropLast.foldlM f.enter (origin path)
    let name := (names path).getLast?.getD "."
    if nameLimit < name.utf8ByteSize then .error .nameTooLong
    else if f.isDirectory (follow dir name) then .error .isDirectory
    else return follow dir name

/-- Reads a file. -/
def read (f : Files) (path : String) : Except FileError ByteArray := do
  match f.entries.get? (← f.locate path) with
  | none => .error .notFound
  | some bytes => if path.endsWith "/" then .error .notDirectory else .ok bytes

/-- Writes a file. Its directory has to be there. -/
def write (f : Files) (path : String) (bytes : ByteArray) : Except FileError Files := do
  let way ← f.locate path
  if path.endsWith "/" then .error .isDirectory else .ok ⟨f.entries.insert way bytes⟩

/-- Puts a file in place, together with the directories on the way. -/
def put (f : Files) (path : String) (bytes : ByteArray) : Files :=
  ⟨f.entries.insert ((names path).foldl follow (origin path)) bytes⟩

end Files

end GameRunner

import Cupping.Text.Utf8

/-!
Reading text files by path. A tree of files held in memory answers like a file system whose
current directory is the root of the tree and which has nothing outside of it.
-/

namespace Cupping

/-- Why a file could not be read. -/
inductive ReadFault where
  | absent
  | notDirectory
  | directory
  | nameTooLong
  | badName
  | notText
  | other (reason : String)
deriving DecidableEq, Repr

def ReadFault.message : ReadFault → String
  | absent => "No such file or directory (os error 2)"
  | notDirectory => "Not a directory (os error 20)"
  | directory => "Is a directory (os error 21)"
  | nameTooLong => "File name too long (os error 36)"
  | badName => "file name contained an unexpected NUL byte"
  | notText => "stream did not contain valid UTF-8"
  | other reason => reason

abbrev TextSource := String → Except ReadFault String

/-- The texts of the files that have been read; there are no others. -/
def TextSource.ofReadings (readings : List (String × Except ReadFault String)) : TextSource :=
  fun path => (readings.lookup path).getD (.error .absent)

/-- A path to a file in a directory; an absolute path stays as it is. -/
def joinPath (directory file : String) : String :=
  if file.startsWith "/" then file
  else if directory.isEmpty || directory.endsWith "/" then directory ++ file
  else directory ++ "/" ++ file

/-- Files with their contents, each under the names of the directories it is in and its own. -/
structure FileTree where
  files : List (List String × List UInt8)

namespace FileTree

/-- What a path leads to. -/
inductive Entry where
  | directory
  | file (content : List UInt8)

/-- Looks up the names that lead from the root to a file or directory. -/
def entry? (tree : FileTree) (names : List String) : Option Entry :=
  match tree.files.lookup names with
  | some content => some (.file content)
  | none =>
    if names.isEmpty || tree.files.any fun file => names.isPrefixOf file.1 then some .directory
    else none

def walk (tree : FileTree) : List String → List String → Except ReadFault Entry
  | _, [] => .ok .directory
  | here, part :: rest =>
    if part.isEmpty || part = "." then walk tree here rest
    else if part = ".." then
      if here.isEmpty then .error .absent else walk tree here.dropLast rest
    else if 255 < part.utf8ByteSize then .error .nameTooLong
    else
      let there := here ++ [part]
      match tree.entry? there, rest with
      | none, _ => .error .absent
      | some .directory, _ => walk tree there rest
      | some (.file content), [] => .ok (.file content)
      | some (.file _), _ => .error .notDirectory

def locate (tree : FileTree) (path : String) : Except ReadFault Entry :=
  if path.toList.contains '\x00' then .error .badName
  else if path.isEmpty || path.startsWith "/" then .error .absent
  else if 4095 < path.utf8ByteSize then .error .nameTooLong
  else tree.walk [] (path.splitOn "/")

def read (tree : FileTree) : TextSource := fun path =>
  match tree.locate path with
  | .error fault => .error fault
  | .ok .directory => .error .directory
  | .ok (.file content) =>
    match Text.Utf8.strict? content with
    | some text => .ok text
    | none => .error .notText

end FileTree
end Cupping

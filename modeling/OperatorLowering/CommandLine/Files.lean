/-!
Files by path. A path is followed part by part through directories; empty parts and dots stay where
they are, two dots go up.
-/

namespace OperatorLowering.CommandLine

inductive FileError where
  | notFound
  /-- A path leads through a file, or ends in a slash after one. -/
  | notDirectory
  | isDirectory
  | nameTooLong
  | invalidText
  | other (reason : String)
  deriving Repr, DecidableEq, Inhabited

namespace FileError

def message : FileError → String
  | notFound => "No such file or directory (os error 2)"
  | notDirectory => "Not a directory (os error 20)"
  | isDirectory => "Is a directory (os error 21)"
  | nameTooLong => "File name too long (os error 36)"
  | invalidText => "stream did not contain valid UTF-8"
  | other reason => reason

end FileError

abbrev Files := String → Except FileError String

inductive FileTree where
  | file (content : String)
  | directory (entries : List (String × FileTree))
  deriving Repr, Inhabited

abbrev Directory := List (String × FileTree)

namespace Directory

def maxName : Nat := 255

def maxPath : Nat := 4095

/--
Follows the parts of a path from the directory `here`; `above` are the directories around it, the
innermost first. The outermost directory lies in itself.
-/
def follow (above : List Directory) (here : Directory)
    : List String → Except FileError FileTree
  | [] => .ok (.directory here)
  | part :: parts =>
    if part == "" || part == "." then follow above here parts
    else if part == ".." then
      match above with
      | [] => follow [] here parts
      | parent :: above => follow above parent parts
    else if maxName < part.utf8ByteSize then .error .nameTooLong
    else
      match here.lookup part with
      | none => .error .notFound
      | some (.directory entries) => follow (here :: above) entries parts
      | some (.file content) => if parts.isEmpty then .ok (.file content) else .error .notDirectory

def read (above : List Directory) (here : Directory) : Files := fun path =>
  let target :=
    if path.isEmpty then .error .notFound
    else if maxPath < path.utf8ByteSize then .error .nameTooLong
    else if path.startsWith "/" then follow [] (above.getLastD here) (path.splitOn "/")
    else follow above here (path.splitOn "/")
  match target with
  | .ok (.file content) => .ok content
  | .ok (.directory _) => .error .isDirectory
  | .error e => .error e

def insert (content : String) : List String → Directory → Directory
  | [], here => here
  | [name], here => (name, .file content) :: here
  | name :: parts, here =>
    match here.lookup name with
    | some (.directory entries) => (name, .directory (insert content parts entries)) :: here
    | _ => (name, .directory (insert content parts [])) :: here

/-- What every outermost directory holds: the null device, which is empty, and temporary files. -/
def outermost : Directory :=
  [("dev", .directory [("null", .file "")]), ("tmp", .directory [])]

end Directory

namespace Files

/--
The files of a working directory that is alone in its parent. Their names may lead through
directories.
-/
def ofList (files : List (String × String)) : Files :=
  let add (here : Directory) : String × String → Directory := fun (name, content) =>
    Directory.insert content ((name.splitOn "/").filter fun part => part != "" && part != ".") here
  Directory.read [[], Directory.outermost] (files.foldl add [])

end Files

end OperatorLowering.CommandLine

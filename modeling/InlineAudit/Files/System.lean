import InlineAudit.Files.Node
import InlineAudit.Path

/-!
A file system: a directory tree under the root and a working directory. Paths are resolved
component by component, as far as the directories on the way permit it; symbolic links on the way
are followed, the last one only on request.
-/

namespace InlineAudit.Files

open Text

/-- Why a path leads nowhere, or not to what was asked for. -/
inductive Fault where
  | noEntry
  | notDirectory
  | isDirectory
  | tooManyLinks
  | nameTooLong
  | invalidArgument
  | permission
  deriving DecidableEq, Repr

def Fault.text : Fault → String
  | .noEntry => "no such file or directory"
  | .notDirectory => "not a directory"
  | .isDirectory => "is a directory"
  | .tooManyLinks => "too many levels of symbolic links"
  | .nameTooLong => "file name too long"
  | .invalidArgument => "invalid argument"
  | .permission => "permission denied"

/-- A failed operation on a path. -/
structure PathError where
  operation : String
  path : String
  fault : Fault
  deriving DecidableEq, Repr

def PathError.message (e : PathError) : String :=
  e.operation ++ " " ++ e.path ++ ": " ++ e.fault.text

structure System where
  /-- What stands in the root directory. -/
  top : List Node
  /-- The working directory, as an absolute path. -/
  cwd : String

/-- Follows the components of a path. The stack holds the entries of the directories from the
current one up to the root, with what they permit; `links` bounds the links that may still be
followed. -/
def locate (top : List Node) (follow : Bool) (links : Nat) (stack : List (List Node × Access)) :
    (path : List String) → Except Fault Node
  | [] =>
    let (entries, access) := stack.headD (top, {})
    .ok (.dir "" entries access)
  | part :: rest =>
    if part = "" || part = "." then locate top follow links stack rest
    else if part = ".." then locate top follow links stack.tail rest
    else if part.utf8ByteSize > 255 then .error .nameTooLong
    else
      match lookupEntry part (stack.headD (top, {})).1 with
      | none => .error .noEntry
      | some (.file name content access) =>
        if rest.isEmpty then .ok (.file name content access) else .error .notDirectory
      | some (.dir name entries access) =>
        if rest.isEmpty then .ok (.dir name entries access)
        else if access.search then locate top follow links ((entries, access) :: stack) rest
        else .error .permission
      | some (.link name target) =>
        if rest.isEmpty && !follow then .ok (.link name target)
        else
          match links with
          | 0 => .error .tooManyLinks
          | left + 1 =>
            locate top follow left (if Path.isAbsolute target then [] else stack)
              (Path.components target ++ rest)
  termination_by path => (links, path.length)

/-- The most links that one path may lead through. -/
def maxLinks : Nat := 40

def System.find (system : System) (follow : Bool) (path : String) : Except Fault Node :=
  if path = "" then .error .noEntry
  else if path.toList.contains '\x00' then .error .invalidArgument
  else
    let full := if Path.isAbsolute path then path else system.cwd ++ "/" ++ path
    locate system.top follow maxLinks [] (Path.components full)

/-- The node at a path, links followed. -/
def System.stat (system : System) (path : String) : Except PathError Node :=
  (system.find true path).mapError (⟨"stat", path, ·⟩)

/-- The node at a path; a link in the last place is itself the answer. -/
def System.lstat (system : System) (path : String) : Except PathError Node :=
  (system.find false path).mapError (⟨"lstat", path, ·⟩)

/-- The content of the file at a path. -/
def System.read (system : System) (path : String) : Except PathError Bytes :=
  match system.find true path with
  | .error fault => .error ⟨"open", path, fault⟩
  | .ok (.file _ content access) =>
    if access.read then .ok content else .error ⟨"open", path, .permission⟩
  | .ok (.dir _ _ access) =>
    .error (if access.read then ⟨"read", path, .isDirectory⟩ else ⟨"open", path, .permission⟩)
  | .ok (.link _ _) => .error ⟨"open", path, .tooManyLinks⟩

end InlineAudit.Files

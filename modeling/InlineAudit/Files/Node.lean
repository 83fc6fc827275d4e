import InlineAudit.Text.Symbol

/-!
Directory trees: files with their content, symbolic links with their target, and directories with
their entries. Every node knows its own name and what it lets be done with it; the entries of a
directory have distinct names.
-/

namespace InlineAudit.Files

open Text

/-- What a file or a directory permits. -/
structure Access where
  /-- The content of a file may be read, or the entries of a directory be listed. -/
  read : Bool := true
  /-- What stands in a directory may be looked at. -/
  search : Bool := true
  deriving DecidableEq, Repr, Inhabited

inductive Node where
  | file (name : String) (content : Bytes) (access : Access := {})
  | link (name target : String)
  | dir (name : String) (entries : List Node) (access : Access := {})
  deriving Inhabited

namespace Node

def name : Node → String
  | file name _ _ => name
  | link name _ => name
  | dir name _ _ => name

def isDir : Node → Bool
  | dir _ _ _ => true
  | _ => false

end Node

def lookupEntry (name : String) (entries : List Node) : Option Node := entries.find? (·.name = name)

/-- Puts a node among entries, in place of the one with the same name. -/
def putEntry (node : Node) (entries : List Node) : List Node :=
  entries.filter (·.name ≠ node.name) ++ [node]

/-- The entries of the directory called `name`, or none if there is no such directory. -/
def subentries (name : String) (entries : List Node) : List Node :=
  match lookupEntry name entries with
  | some (.dir _ inner _) => inner
  | _ => []

/-- Puts what `make` gives for the last component of a path, with the entry that is there now,
below the directories named by the other components, which are made as needed. -/
def place (make : String → Option Node → Node) : (path : List String) → List Node → List Node
  | [], entries => entries
  | [name], entries => putEntry (make name (lookupEntry name entries)) entries
  | name :: path, entries =>
    putEntry (.dir name (place make path (subentries name entries))) entries

def placeFile (path : List String) (content : Bytes) (entries : List Node) : List Node :=
  place (fun name _ => .file name content) path entries

def placeLink (path : List String) (target : String) (entries : List Node) : List Node :=
  place (fun name _ => .link name target) path entries

/-- Makes a directory; one that is there keeps its entries. -/
def placeDir (path : List String) (entries : List Node) : List Node :=
  place (fun name present =>
    match present with
    | some (.dir _ inner access) => .dir name inner access
    | _ => .dir name []) path entries

end InlineAudit.Files

import InlineAudit.Files.System
import InlineAudit.Ignore.Line
import InlineAudit.Language
import InlineAudit.SourceFile

/-!
The choice of source files in a directory tree. The walk goes depth first through the entries of
each directory in the order of their names; it leaves out names that never hold sources, ignored
paths and everything below either. Links are not followed. The walk fails at the first directory
that it may not list, or of which it may not look at an entry.
-/

namespace InlineAudit

open Files

/-- Names that never hold sources, for directories and files alike. -/
def skippedNames : List String :=
  [".git", "node_modules", "vendor", "Pods", "build", "DerivedData", ".idea", ".vscode",
   "__pycache__", ".DS_Store", "venv", ".venv", ".pytest_cache", ".mypy_cache", ".ruff_cache",
   ".tox", "dist", ".next", ".nuxt", "target", ".gradle", "bin", "obj", ".scannerwork"]

/-- The ignore patterns in force for a tree, if there are any lines at all: those of its ignore
file, if that can be read, and then the extra lines. -/
def ignorePatterns? (system : System) (root : String) (extra : List Text.Raw) :
    Option (List Ignore.Pattern) :=
  match system.read (Path.joinTo root ".gitignore") with
  | .ok content => some (Ignore.patternsOfBytes content ++ Ignore.patternsOfLines extra)
  | .error _ => if extra.isEmpty then none else some (Ignore.patternsOfLines extra)

/-- Whether a relative path is ignored. Without patterns nothing is. -/
def isIgnored (patterns : Option (List Ignore.Pattern)) (path : String) : Bool :=
  (patterns.map (Ignore.ignores · path)).getD false

/-- A regular file as a source file, if its name tells an audited language. -/
def sourceFile? (relative name : String) (content : Text.Bytes) : Option SourceFile :=
  (Language.ofPath? name).map fun language =>
    { path := relative, size := content.length, ext := Path.extension name, language := language }

/-- What the entries give, put in the order of the entries' names. The first failure in this order
is that of the whole. -/
def inNameOrder {α : Type} (lists : List (String × Except PathError (List α))) :
    Except PathError (List α) :=
  ((lists.mergeSort fun a b => a.1 ≤ b.1).mapM Prod.snd).map List.flatten

mutual

/-- The source files at or below a node that stands at a relative path below a root. A directory is
listed before anything else is asked about it, also one that is left out. -/
def sourcesAt (ignored : String → Bool) (root relative : String) :
    Node → Except PathError (List SourceFile)
  | .file name content _ =>
    if skippedNames.contains name || ignored relative then .ok []
    else .ok (sourceFile? relative name content).toList
  | .link _ _ => .ok []
  | .dir name entries access =>
    if !access.read then .error ⟨"open", Path.joinTo root relative, .permission⟩
    else if skippedNames.contains name || ignored relative then .ok []
    else inNameOrder (sourcesIn ignored root access (relative ++ "/") entries)

/-- What each entry of a directory gives, with the entry's name. -/
def sourcesIn (ignored : String → Bool) (root : String) (access : Access) (above : String) :
    List Node → List (String × Except PathError (List SourceFile))
  | [] => []
  | node :: rest =>
    let relative := above ++ node.name
    (node.name,
      if access.search then sourcesAt ignored root relative node
      else .error ⟨"lstat", Path.joinTo root relative, .permission⟩)
      :: sourcesIn ignored root access above rest

end

/-- The source files of a tree with its root at a path. The root is tested for nothing if it is a
directory; one that is a file has the relative path `.` and is tested for its name only. -/
def sourcesOf (ignored : String → Bool) (root : String) : Node → Except PathError (List SourceFile)
  | .file _ content _ =>
    let name := Path.base root
    if skippedNames.contains name then .ok [] else .ok (sourceFile? "." name content).toList
  | .link _ _ => .ok []
  | .dir _ entries access =>
    if !access.read then .error ⟨"open", root, .permission⟩
    else inNameOrder (sourcesIn ignored root access "" entries)

/-- The source files below a path. -/
def sourceFiles (system : System) (patterns : Option (List Ignore.Pattern)) (root : String) :
    Except PathError (List SourceFile) :=
  match system.lstat root with
  | .error cause => .error cause
  | .ok node => sourcesOf (isIgnored patterns) root node

end InlineAudit

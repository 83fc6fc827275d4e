import InlineAudit.Text.Lines

/-!
Slash-separated paths as text: cleaning, joining, the last component and its extension. None of
this looks at a file system.
-/

namespace InlineAudit.Path

open Text

def components (path : String) : List String := splitString '/' path

def isAbsolute (path : String) : Bool := path.startsWith "/"

/-- Resolves `.` and `..` by name only. The argument `done` holds the components so far, last
first; above the root of an absolute path there is nothing. -/
def cleanFrom (absolute : Bool) (done : List String) : List String → List String
  | [] => done.reverse
  | part :: rest =>
    if part = "" || part = "." then cleanFrom absolute done rest
    else if part = ".." then
      match done with
      | [] => cleanFrom absolute (if absolute then [] else [".."]) rest
      | last :: more =>
        if last = ".." then cleanFrom absolute (".." :: done) rest
        else cleanFrom absolute more rest
    else cleanFrom absolute (part :: done) rest

/-- The shortest path with the same meaning, by name only. -/
def clean (path : String) : String :=
  let parts := cleanFrom (isAbsolute path) [] (components path)
  if isAbsolute path then "/" ++ join "/" parts
  else if parts.isEmpty then "."
  else join "/" parts

/-- Two paths behind each other. An empty part contributes nothing. -/
def joinTo (base rest : String) : String :=
  if base = "" then (if rest = "" then "" else clean rest)
  else if rest = "" then clean base
  else clean (base ++ "/" ++ rest)

/-- A path seen from the directory `cwd`. -/
def absolute (cwd path : String) : String := if isAbsolute path then clean path else joinTo cwd path

/-- The last component; trailing slashes do not count. -/
def base (path : String) : String :=
  if path = "" then "."
  else
    match ((components path).filter (· ≠ "")).getLast? with
    | some last => last
    | none => "/"

/-- The part of a component from its last dot on, read from the end. -/
def extensionOf (component : List Char) : List Char :=
  match cutAt? '.' component.reverse with
  | some (tail, _) => '.' :: tail.reverse
  | none => []

/-- The extension of a path: the last component from its last dot on, or nothing. -/
def extension (path : String) : String :=
  match (splitAt '/' path.toList).getLast? with
  | some last => String.ofList (extensionOf last)
  | none => ""

end InlineAudit.Path

/-!
Source files chosen for auditing, and the choice among them by language.
-/

namespace InlineAudit

/-- A file chosen for auditing. The last three fields tell how it differs from a git reference. -/
structure SourceFile where
  path : String
  size : Int
  ext : String
  language : String
  isNew : Bool := false
  added : Int := 0
  removed : Int := 0
  deriving DecidableEq, Repr, Inhabited

/-- The files in one of the given languages; no language at all stands for every language. -/
def keepLanguages (languages : List String) (files : List SourceFile) : List SourceFile :=
  if languages.isEmpty then files else files.filter (languages.contains ·.language)

end InlineAudit

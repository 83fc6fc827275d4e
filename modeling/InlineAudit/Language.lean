import InlineAudit.Path
import InlineAudit.Text.Lower

/-!
The languages that are audited, and how a path tells its language: by its extension, whatever
the case.
-/

namespace InlineAudit.Language

open Text

/-- The keys of the audited languages. -/
def supported : List String :=
  ["java", "cs", "py", "js", "ts", "kotlin", "go", "php",
   "ruby", "scala", "vbnet", "xml", "css", "web", "c", "cpp"]

def isSupported (language : String) : Bool := supported.contains language

/-- Extensions in lower case, with the language each stands for. -/
def extensions : List (String × String) :=
  [(".java", "java"), (".cs", "cs"), (".py", "py"),
   (".js", "js"), (".jsx", "js"), (".mjs", "js"), (".cjs", "js"),
   (".ts", "ts"), (".tsx", "ts"), (".kt", "kotlin"), (".kts", "kotlin"),
   (".go", "go"), (".php", "php"), (".rb", "ruby"), (".scala", "scala"), (".sc", "scala"),
   (".vb", "vbnet"), (".xml", "xml"), (".css", "css"), (".scss", "css"), (".less", "css"),
   (".html", "web"), (".htm", "web"), (".xhtml", "web"), (".cshtml", "web"),
   (".vbhtml", "web"), (".jsp", "web"), (".c", "c"), (".h", "c"),
   (".cpp", "cpp"), (".cc", "cpp"), (".cxx", "cpp"), (".hpp", "cpp"), (".hh", "cpp")]

/-- The language of a path, if its extension stands for one. -/
def ofPath? (path : String) : Option String :=
  extensions.lookup (lowerString (Path.extension path))

/-- The names shown to people. -/
def displayNames : List (String × String) :=
  [("java", "Java"), ("cs", "C#"), ("py", "Python"), ("js", "JavaScript"),
   ("ts", "TypeScript"), ("kotlin", "Kotlin"), ("go", "Go"), ("php", "PHP"),
   ("ruby", "Ruby"), ("scala", "Scala"), ("vbnet", "VB.NET"), ("xml", "XML"),
   ("css", "CSS"), ("web", "HTML"), ("c", "C"), ("cpp", "C++")]

/-- The display name of a language, empty for one that is not audited. -/
def display (language : String) : String := (displayNames.lookup language).getD ""

end InlineAudit.Language

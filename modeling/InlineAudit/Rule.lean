import InlineAudit.Language

/-!
The rule that findings are reported under. A repository is bound to one language on the platform,
so each audited language has a repository of its own that holds the same rule.
-/

namespace InlineAudit

namespace Rule

def key : String := "InlineSuppression"

def name : String := "Inline suppression of static analysis findings is not allowed"

def severity : String := "BLOCKER"

def kind : String := "VULNERABILITY"

def effort : String := "30min"

def tags : List String := ["security", "suppression", "audit", "compliance"]

/-- The explanation shown with the rule, as HTML. -/
def description : String :=
  "<p>Inline suppression of static analysis findings is not allowed.</p>\n" ++
  "<p>Directives such as <code>// NOSONAR</code>, <code>@SuppressWarnings(\"java:S106\")</code>,\n" ++
  "<code>@Suppress(\"kotlin:S1234\")</code>, " ++
  "<code>[SuppressMessage(\"SonarAnalyzer\", \"S1234\")]</code> and\n" ++
  "<code>&lt;SuppressMessage(\"SonarAnalyzer\", \"S1234\")&gt;</code> " ++
  "hide issues from the quality gate and from reviewers.</p>\n" ++
  "<h2>How to fix it</h2>\n" ++
  "<p>Remove the directive and fix the underlying issue. " ++
  "If the rule does not apply, raise it with the\n" ++
  "quality profile owners so the exception is recorded centrally " ++
  "instead of in source code.</p>\n" ++
  "<h2>Noncompliant code example</h2>\n" ++
  "<pre>\n" ++
  "@SuppressWarnings(\"all\")\n" ++
  "public class Legacy \x7b\n" ++
  "    int x = 1; // NOSONAR\n" ++
  "\x7d\n" ++
  "</pre>\n" ++
  "<h2>Compliant solution</h2>\n" ++
  "<pre>\n" ++
  "public class Legacy \x7b\n" ++
  "    int x = 1;\n" ++
  "\x7d\n" ++
  "</pre>"

end Rule

/-- The channel through which the issues of one language are reported. -/
structure Repository where
  key : String
  name : String
  language : String
  deriving DecidableEq, Repr

namespace Repository

def keyOf (language : String) : String := "suppression-audit-" ++ language

def nameOf (language : String) : String := "Inline Suppression Audit (" ++ language ++ ")"

def of (language : String) : Repository := ⟨keyOf language, nameOf language, language⟩

/-- One repository for each audited language. -/
def all : List Repository := Language.supported.map of

end Repository

end InlineAudit

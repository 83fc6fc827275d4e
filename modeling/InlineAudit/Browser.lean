import InlineAudit.Report
import InlineAudit.Report.Style

/-!
The browser for findings: a list with a cursor, of which a window is shown, or the details of the
issue under the cursor. It is a state machine driven by keys and changes of the window size.
-/

namespace InlineAudit

open Text

structure Browser where
  report : Report
  cursor : Nat := 0
  /-- Whether details are shown instead of the list. -/
  detail : Bool := false
  /-- The number of rows for the list. -/
  height : Nat := 20
  quitting : Bool := false
  deriving DecidableEq, Repr, Inhabited

namespace Browser

inductive Message where
  | key (name : String)
  /-- A new height of the whole window. -/
  | resize (height : Int)
  deriving DecidableEq, Repr

/-- What a browser asks of the program that runs it. -/
inductive Request where
  | quit
  deriving DecidableEq, Repr

def quitKeys : List String := ["q", "esc", "ctrl+c"]

/-- The rows left for the list in a window whose height is a signed 64-bit number: at least
one. -/
def roomIn (height : Int) : Nat := (max (Int.bmod (height - 4) (1 <<< 64)) 1).toNat

/-- The state after a key that does not quit. -/
def move (browser : Browser) (key : String) : Browser :=
  let count := browser.report.issues.length
  match key with
  | "j" | "down" =>
    if browser.cursor + 1 < count then { browser with cursor := browser.cursor + 1 } else browser
  | "k" | "up" => { browser with cursor := browser.cursor - 1 }
  | "g" | "home" => { browser with cursor := 0 }
  | "G" | "end" => { browser with cursor := count - 1 }
  | "enter" | " " => { browser with detail := !browser.detail }
  | _ => browser

/-- The state after a message, and what the browser then asks for. -/
def update (browser : Browser) : Message → Browser × Option Request
  | .key name =>
    if quitKeys.contains name then ({ browser with quitting := true }, some .quit)
    else (browser.move name, none)
  | .resize height => ({ browser with height := roomIn height }, none)

/-- The first visible row of the list and the one after the last. -/
def window (browser : Browser) : Nat × Nat :=
  let count := browser.report.issues.length
  if count ≤ browser.height then (0, count)
  else
    let start := min (browser.cursor - browser.height / 2) (count - browser.height)
    (start, start + browser.height)

def selectedStyle : Style := { bold := true, colour := some 13 }

def headerStyle : Style := { bold := true }

def hintStyle : Style := { faint := true }

/-- The details of an issue. -/
def details (issue : Issue) : String :=
  "File:       " ++ issue.path ++ "\n"
    ++ "Repository: " ++ issue.repository ++ "\n"
    ++ "Rule:       " ++ issue.repository ++ ":" ++ issue.rule ++ "\n"
    ++ "Category:   " ++ issue.category.name ++ "\n"
    ++ "Directive:  line " ++ toString issue.evidenceLine ++ "\n"
    ++ "Reported:   line " ++ toString issue.line ++ "\n"
    ++ (if issue.rules.isEmpty then "" else "Suppresses: " ++ join ", " issue.rules ++ "\n")
    ++ (if issue.blanket then "Suppresses: everything\n" else "")
    ++ "\n" ++ issue.message ++ "\n"

/-- The row of an issue in the list. -/
def row (finish : Finish) (selected : Bool) (issue : Issue) : String :=
  let line := issue.path ++ ":" ++ toString issue.evidenceLine ++ " [" ++ issue.category.name ++ "]"
  (if selected then selectedStyle.render finish ("> " ++ line) else "  " ++ line) ++ "\n"

/-- The visible rows of the list. -/
def listRows (finish : Finish) (browser : Browser) : List String :=
  let (start, stop) := browser.window
  (browser.report.issues.zipIdx.take stop).drop start |>.map fun (issue, index) =>
    row finish (index = browser.cursor) issue

def body (finish : Finish) (browser : Browser) : String :=
  if browser.report.issues.isEmpty then "No inline suppressions found\n"
  else if browser.detail then ((browser.report.issues[browser.cursor]?).map details).getD ""
  else String.join (browser.listRows finish)

/-- The line above the body: how many findings there are, and in how many files. -/
def heading (finish : Finish) (report : Report) : String :=
  headerStyle.render finish (toString report.issues.length ++ " findings in "
    ++ toString report.filesWithIssues ++ " files")

/-- The line below the body: what the keys do. -/
def hint (finish : Finish) : String :=
  hintStyle.render finish "j/k move • enter details • q quit"

/-- What is shown; nothing once the browser quits. -/
def view (finish : Finish) (browser : Browser) : String :=
  if browser.quitting then ""
  else heading finish browser.report ++ "\n\n" ++ browser.body finish ++ "\n" ++ hint finish

end Browser

end InlineAudit

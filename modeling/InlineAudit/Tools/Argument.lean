import InlineAudit.Json
import InlineAudit.Text.Lines
import InlineAudit.Text.Shortest

/-!
What a tool asks of its arguments, and the check of the arguments of a call. A call gives its
arguments by name; names that the tool does not know are refused.
-/

namespace InlineAudit.Tools

open Text Json

/-- The kinds of JSON values; all numbers here are whole. -/
inductive Kind where
  | null
  | boolean
  | integer
  | string
  | array
  | object
  deriving DecidableEq, Repr

def Kind.name : Kind → String
  | null => "null"
  | boolean => "boolean"
  | integer => "integer"
  | string => "string"
  | array => "array"
  | object => "object"

def Kind.of : Value → Kind
  | .null => null
  | .bool _ => boolean
  | .int _ => integer
  | .str _ => string
  | .arr _ => array
  | .obj _ => object

mutual

/-- A value inside another one, as messages show it: texts without quotes, items with spaces
between them. -/
def shownInside : Value → String
  | .null => "<nil>"
  | .bool b => if b then "true" else "false"
  | .int n => String.ofList (doubleChars n)
  | .str text => text.shown
  | .arr items => "[" ++ join " " (shownItems items) ++ "]"
  | .obj fields =>
    "map[" ++ join " " (((shownFields fields).mergeSort fun a b => a.1 ≤ b.1).map (·.2)) ++ "]"

def shownItems : List Value → List String
  | [] => []
  | item :: rest => shownInside item :: shownItems rest

/-- The fields with their names, each as it is shown. -/
def shownFields : List (String × Value) → List (String × String)
  | [] => []
  | (name, value) :: rest => (name, name ++ ":" ++ shownInside value) :: shownFields rest

end

/-- An argument as messages show it. -/
def shown : Value → String
  | .null => "<invalid reflect.Value>"
  | value => shownInside value

/-- What an argument may be. -/
inductive ArgumentType where
  | text
  /-- Texts, or null for none. -/
  | texts
  deriving DecidableEq, Repr

structure Parameter where
  name : String
  type : ArgumentType := .text
  required : Bool := false
  deriving DecidableEq, Repr

/-- Why the arguments of a call are refused. -/
inductive ArgumentFault where
  /-- The argument at a place is of another kind than those wanted there. -/
  | kind (places : List String) (value : Value) (wanted : List Kind)
  | unexpected (names : List String)
  | missing (names : List String)

/-- Names in quotes, in brackets. -/
def quoteNames (names : List String) : String := "[" ++ join " " (names.map quote) ++ "]"

/-- The kinds that are wanted. -/
def wantedText : List Kind → String
  | [kind] => quote kind.name
  | kinds => "one of " ++ quote (join ", " (kinds.map Kind.name))

def ArgumentFault.message : ArgumentFault → String
  | .kind places value wanted =>
    String.join (places.map fun place => "validating " ++ place ++ ": ")
      ++ "type: " ++ shown value ++ " has type " ++ quote (Kind.of value).name
      ++ ", want " ++ wantedText wanted
  | .unexpected names => "unexpected additional properties " ++ quoteNames names
  | .missing names => "required: missing properties: " ++ quoteNames names

/-- Where messages place a parameter. -/
def Parameter.place (parameter : Parameter) : String := "/properties/" ++ parameter.name

/-- The fault of the value of a parameter, if it has one. -/
def Parameter.fault? (parameter : Parameter) (value : Value) : Option ArgumentFault :=
  let place := parameter.place
  match parameter.type, value with
  | .text, .str _ => none
  | .text, value => some (.kind [place] value [.string])
  | .texts, .null => none
  | .texts, .arr items =>
    (items.find? (Kind.of · ≠ .string)).map fun item =>
      .kind [place, place ++ "/items"] item [.string]
  | .texts, value => some (.kind [place] value [.null, .array])

abbrev Arguments := List (String × Value)

/-- The names that no parameter has, in order. -/
def unexpectedNames (parameters : List Parameter) (arguments : Arguments) : List String :=
  ((arguments.map (·.1)).filter fun name => parameters.all (·.name ≠ name)).mergeSort (· ≤ ·)

/-- The required names that a call does not give. -/
def missingNames (parameters : List Parameter) (arguments : Arguments) : List String :=
  ((parameters.filter (·.required)).map (·.name)).filter fun name => (arguments.lookup name).isNone

/-- Checks the arguments of a call: the kind of each, then the names that are too many, then the
names that are missing. -/
def check (parameters : List Parameter) (arguments : Arguments) : Except ArgumentFault Unit :=
  match parameters.findSome? fun p => (arguments.lookup p.name).bind p.fault? with
  | some fault => .error fault
  | none =>
    match unexpectedNames parameters arguments, missingNames parameters arguments with
    | [], [] => .ok ()
    | [], missing => .error (.missing missing)
    | unexpected, _ => .error (.unexpected unexpected)

/-- The text that an argument gives; the empty text if there is none. -/
def textOf (arguments : Arguments) (name : String) : String :=
  match arguments.lookup name with
  | some (.str text) => text.shown
  | _ => ""

/-- The texts that an argument gives. -/
def textsOf (arguments : Arguments) (name : String) : List String :=
  match arguments.lookup name with
  | some (.arr items) => items.filterMap fun item => match item with
    | .str text => some text.shown
    | _ => none
  | _ => []

end InlineAudit.Tools

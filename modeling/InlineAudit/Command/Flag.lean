import InlineAudit.Command.Record
import InlineAudit.Text.Number
import InlineAudit.Text.Quoted

/-!
Flags on a command line. A flag has a name of its own and perhaps a letter; its value is joined
with an equals sign or is the next word, unless the flag implies one. Letters can be put together
behind one dash. A double dash ends the flags; words that are no flags are the arguments.
-/

namespace InlineAudit.Command

open Text

/-- Why a flag refused its value. -/
inductive ValueFault where
  | integer (text : String) (cause : NumberFault)
  | bool (text : String)
  | list (cause : RecordError)
  deriving DecidableEq, Repr

def ValueFault.message : ValueFault → String
  | .integer text cause =>
    "strconv.ParseInt: parsing " ++ quote text ++ ": "
      ++ (match cause with
          | .malformed => "invalid syntax"
          | .outOfRange => "value out of range")
  | .bool text => "strconv.ParseBool: parsing " ++ quote text ++ ": invalid syntax"
  | .list cause => cause.message

/-- A flag that changes options of type `σ`. -/
structure Flag (σ : Type) where
  name : String
  letter : Option Char := none
  /-- The value of the flag when none is joined to it. A flag without one takes the next word. -/
  implied : Option String := none
  set : σ → String → Except ValueFault σ

/-- How messages name a flag. -/
def Flag.label {σ : Type} (flag : Flag σ) : String :=
  match flag.letter with
  | some c => "-" ++ String.singleton c ++ ", --" ++ flag.name
  | none => "--" ++ flag.name

def trueWords : List String := ["1", "t", "T", "true", "TRUE", "True"]

def falseWords : List String := ["0", "f", "F", "false", "FALSE", "False"]

def readBool (text : String) : Except ValueFault Bool :=
  if trueWords.contains text then .ok true
  else if falseWords.contains text then .ok false
  else .error (.bool text)

namespace Flag

variable {σ : Type}

/-- A flag for a text. -/
def text (name : String) (letter : Option Char) (set : σ → String → σ) : Flag σ :=
  { name := name, letter := letter, set := fun options value => .ok (set options value) }

/-- A flag for a truth value, which is true when none is given. -/
def bool (name : String) (letter : Option Char) (set : σ → Bool → σ) : Flag σ :=
  { name := name
    letter := letter
    implied := some "true"
    set := fun options value => (readBool value).map (set options) }

def integer (name : String) (letter : Option Char) (set : σ → Int → σ) : Flag σ :=
  { name := name
    letter := letter
    set := fun options value =>
      ((readInteger value.toList).mapError (.integer value ·)).map (set options) }

/-- A flag for a list, given as one record; every use adds to the list. -/
def list (name : String) (letter : Option Char) (add : σ → List String → σ) : Flag σ :=
  { name := name
    letter := letter
    set := fun options value => ((readRecord value).mapError .list).map (add options) }

end Flag

/-- What is wrong with the flags of a command line. -/
inductive FlagError where
  | unknown (name : String)
  | unknownLetter (letters : String)
  | missingValue (name : String)
  | missingLetterValue (letters : String)
  | badForm (word : String)
  | badValue (value label : String) (cause : ValueFault)
  deriving DecidableEq, Repr

/-- The first letter of a group as messages show it. Letters are taken byte by byte, and a byte
that is not ASCII is shown as the character of the first byte of its own encoding. -/
def shownLetter (letters : String) : String :=
  match letters.toList.head? with
  | some c => quoteChar (if c.toNat < 0x80 then c else '\u00c3')
  | none => quoteChar '\x00'

def FlagError.message : FlagError → String
  | .unknown name => "unknown flag: --" ++ name
  | .unknownLetter letters =>
    "unknown shorthand flag: " ++ shownLetter letters ++ " in -" ++ letters
  | .missingValue name => "flag needs an argument: --" ++ name
  | .missingLetterValue letters =>
    "flag needs an argument: " ++ shownLetter letters ++ " in -" ++ letters
  | .badForm word => "bad flag syntax: " ++ word
  | .badValue value label cause =>
    "invalid argument " ++ quote value ++ " for " ++ quote label ++ " flag: " ++ cause.message

section

variable {σ : Type}

def findName (flags : List (Flag σ)) (name : String) : Option (Flag σ) :=
  flags.find? (·.name = name)

def findLetter (flags : List (Flag σ)) (c : Char) : Option (Flag σ) :=
  flags.find? (·.letter = some c)

def Flag.apply (flag : Flag σ) (options : σ) (value : String) : Except FlagError σ :=
  (flag.set options value).mapError (.badValue value flag.label ·)

/-- What a flag needs: nothing more, or the next word as its value. -/
inductive Need (σ : Type) where
  | done (options : σ)
  | value (flag : Flag σ) (missing : FlagError)

/-- Reads a flag given by name, behind its dashes. -/
def readLong (flags : List (Flag σ)) (options : σ) (body : List Char) :
    Except FlagError (Need σ) :=
  if body.head? = some '-' || body.head? = some '=' then
    .error (.badForm (String.ofList ('-' :: '-' :: body)))
  else
    let (name, joined) :=
      match cutAt? '=' body with
      | some (name, value) => (String.ofList name, some (String.ofList value))
      | none => (String.ofList body, none)
    match findName flags name with
    | none => .error (.unknown name)
    | some flag =>
      match joined.or flag.implied with
      | some value => (flag.apply options value).map .done
      | none => .ok (.value flag (.missingValue name))

/-- Reads flags given by letters, behind their dash. -/
def readLetters (flags : List (Flag σ)) (options : σ) : List Char → Except FlagError (Need σ)
  | [] => .ok (.done options)
  | c :: rest =>
    match findLetter flags c with
    | none => .error (.unknownLetter (String.ofList (c :: rest)))
    | some flag =>
      match rest, flag.implied with
      | '=' :: d :: more, _ => (flag.apply options (String.ofList (d :: more))).map .done
      | _, some value => do readLetters flags (← flag.apply options value) rest
      | [], none => .ok (.value flag (.missingLetterValue (String.singleton c)))
      | rest, none => (flag.apply options (String.ofList rest)).map .done

/-- Reads one word that starts with a dash and goes on. -/
def readFlag (flags : List (Flag σ)) (options : σ) (word : String) : Except FlagError (Need σ) :=
  match word.toList with
  | '-' :: '-' :: body => readLong flags options body
  | '-' :: letters => readLetters flags options letters
  | _ => .ok (.done options)

/-- Whether a word is an argument and no flag. -/
def isArgument (word : String) : Bool := !word.startsWith "-" || word = "-"

/-- Reads the words of a command line: the options and the arguments. -/
def parse (flags : List (Flag σ)) (options : σ) : List String →
    Except FlagError (σ × List String)
  | [] => .ok (options, [])
  | word :: rest =>
    if isArgument word then do
      let (options, arguments) ← parse flags options rest
      return (options, word :: arguments)
    else if word = "--" then .ok (options, rest)
    else
      match readFlag flags options word with
      | .error e => .error e
      | .ok (.done options) => parse flags options rest
      | .ok (.value flag missing) =>
        match rest with
        | [] => .error missing
        | value :: rest => do parse flags (← flag.apply options value) rest

/-- Whether a word is a flag that takes the next word as its value. An unknown flag counts as
one, if its letter is ASCII. -/
def takesNext (flags : List (Flag σ)) (word : String) : Bool :=
  match word.toList with
  | '-' :: '-' :: body =>
    !body.contains '=' &&
      !((findName flags (String.ofList body)).map (·.implied.isSome)).getD false
  | ['-', c] =>
    c ≠ '=' && c.toNat < 0x80 &&
      !((findLetter flags c).map (·.implied.isSome)).getD false
  | _ => false

/-- The first word that is neither a flag nor the value of one. A flag that takes a value ends the
search unless two words at least follow it. -/
def firstArgument? (flags : List (Flag σ)) : List String → Option String
  | [] => none
  | word :: rest =>
    if word = "--" then none
    else if takesNext flags word then
      match rest with
      | _ :: next :: more => firstArgument? flags (next :: more)
      | _ => none
    else if word ≠ "" && !word.startsWith "-" then some word
    else firstArgument? flags rest

/-- The words without the first one that equals `name` and is no value of a flag. -/
def withoutArgument (flags : List (Flag σ)) (name : String) : List String → List String
  | [] => []
  | word :: rest =>
    if word = "--" then word :: rest
    else if takesNext flags word then
      match rest with
      | [] => [word]
      | value :: rest => word :: value :: withoutArgument flags name rest
    else if word = name then rest
    else word :: withoutArgument flags name rest

end

end InlineAudit.Command

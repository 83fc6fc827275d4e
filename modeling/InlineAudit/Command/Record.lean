import InlineAudit.Text.Lines

/-!
One record of comma-separated fields. A field may stand between double quotes, where a quote is
written twice and line breaks are text. Only the first record of a text is read; empty lines
before it do not count.
-/

namespace InlineAudit.Command

/-- Why a text has no first record. -/
inductive RecordFault where
  | bareQuote
  | badQuote
  deriving DecidableEq, Repr

inductive RecordError where
  /-- The record starts on one line and goes wrong on another one, at a byte of it. -/
  | malformed (startLine line column : Nat) (fault : RecordFault)
  /-- There is nothing but empty lines. -/
  | ended
  deriving DecidableEq, Repr

def RecordFault.message : RecordFault → String
  | .bareQuote => "bare \" in non-quoted-field"
  | .badQuote => "extraneous or missing \" in quoted-field"

def RecordError.message : RecordError → String
  | .malformed startLine line column fault =>
    (if startLine = line then "" else "record on line " ++ toString startLine ++ "; ")
      ++ "parse error on line " ++ toString line ++ ", column " ++ toString column ++ ": "
      ++ fault.message
  | .ended => "EOF"

/-- A text with plain line feeds; a carriage return at its very end is dropped. -/
def plainLines : List Char → List Char
  | [] => []
  | ['\r'] => []
  | '\r' :: '\n' :: rest => '\n' :: plainLines rest
  | c :: rest => c :: plainLines rest

/-- Where reading stands inside a record. -/
inductive FieldMode where
  | start
  | bare
  | quoted
  /-- Behind a quote inside a quoted field. -/
  | closing
  deriving DecidableEq, Repr

/-- What has been read of a record; lists are in reverse. -/
structure RecordState where
  startLine : Nat
  line : Nat
  /-- The byte of the line that comes next, counted from one. -/
  column : Nat
  field : List Char := []
  fields : List String := []
  deriving Repr

namespace RecordState

def push (state : RecordState) (c : Char) : RecordState := { state with field := c :: state.field }

def advance (state : RecordState) (c : Char) : RecordState :=
  { state with column := state.column + c.utf8Size }

/-- Finishes the current field. -/
def close (state : RecordState) : RecordState :=
  { state with field := [], fields := String.ofList state.field.reverse :: state.fields }

def finish (state : RecordState) : List String := state.close.fields.reverse

def fail {α : Type} (state : RecordState) (column : Nat) (fault : RecordFault) :
    Except RecordError α :=
  .error (.malformed state.startLine state.line column fault)

end RecordState

/-- Reads the rest of a record. -/
def recordFrom (mode : FieldMode) (state : RecordState) :
    List Char → Except RecordError (List String)
  | [] =>
    match mode with
    | .quoted => state.fail state.column .badQuote
    | _ => .ok state.finish
  | c :: rest =>
    let next := state.advance c
    match mode with
    | .quoted =>
      if c = '"' then recordFrom .closing next rest
      else if c = '\n' && !rest.isEmpty then
        recordFrom .quoted { state.push c with line := state.line + 1, column := 1 } rest
      else recordFrom .quoted (next.push c) rest
    | .closing =>
      if c = '"' then recordFrom .quoted (next.push c) rest
      else if c = ',' then recordFrom .start next.close rest
      else if c = '\n' then .ok state.finish
      else state.fail (state.column - 1) .badQuote
    | mode =>
      if c = ',' then recordFrom .start next.close rest
      else if c = '\n' then .ok state.finish
      else if c = '"' then
        if mode = .start then recordFrom .quoted next rest
        else state.fail state.column .bareQuote
      else recordFrom .bare (next.push c) rest

/-- The first record of a text, behind the empty lines that come first. -/
def recordAfter (line : Nat) : List Char → Except RecordError (List String)
  | [] => .error .ended
  | '\n' :: rest => recordAfter (line + 1) rest
  | text => recordFrom .start { startLine := line, line := line, column := 1 } text

/-- The fields of the first record of a text; an empty text has none. -/
def readRecord (text : String) : Except RecordError (List String) :=
  if text = "" then .ok [] else recordAfter 1 (plainLines text.toList)

end InlineAudit.Command

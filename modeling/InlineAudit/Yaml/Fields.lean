import InlineAudit.Text.Lines
import InlineAudit.Yaml.Node

/-!
Reading typed values out of a YAML document. A node of the wrong type is noted and reading goes
on, so that all such errors are reported together. Null leaves a value as it is, and a null item
is left out of a list.

A mapping may ask for other mappings to be merged in. Those set only what is not set yet, so the
keys that are set are remembered while they are read. Only scalars can be remembered as keys.

Aliases are read as often as they stand for a node. A document may not follow an alias while the
same alias is being followed, and a large one may not consist of little else than aliases.
-/

namespace InlineAudit.Yaml

open Text

/-- A node that does not fit. -/
inductive TypeError where
  | mismatch (line : Nat) (tag text target : String)
  | duplicateKey (line : Nat) (key : String) (firstLine : Nat)
  | fieldTwice (line : Nat) (field target : String)
  deriving DecidableEq, Repr

/-- The text of a scalar as errors show it: what is longer than ten bytes is cut to seven. -/
def shownText (text : String) : String :=
  let bytes := encodeString text
  if bytes.length > 10 then decodeString (bytes.take 7) ++ "..." else text

def TypeError.message : TypeError → String
  | .mismatch line tag text target =>
    let shown :=
      if tag = sequenceTag || tag = mappingTag then text else " \x60" ++ shownText text ++ "\x60"
    "line " ++ toString line ++ ": cannot unmarshal " ++ tag ++ shown ++ " into " ++ target
  | .duplicateKey line key firstLine =>
    "line " ++ toString line ++ ": mapping key " ++ quote key ++ " already defined at line "
      ++ toString firstLine
  | .fieldTwice line field target =>
    "line " ++ toString line ++ ": field " ++ field ++ " already set in type " ++ target

/-- Why a text gave no value. -/
inductive ReadError where
  /-- The text is no YAML, or contradicts itself. -/
  | malformed
  | types (errors : List TypeError)
  /-- A collection of the given type was to be remembered as a key. -/
  | unhashable (type : String)
  deriving DecidableEq, Repr

def ReadError.message : ReadError → String
  | .malformed => "yaml: <syntax error>"
  | .types errors => "yaml: unmarshal errors:\n  " ++ join "\n  " (errors.map TypeError.message)
  | .unhashable type => "runtime error: hash of unhashable type " ++ type

structure ReadState where
  /-- The errors noted on the way. -/
  errors : List TypeError := []
  /-- How many nodes were read. -/
  nodes : Nat := 0
  /-- How many of them were read for an alias. -/
  aliased : Nat := 0
  /-- The aliases that are being followed. -/
  following : List Nat := []
  /-- The keys that are set already, while a mapping is merged in. -/
  merged : Option (List Value) := none

abbrev Reader := StateT ReadState (Except ReadError)

def note (error : TypeError) : Reader Unit :=
  modify fun s => { s with errors := s.errors ++ [error] }

/-- Whether a number of nodes read for aliases is too large among all nodes read. Up to 400,000
nodes 99 of 100 are allowed, from 4,000,000 on one of 10, and between the two the share falls
steadily. -/
def aliasedTooOften (aliased nodes : Nat) : Bool :=
  100 < aliased && 1000 < nodes &&
    if nodes ≤ 400000 then 99 * nodes < 100 * aliased
    else if 4000000 ≤ nodes then nodes < 10 * aliased
    else nodes * (99 * 3600000 - 89 * (nodes - 400000)) < 100 * 3600000 * aliased

/-- Counts one more node. -/
def count : Reader Unit := do
  let s ← get
  let nodes := s.nodes + 1
  let aliased := if s.following.isEmpty then s.aliased else s.aliased + 1
  if aliasedTooOften aliased nodes then throw .malformed
  else set { s with nodes := nodes, aliased := aliased }

def Document.find? (document : Document) (number : Nat) : Option Node :=
  document.anchored.lookup number

/-- Reads a node by `read`, or for an alias the node that it stands for. -/
def Document.visit {α : Type} (document : Document) (node : Node) (read : Node → Reader α) :
    Reader α := do
  count
  match node with
  | .alias _ _ serial number =>
    let following := (← get).following
    match document.find? number with
    | some target =>
      if following.contains serial then throw .malformed
      else
        modify fun s => { s with following := serial :: following }
        count
        let a ← read target
        modify fun s => { s with following := following }
        return a
    | none => throw .malformed
  | node => read node

/-- What makes two keys the same: their kind and their text. -/
def Node.identity : Node → Nat × String
  | .scalar _ _ text => (0, text)
  | .sequence _ _ _ => (1, "")
  | .mapping _ _ _ => (2, "")
  | .alias _ name _ _ => (3, name)

def Node.line : Node → Nat
  | .scalar line _ _ => line
  | .sequence line _ _ => line
  | .mapping line _ _ => line
  | .alias line _ _ _ => line

/-- Each key of a mapping with every later one that is the same. -/
def repeatedKeys : List (Node × Node) → List TypeError
  | [] => []
  | (key, _) :: rest =>
    (rest.filter (·.1.identity = key.identity)).map (fun (later, _) =>
      .duplicateKey later.line later.identity.2 key.line) ++ repeatedKeys rest

/-- Notes the repeated keys of a mapping; the answer tells whether there are any. -/
def noteRepeated (pairs : List (Node × Node)) : Reader Bool := do
  let errors := repeatedKeys pairs
  modify fun s => { s with errors := s.errors ++ errors }
  return !errors.isEmpty

/-- Notes that a node does not fit. The keys of a mapping are looked at first, and if some are
repeated, only that is noted. -/
def Node.reject (target : String) : Node → Reader Unit
  | .scalar line tag text => note (.mismatch line tag text target)
  | .sequence line tag _ => note (.mismatch line tag "" target)
  | .mapping line tag pairs => do
    if !(← noteRepeated pairs) then note (.mismatch line tag "" target)
  | .alias _ _ _ _ => pure ()

/-- The value of a scalar; a tag that contradicts the text ends the reading. -/
def scalarValue (tag text : String) : Reader Value :=
  match Value.ofTagged? tag text with
  | some value => pure value
  | none => throw .malformed

/-- What a scalar reads as, where `take` makes it of the value and the source text. -/
def readScalar {α : Type} (target : String) (take : Value → String → Option α)
    (document : Document) (node : Node) : Reader (Option α) :=
  document.visit node fun node => do
    match node with
    | .scalar _ tag text =>
      match ← scalarValue tag text with
      | .null => return none
      | value =>
        match take value text with
        | some a => return some a
        | none =>
          node.reject target
          return none
    | node =>
      node.reject target
      return none

/-- A text: every scalar will do, with its source text. -/
def readText : Document → Node → Reader (Option Raw) :=
  readScalar "string" fun value text =>
    match value with
    | .text s => some s
    | _ => some (Raw.ofString text)

def readInt : Document → Node → Reader (Option Int) :=
  readScalar "int" fun value _ => value.toInt?

def readBool : Document → Node → Reader (Option Bool) :=
  readScalar "bool" fun value _ => value.toBool?

/-- A list of texts. -/
def readTexts (document : Document) (node : Node) (default : List Raw) : Reader (List Raw) :=
  document.visit node fun node => do
    match node with
    | .sequence _ _ items => return (← items.mapM (readText document)).filterMap id
    | .scalar _ tag text =>
      match ← scalarValue tag text with
      | .null => return []
      | _ =>
        node.reject "[]string"
        return default
    | node =>
      node.reject "[]string"
      return default

/-- Whether a key asks for another mapping to be merged in. -/
def Node.isMerge : Node → Bool
  | .scalar _ tag text => text = "<<" && tag = mergeTag
  | _ => false

/-- The nodes to be merged into a mapping, if it asks for any: the items of a sequence, or one node
alone. The last request is the one that counts. -/
def mergeSources? (pairs : List (Node × Node)) : Option (List Node) :=
  ((pairs.filter (·.1.isMerge)).getLast?).map fun (_, node) =>
    match node with
    | .sequence _ _ items => items
    | node => [node]

/-- Whether a node is a mapping, or an alias of one. -/
def Document.isMapping (document : Document) : Node → Bool
  | .mapping _ _ _ => true
  | .alias _ _ _ number =>
    match document.find? number with
    | some (.mapping _ _ _) => true
    | _ => false
  | _ => false

/-- The tag of a node, or of the node that an alias stands for. -/
def Document.tagOf (document : Document) : Node → String
  | .scalar _ tag _ => tag
  | .sequence _ tag _ => tag
  | .mapping _ tag _ => tag
  | .alias _ _ _ number =>
    match document.find? number with
    | some (.scalar _ tag _) => tag
    | some (.sequence _ tag _) => tag
    | some (.mapping _ tag _) => tag
    | _ => ""

/-- A value of any type, as far as a key depends on it. -/
inductive AnyValue where
  | scalar (value : Value)
  | collection (type : String)
  deriving DecidableEq, Repr

def sequenceType : String := "[]interface \x7b\x7d"

/-- The type of a mapping, by whether all its keys are texts. -/
def mappingType (texts : Bool) : String :=
  "map[" ++ (if texts then "string" else "interface \x7b\x7d") ++ "]interface \x7b\x7d"

/-- Whether all keys of a mapping are texts. -/
def Document.hasTextKeys (document : Document) (pairs : List (Node × Node)) : Bool :=
  pairs.all fun (key, _) => [textTag, mergeTag].contains (document.tagOf key)

/-- Takes the keys that are set already, and goes on without any. -/
def takeMerged : Reader (Option (List Value)) := do
  let s ← get
  set { s with merged := none }
  return s.merged

def setMerged (merged : Option (List Value)) : Reader Unit :=
  modify fun s => { s with merged := merged }

/-- Remembers a key where keys are remembered. -/
def remember (key : AnyValue) : Reader Unit :=
  match key with
  | .scalar value => modify fun s => { s with merged := s.merged.map (value :: ·) }
  | .collection type => throw (.unhashable type)

/-- Starts to remember keys, unless they are remembered already, with those of a mapping. The
answer tells whether it has to be stopped again. -/
def startMerge (readKey : Node → Reader (Option AnyValue)) (pairs : List (Node × Node)) :
    Reader Bool := do
  if (← get).merged.isSome then return false
  else
    setMerged (some [])
    for (key, _) in pairs do
      match ← readKey key with
      | some known => remember known
      | none => pure ()
    return true

/-- Reads the pairs of a node to be merged, which has to be a mapping, by `read`. -/
def Document.visitSource {α : Type} (document : Document) (source : Node)
    (read : List (Node × Node) → Reader α) : Reader α := do
  if !document.isMapping source then throw .malformed
  else document.visit source fun node =>
    match node with
    | .mapping _ _ pairs => read pairs
    | _ => throw .malformed

mutual

/-- Reads a node of any type; only the outcome as a key is kept. There is none for a mapping with
repeated keys. -/
def readAny (document : Document) (fuel : Nat) (node : Node) : Reader (Option AnyValue) :=
  match fuel with
  | 0 => throw .malformed
  | fuel + 1 =>
    document.visit node fun node => do
      match node with
      | .scalar _ tag text => return some (.scalar (← scalarValue tag text))
      | .sequence _ _ items =>
        for item in items do
          let _ ← readAny document fuel item
        return some (.collection sequenceType)
      | .mapping _ _ pairs =>
        let texts := document.hasTextKeys pairs
        if ← readAnyPairs document fuel texts pairs then
          return some (.collection (mappingType texts))
        else return none
      | .alias _ _ _ _ => throw .malformed

/-- Reads the pairs of a mapping of any type, and then the mappings merged into it. Keys that are
set already are left out; a collection cannot be a key. The answer is no if keys are repeated. -/
def readAnyPairs (document : Document) (fuel : Nat) (texts : Bool) (pairs : List (Node × Node)) :
    Reader Bool :=
  match fuel with
  | 0 => throw .malformed
  | fuel + 1 => do
    if ← noteRepeated pairs then return false
    else
      let mut merged ← takeMerged
      for (key, node) in pairs do
        if !key.isMerge then
          let known ←
            if texts then do pure ((← readText document key).map (AnyValue.scalar ∘ Value.text))
            else readAny document fuel key
          match known, merged with
          | none, _ => pure ()
          | some (.collection type), some _ => throw (.unhashable type)
          | some (.collection _), none => throw .malformed
          | some (.scalar value), set =>
            if !(set.getD []).contains value then
              merged := set.map (value :: ·)
              let _ ← readAny document fuel node
      setMerged merged
      match mergeSources? pairs with
      | none => return true
      | some sources =>
        let started ← startMerge (fun key => readAny document fuel key) pairs
        for source in sources do
          let _ ← document.visitSource source fun more => readAnyPairs document fuel texts more
        if started then setMerged none
        return true

end

/-- A field of a structure: its key, and how its value changes the structure. -/
structure NamedField (σ : Type) where
  name : String
  read : Document → Node → σ → Reader σ

/-- Reads the fields of a structure. The argument `merged` holds the keys that are set already, if
they are remembered; `done` holds the fields of this mapping. -/
def readFields {σ : Type} (target : String) (fields : List (NamedField σ)) (document : Document)
    (merged : Option (List Value)) (done : List String) :
    List (Node × Node) → σ → Reader (σ × Option (List Value))
  | [], value => return (value, merged)
  | (key, node) :: rest, value => do
    if key.isMerge then readFields target fields document merged done rest value
    else match ← readText document key with
      | none => readFields target fields document merged done rest value
      | some name =>
        if (merged.getD []).contains (.text name) then
          readFields target fields document merged done rest value
        else
          let merged := merged.map (.text name :: ·)
          match fields.find? (Raw.ofString ·.name = name) with
          | none => readFields target fields document merged done rest value
          | some field =>
            if done.contains field.name then do
              note (.fieldTwice key.line field.name target)
              readFields target fields document merged done rest value
            else do
              let value ← field.read document node value
              readFields target fields document merged (field.name :: done) rest value

mutual

/-- Reads a structure from the pairs of a mapping, and then from the mappings merged into it. -/
def readPairs {σ : Type} (target : String) (fields : List (NamedField σ)) (document : Document)
    (fuel : Nat) (pairs : List (Node × Node)) (value : σ) : Reader σ :=
  match fuel with
  | 0 => throw .malformed
  | fuel + 1 => do
    if ← noteRepeated pairs then return value
    else
      let (value, merged) ←
        readFields target fields document (← takeMerged) [] pairs value
      setMerged merged
      match mergeSources? pairs with
      | none => return value
      | some sources =>
        let started ← startMerge (readAny document fuel) pairs
        let value ← readMerged target fields document fuel sources value
        if started then setMerged none
        return value

/-- Reads a structure from mappings merged into one. -/
def readMerged {σ : Type} (target : String) (fields : List (NamedField σ)) (document : Document)
    (fuel : Nat) (sources : List Node) (value : σ) : Reader σ :=
  match fuel, sources with
  | 0, _ => throw .malformed
  | _, [] => return value
  | fuel + 1, source :: rest => do
    let value ← document.visitSource source fun pairs =>
      readPairs target fields document fuel pairs value
    readMerged target fields document fuel rest value

end

/-- Reads a structure. -/
def readStructure {σ : Type} (target : String) (fields : List (NamedField σ)) (document : Document)
    (node : Node) (value : σ) : Reader σ :=
  document.visit node fun node => do
    match node with
    | .mapping _ _ pairs =>
      readPairs target fields document ((document.size + 2) * (document.size + 2)) pairs value
    | .scalar _ tag text =>
      match ← scalarValue tag text with
      | .null => return value
      | _ =>
        node.reject target
        return value
    | node =>
      node.reject target
      return value

/-- Reads the first document of a text into a structure that holds the defaults. -/
def read {σ : Type} (target : String) (fields : List (NamedField σ)) (default : σ) (bytes : Bytes) :
    Except ReadError σ :=
  match Document.ofInput? (readInput bytes) with
  | none => .error .malformed
  | some none => .ok default
  | some (some document) => do
    let reading : Reader σ := do
      count
      readStructure target fields document document.root default
    let (value, state) ← reading.run {}
    if state.errors.isEmpty then return value else throw (.types state.errors)

end InlineAudit.Yaml

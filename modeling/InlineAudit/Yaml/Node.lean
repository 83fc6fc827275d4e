import InlineAudit.Yaml.TokenQueue
import InlineAudit.Yaml.Value

/-!
The tree of a YAML document, built from its tokens. Every node knows the line it starts on and its
tag. An alias refers to a node by the number that the node got when its anchor was read; later
anchors of the same name do not change it. Behind the document one token is looked at, and nothing
else is read.
-/

namespace InlineAudit.Yaml

inductive Node where
  | scalar (line : Nat) (tag text : String)
  | sequence (line : Nat) (tag : String) (items : List Node)
  | mapping (line : Nat) (tag : String) (pairs : List (Node × Node))
  /-- An alias, by its own number among the aliases and that of the node it stands for. -/
  | alias (line : Nat) (name : String) (serial target : Nat)
  deriving Inhabited

/-- A document: its root, the anchored nodes by number, and a bound for the steps of reading it. -/
structure Document where
  root : Node
  anchored : List (Nat × Node)
  size : Nat
  deriving Inhabited

/-- The state of building: the tokens, the meaning of tag handles, the number that an anchor stands
for now, the anchored nodes that are finished, and the number of aliases so far. -/
structure Build where
  scan : Scan
  handles : List (String × String) := []
  anchors : List (String × Nat) := []
  anchored : List (Nat × Node) := []
  aliases : Nat := 0
  deriving Inhabited

abbrev Builder := StateT Build Option

namespace Builder

/-- The next token, which stays where it is. -/
def peek : Builder Token := do
  let s ← get
  match s.scan.peek? with
  | some (token, scan) =>
    set { s with scan := scan }
    return token
  | none => failure

def advance : Builder Unit := modify fun s => { s with scan := s.scan.take }

/-- Gives an anchor the next number. -/
def newAnchor (name : String) : Builder Nat := do
  let s ← get
  let number := s.anchors.length
  set { s with anchors := (name, number) :: s.anchors }
  return number

/-- An alias for the node that an anchor stands for now. -/
def aliasOf (line : Nat) (name : String) : Builder Node := do
  let s ← get
  match s.anchors.lookup name with
  | some target =>
    set { s with aliases := s.aliases + 1 }
    return .alias line name s.aliases target
  | none => failure

/-- Keeps a finished node under its number, if it has one. -/
def keep (number : Option Nat) (node : Node) : Builder Node := do
  match number with
  | some n => modify fun s => { s with anchored := (n, node) :: s.anchored }
  | none => pure ()
  return node

end Builder

open Builder

/-- The long form that short tags abbreviate. -/
def tagStem : String := "tag:yaml.org,2002:"

def shortTag (tag : String) : String :=
  if tag.startsWith tagStem then "!!" ++ String.ofList (tag.toList.drop tagStem.length) else tag

/-- The meaning of the handles that need no directive. -/
def usualHandles : List (String × String) := [("!", "!"), ("!!", tagStem)]

/-- The tag that a handle and a suffix stand for. -/
def resolveTag (handle suffix : String) : Builder String := do
  if handle = "" then return suffix
  else match ((← get).handles ++ usualHandles).lookup handle with
    | some stem => if stem ++ suffix = "" then failure else return stem ++ suffix
    | none => failure

/-- Anchor and tag in front of a node. -/
structure Properties where
  line : Nat
  tag : String := ""
  anchor : Option Nat := none
  /-- Whether there is any property at all. -/
  present : Bool := false

def readAnchor (props : Properties) : Builder Properties := do
  match (← peek).kind with
  | .anchor name =>
    advance
    return { props with anchor := some (← newAnchor name), present := true }
  | _ => return props

def readTag (props : Properties) : Builder Properties := do
  match (← peek).kind with
  | .tag handle suffix =>
    advance
    return { props with tag := ← resolveTag handle suffix, present := true }
  | _ => return props

/-- Reads an anchor and a tag in either order. -/
def readProperties : Builder Properties := do
  let token ← peek
  let props : Properties := { line := token.line }
  match token.kind with
  | .anchor _ => readTag (← readAnchor props)
  | .tag _ _ => readAnchor (← readTag props)
  | _ => return props

/-- The tag of a node that has properties, where `default` is the tag without any. -/
def Properties.tagOr (props : Properties) (default : String) : String :=
  if props.tag = "" || props.tag = "!" then default else shortTag props.tag

/-- The tag that a scalar has by its form. -/
def plainTag (plain : Bool) (text : String) : String :=
  if !plain then textTag
  else if text = "<<" then mergeTag
  else (Value.ofPlain true text).tag

def Properties.scalar (props : Properties) (text : String) (plain : Bool) : Builder Node :=
  keep props.anchor (.scalar props.line (props.tagOr (plainTag plain text)) text)

def emptyScalar (line : Nat) : Node := .scalar line nullTag ""

/-- What a node is read for: as part of a block or of a bracketed collection, and whether a
sequence may start here without an indent of its own. -/
structure Context where
  block : Bool
  indentless : Bool

def ends (kinds : List Kind) (token : Token) : Bool := kinds.contains token.kind

mutual

/-- Reads a node. -/
def readNode (fuel : Nat) (context : Context) : Builder Node :=
  match fuel with
  | 0 => failure
  | fuel + 1 => do
    let first ← peek
    match first.kind with
    | .alias name =>
      advance
      aliasOf first.line name
    | _ =>
      let props ← readProperties
      let token ← peek
      let sequence (items : Builder (List Node)) : Builder Node := do
        keep props.anchor (.sequence props.line (props.tagOr sequenceTag) (← items))
      let mapping (pairs : Builder (List (Node × Node))) : Builder Node := do
        keep props.anchor (.mapping props.line (props.tagOr mappingTag) (← pairs))
      match token.kind with
      | .blockEntry =>
        if context.indentless then sequence (readIndentless fuel)
        else if props.present then props.scalar "" true
        else failure
      | .scalar text plain => do
        advance
        props.scalar text plain
      | .flowSequenceStart => do
        advance
        sequence (readFlowItems fuel true)
      | .flowMappingStart => do
        advance
        mapping (readFlowPairs fuel true)
      | kind =>
        if context.block && kind = .blockSequenceStart then do
          advance
          sequence (readBlockItems fuel)
        else if context.block && kind = .blockMappingStart then do
          advance
          mapping (readBlockPairs fuel)
        else if props.present then props.scalar "" true
        else failure

/-- Reads a node, or nothing where one of the given tokens comes next. Nothing has the given line,
or else that of the token. -/
def readUnless (fuel : Nat) (context : Context) (line : Option Nat) (stops : List Kind) :
    Builder Node :=
  match fuel with
  | 0 => failure
  | fuel + 1 => do
    let token ← peek
    if ends stops token then return emptyScalar (line.getD token.line) else readNode fuel context

/-- The items of a sequence that has an indent of its own. -/
def readBlockItems (fuel : Nat) : Builder (List Node) :=
  match fuel with
  | 0 => failure
  | fuel + 1 => do
    let token ← peek
    match token.kind with
    | .blockEntry =>
      advance
      let item ← readUnless fuel ⟨true, false⟩ (some token.line) [.blockEntry, .blockEnd]
      return item :: (← readBlockItems fuel)
    | .blockEnd =>
      advance
      return []
    | _ => failure

/-- The items of a sequence that shares the indent of the mapping around it. -/
def readIndentless (fuel : Nat) : Builder (List Node) :=
  match fuel with
  | 0 => failure
  | fuel + 1 => do
    let token ← peek
    match token.kind with
    | .blockEntry =>
      advance
      let item ← readUnless fuel ⟨true, false⟩ (some token.line)
        [.blockEntry, .key, .value, .blockEnd]
      return item :: (← readIndentless fuel)
    | _ => return []

/-- The pairs of a block mapping. -/
def readBlockPairs (fuel : Nat) : Builder (List (Node × Node)) :=
  match fuel with
  | 0 => failure
  | fuel + 1 => do
    let token ← peek
    match token.kind with
    | .key =>
      advance
      let key ← readUnless fuel ⟨true, true⟩ (some token.line) [.key, .value, .blockEnd]
      let value ← readBlockValue fuel
      return (key, value) :: (← readBlockPairs fuel)
    | .blockEnd =>
      advance
      return []
    | _ => failure

/-- The value behind a key of a block mapping. -/
def readBlockValue (fuel : Nat) : Builder Node :=
  match fuel with
  | 0 => failure
  | fuel + 1 => do
    let token ← peek
    match token.kind with
    | .value =>
      advance
      readUnless fuel ⟨true, true⟩ (some token.line) [.key, .value, .blockEnd]
    | _ => return emptyScalar token.line

/-- The items of a bracketed sequence. A key among them makes a mapping of one pair. -/
def readFlowItems (fuel : Nat) (first : Bool) : Builder (List Node) :=
  match fuel with
  | 0 => failure
  | fuel + 1 => do
    let token ← peek
    if token.kind = .flowSequenceEnd then
      advance
      return []
    else if !first && token.kind ≠ .flowEntry then failure
    else
      if !first then advance
      let token ← peek
      match token.kind with
      | .flowSequenceEnd =>
        advance
        return []
      | .key =>
        advance
        let pair ← readFlowPair fuel
        let item := Node.mapping token.line mappingTag [pair]
        return item :: (← readFlowItems fuel false)
      | _ =>
        let item ← readNode fuel ⟨false, false⟩
        return item :: (← readFlowItems fuel false)

/-- The pair behind a key in a bracketed sequence. A token that stands where the key should be is
lost with it. -/
def readFlowPair (fuel : Nat) : Builder (Node × Node) :=
  match fuel with
  | 0 => failure
  | fuel + 1 => do
    let token ← peek
    let key ←
      if ends [.value, .flowEntry, .flowSequenceEnd] token then do
        advance
        pure (emptyScalar token.line)
      else readNode fuel ⟨false, false⟩
    let value ← readFlowValue fuel .flowSequenceEnd
    return (key, value)

/-- The value in a bracketed collection, where `closing` is its bracket. -/
def readFlowValue (fuel : Nat) (closing : Kind) : Builder Node :=
  match fuel with
  | 0 => failure
  | fuel + 1 => do
    let token ← peek
    if token.kind = .value then
      advance
      readUnless fuel ⟨false, false⟩ (some token.line) [.flowEntry, closing]
    else return emptyScalar token.line

/-- The pairs of a bracketed mapping; a key may come without a value. -/
def readFlowPairs (fuel : Nat) (first : Bool) : Builder (List (Node × Node)) :=
  match fuel with
  | 0 => failure
  | fuel + 1 => do
    let token ← peek
    if token.kind = .flowMappingEnd then
      advance
      return []
    else if !first && token.kind ≠ .flowEntry then failure
    else
      if !first then advance
      let token ← peek
      match token.kind with
      | .flowMappingEnd =>
        advance
        return []
      | .key =>
        advance
        let key ← readUnless fuel ⟨false, false⟩ none [.value, .flowEntry, .flowMappingEnd]
        let value ← readFlowValue fuel .flowMappingEnd
        return (key, value) :: (← readFlowPairs fuel false)
      | _ =>
        let key ← readNode fuel ⟨false, false⟩
        return (key, emptyScalar (← peek).line) :: (← readFlowPairs fuel false)

end

/-- Reads directives. Of a version there is one at most, and only 1.1 will do; a handle gets one
meaning. -/
def readDirectives (versioned : Bool) : (fuel : Nat) → Builder Unit
  | 0 => failure
  | fuel + 1 => do
    match (← peek).kind with
    | .version major minor =>
      if versioned || major ≠ 1 || minor ≠ 1 then failure
      else
        advance
        readDirectives true fuel
    | .tagDirective handle stem =>
      if ((← get).handles.lookup handle).isSome then failure
      else
        advance
        modify fun s => { s with handles := (handle, stem) :: s.handles }
        readDirectives versioned fuel
    | _ => return ()

/-- Reads the first document, if there is one. -/
def readDocument (fuel : Nat) : Builder (Option Document) := do
  let explicitly : Builder Node := do
    readDirectives false fuel
    if (← peek).kind ≠ .documentStart then failure
    advance
    let token ← peek
    match token.kind with
    | .version _ _ | .tagDirective _ _ | .documentStart | .documentEnd | .streamEnd =>
      return emptyScalar token.line
    | _ => readNode fuel ⟨true, false⟩
  match (← peek).kind with
  | .streamEnd => return none
  | .version _ _ | .tagDirective _ _ | .documentStart =>
    let root ← explicitly
    let _ ← peek
    return some ⟨root, (← get).anchored, fuel⟩
  | _ =>
    let root ← readNode fuel ⟨true, false⟩
    let _ ← peek
    return some ⟨root, (← get).anchored, fuel⟩

/-- The first document of a text: none at all, or an error. A character gives four tokens at most,
and no path of reading is longer than three steps for each token. -/
def Document.ofInput? (input : Input) : Option (Option Document) :=
  let scan := Scan.ofInput input
  ((readDocument (12 * scan.length + 12)).run { scan := scan }).map (·.1)

end InlineAudit.Yaml

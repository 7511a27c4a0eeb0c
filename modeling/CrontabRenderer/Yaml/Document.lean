import CrontabRenderer.Yaml.Node
import CrontabRenderer.Yaml.Tokens

/-!
# Reading documents

A text is one document: directives, its root, and marks before and behind it. `Document.ofText`
refuses every text that is not well formed, also behind the document.
-/
namespace CrontabRenderer.Yaml

/-- The tokens left, and what is known of the document. -/
structure Progress where
  tokens : List Token
  /-- What the handles of tags stand for. -/
  handles : List (String × Tag)
  /-- The targets of the names of anchors, each at its last definition. -/
  anchors : List (String × Nat)
  anchored : List Anchored
  places : Nat
  size : Nat

/-- Reading a part of a document. -/
abbrev Parse := StateT Progress (Except Error)

namespace Parse

def peek : Parse Token := do
  match (← get).tokens with
  | token :: _ => return token
  | [] => return .streamEnd

def skip : Parse Unit := modify fun p => { p with tokens := p.tokens.drop 1 }

def count (n : Nat) : Parse Unit := modify fun p => { p with size := p.size + n }

/-- Takes a token that is the only one possible. -/
def expect (token : Token) : Parse Unit := do
  if (← peek) = token then skip else throw .unexpectedToken

/-- The tag that a handle and a suffix are short for. -/
def expandTag (handle : String) (suffix : Tag) : Parse Tag := do
  if handle.isEmpty then return suffix
  match (← get).handles.lookup handle with
  | some expansion => return expansion ++ suffix
  | none => throw .undefinedHandle

/-- The anchor and the tag before a node, in any order. -/
def properties : Parse (Option String × Option Tag) := do
  match ← peek with
  | .anchor name =>
    skip
    match ← peek with
    | .tag handle suffix =>
      skip
      return (some name, some (← expandTag handle suffix))
    | _ => return (some name, none)
  | .tag handle suffix =>
    skip
    match ← peek with
    | .anchor name =>
      skip
      return (some name, some (← expandTag handle suffix))
    | _ => return (none, some (← expandTag handle suffix))
  | _ => return (none, none)

/-- Gives an anchor its target at the start of its node. The target is the number of names that have
been given one, which is also a name's new target when it is defined again. -/
def startAnchor (name : String) : Parse (Nat × Nat) := do
  let p ← get
  let target := p.anchors.length
  let others := p.anchors.filter (·.1 ≠ name)
  set { p with anchors := (name, target) :: others, places := p.places + 1 }
  return (target, p.places)

def finishAnchor (start : Option (Nat × Nat)) (node : Node) : Parse Unit :=
  match start with
  | none => return
  | some (target, place) =>
    modify fun p => { p with anchored := ⟨target, place, node⟩ :: p.anchored }

def aliasNode (name : String) : Parse Node := do
  match (← get).anchors.lookup name with
  | some target =>
    count 1
    return .alias target
  | none => throw .undefinedAnchor

/-- A node that is not written, before the next token. -/
def omitted : Parse Node := do
  count 1
  return .omitted

mutual

/-- Reads a node. A block sequence that is the value of a key need not be indented. -/
def node (fuel : Nat) (block unindented : Bool) : Parse Node :=
  match fuel with
  | 0 => throw .unexpectedToken
  | fuel + 1 => do
    match ← peek with
    | .alias name =>
      skip
      aliasNode name
    | _ =>
      let (anchor, tag) ← properties
      let start ← match anchor with
        | some name => some <$> startAnchor name
        | none => pure none
      let next ← peek
      let node ←
        match next with
        | .scalar text style => do
          skip
          count 1
          pure (.scalar ⟨tag, text, style⟩)
        | .flowSequenceStart => do
          skip
          count 2
          pure (.sequence tag (← flowItems fuel true))
        | .flowMappingStart => do
          skip
          count 2
          pure (.mapping tag (← flowMembers fuel true))
        | _ =>
          if unindented ∧ next = .blockItem then do
            count 2
            pure (.sequence tag (← unindentedItems fuel))
          else if block ∧ next = .blockSequenceStart then do
            skip
            count 2
            pure (.sequence tag (← blockItems fuel))
          else if block ∧ next = .blockMappingStart then do
            skip
            count 2
            pure (.mapping tag (← blockMembers fuel))
          else if anchor.isSome ∨ tag.isSome then do
            count 1
            pure (.scalar ⟨tag, "", .plain⟩)
          else throw .unexpectedToken
      finishAnchor start node
      return node

def blockItems (fuel : Nat) : Parse (List Node) :=
  match fuel with
  | 0 => throw .unexpectedToken
  | fuel + 1 => do
    match ← peek with
    | .blockItem =>
      skip
      let item ← match ← peek with
        | .blockItem | .blockEnd => omitted
        | _ => node fuel true false
      return item :: (← blockItems fuel)
    | .blockEnd =>
      skip
      return []
    | _ => throw .unexpectedToken

def unindentedItems (fuel : Nat) : Parse (List Node) :=
  match fuel with
  | 0 => throw .unexpectedToken
  | fuel + 1 => do
    match ← peek with
    | .blockItem =>
      skip
      let item ← match ← peek with
        | .blockItem | .key | .value | .blockEnd => omitted
        | _ => node fuel true false
      return item :: (← unindentedItems fuel)
    | _ => return []

def blockMembers (fuel : Nat) : Parse (List (Node × Node)) :=
  match fuel with
  | 0 => throw .unexpectedToken
  | fuel + 1 => do
    match ← peek with
    | .key =>
      skip
      let key ← match ← peek with
        | .key | .value | .blockEnd => omitted
        | _ => node fuel true true
      let value ← blockValue fuel
      return (key, value) :: (← blockMembers fuel)
    | .blockEnd =>
      skip
      return []
    | _ => throw .unexpectedToken

def blockValue (fuel : Nat) : Parse Node :=
  match fuel with
  | 0 => throw .unexpectedToken
  | fuel + 1 => do
    match ← peek with
    | .value =>
      skip
      match ← peek with
      | .key | .value | .blockEnd => omitted
      | _ => node fuel true true
    | _ => omitted

/-- Reads the items of a flow sequence. An item with a key is a mapping of one member. -/
def flowItems (fuel : Nat) (first : Bool) : Parse (List Node) :=
  match fuel with
  | 0 => throw .unexpectedToken
  | fuel + 1 => do
    if (← peek) = .flowSequenceEnd then
      skip
      return []
    else
      if !first then expect .flowItem
      match ← peek with
      | .key =>
        skip
        count 2
        let key ← match ← peek with
          -- The sign behind a key that is not written is taken for that key.
          | .value | .flowItem | .flowSequenceEnd =>
            skip
            omitted
          | _ => node fuel false false
        let value ← flowValue fuel .flowSequenceEnd
        return .mapping none [(key, value)] :: (← flowItems fuel false)
      | .flowSequenceEnd =>
        skip
        return []
      | _ =>
        let item ← node fuel false false
        return item :: (← flowItems fuel false)

def flowMembers (fuel : Nat) (first : Bool) : Parse (List (Node × Node)) :=
  match fuel with
  | 0 => throw .unexpectedToken
  | fuel + 1 => do
    if (← peek) = .flowMappingEnd then
      skip
      return []
    else
      if !first then expect .flowItem
      match ← peek with
      | .key =>
        skip
        let key ← match ← peek with
          | .value | .flowItem | .flowMappingEnd => omitted
          | _ => node fuel false false
        let value ← flowValue fuel .flowMappingEnd
        return (key, value) :: (← flowMembers fuel false)
      | .flowMappingEnd =>
        skip
        return []
      | _ =>
        let key ← node fuel false false
        let value ← omitted
        return (key, value) :: (← flowMembers fuel false)

/-- The value behind a key in a flow collection with that closing sign. -/
def flowValue (fuel : Nat) (closing : Token) : Parse Node :=
  match fuel with
  | 0 => throw .unexpectedToken
  | fuel + 1 => do
    match ← peek with
    | .value =>
      skip
      let next ← peek
      if next = .flowItem ∨ next = closing then omitted else node fuel false false
    | _ => omitted

end

/-- The directives before a document: at most one version, and handles defined once each. -/
def directives : Nat → Bool → List (String × Tag) → Parse (List (String × Tag))
  | 0, _, handles => return handles
  | fuel + 1, versioned, handles => do
    match ← peek with
    | .version major minor =>
      if versioned ∨ major ≠ 1 ∨ (minor ≠ 1 ∧ minor ≠ 2) then throw .badDirective
      else
        skip
        directives fuel true handles
    | .tagHandle handle expansion =>
      if (handles.lookup handle).isSome then throw .badDirective
      else
        skip
        directives fuel versioned ((handle, expansion) :: handles)
    | _ => return handles

/-- The handles that every document has. -/
def stockHandles : List (String × Tag) := [("!", .mark), ("!!", .core "")]

/-- The root behind a mark, which need not be written. -/
def rootBehindMark (fuel : Nat) : Parse Node := do
  match ← peek with
  | .version _ _ | .tagHandle _ _ | .documentStart | .documentEnd | .streamEnd => omitted
  | _ => node fuel true false

def skipDocumentEnds : Nat → Parse Unit
  | 0 => return
  | fuel + 1 => do
    if (← peek) = .documentEnd then
      skip
      skipDocumentEnds fuel

/-- Reads a whole text. An empty one is a document whose root is not written. -/
def document (fuel : Nat) : Parse Node := do
  let root ← match ← peek with
    | .streamEnd => omitted
    | .version _ _ | .tagHandle _ _ | .documentStart =>
      let handles ← directives fuel false []
      modify fun p => { p with handles := handles ++ p.handles }
      expect .documentStart
      rootBehindMark fuel
    | _ => node fuel true false
  skipDocumentEnds fuel
  if (← peek) = .streamEnd then return root else throw .severalDocuments

end Parse

def Document.ofText (text : String) : Except Error Document := do
  let tokens ← tokensOf text
  let (root, p) ← (Parse.document (4 * tokens.length + 4)).run
    ⟨tokens, Parse.stockHandles, [], [], 0, 0⟩
  return ⟨root, p.anchored, p.size⟩

end CrontabRenderer.Yaml

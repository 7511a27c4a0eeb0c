import CrontabRenderer.Yaml.Directive
import CrontabRenderer.Yaml.Scalar.Block
import CrontabRenderer.Yaml.Scalar.Plain
import CrontabRenderer.Yaml.Scalar.Quoted

/-!
# The tokens of a YAML text

`tokensOf` reads a whole text. A scalar, an alias or a flow collection is a key if a colon follows
on its line, which is seen only then: until that a `Candidate` remembers where its tokens start.
-/
namespace CrontabRenderer.Yaml

/-- Tokens that are a key if a colon comes next. -/
structure Candidate where
  /-- The number of tokens before it. -/
  token : Nat
  start : Cursor
  /-- Its line can be nothing but a key of the block mapping around it. -/
  required : Bool

structure Reading where
  cursor : Cursor
  tokens : Array Token
  /-- The column of the innermost block collection, negative outside all of them. -/
  indent : Int
  outerIndents : List Int
  /-- The candidate of each flow collection around the cursor, innermost first, and of the block
  collections around them. -/
  candidate : Option Candidate
  outerCandidates : List (Option Candidate)
  /-- A key may start here. -/
  keyAllowed : Bool

namespace Reading

def ofText (s : List Char) : Reading := ⟨.ofText s, #[], -1, [], none, [], true⟩

def inFlow (r : Reading) : Bool := !r.outerCandidates.isEmpty

def push (r : Reading) (token : Token) : Reading := { r with tokens := r.tokens.push token }

/-- Puts a token behind the first `n` ones. -/
def insert (r : Reading) (n : Nat) (token : Token) : Reading :=
  { r with tokens := (r.tokens.extract 0 n).push token ++ r.tokens.extract n r.tokens.size }

/-- Ends the block collections that are indented more than a column. -/
def endBlocks (column : Int) : Nat → Reading → Reading
  | 0, r => r
  | fuel + 1, r =>
    if r.indent ≤ column then r
    else match r.outerIndents with
      | [] => r
      | indent :: outer =>
        endBlocks column fuel { r.push .blockEnd with indent := indent, outerIndents := outer }

def unindent (r : Reading) (column : Int) : Reading :=
  if r.inFlow then r else endBlocks column r.outerIndents.length r

/-- Starts a block collection behind the first `n` tokens, if a column is indented more than the
innermost one. -/
def indentTo (r : Reading) (column n : Nat) (token : Token) : Reading :=
  if r.inFlow ∨ (column : Int) ≤ r.indent then r
  else { r.insert n token with indent := column, outerIndents := r.indent :: r.outerIndents }

/-- Gives the candidate up, which must not be required. -/
def dropCandidate (r : Reading) : Except Error Reading :=
  if r.candidate.any (·.required) then .error .missingColon else .ok { r with candidate := none }

/-- Remembers that a key may start at the cursor. -/
def saveCandidate (r : Reading) : Except Error Reading :=
  if r.keyAllowed then do
    let required := !r.inFlow && r.indent == r.cursor.column
    let r ← r.dropCandidate
    .ok { r with candidate := some ⟨r.tokens.size, r.cursor, required⟩ }
  else .ok r

/-- A key is on one line and at most 1024 octets long. -/
def isStale (cursor : Cursor) (candidate : Candidate) : Bool :=
  candidate.start.line < cursor.line || candidate.start.index + 1024 < cursor.index

def dropStaleIn (cursor : Cursor) (candidate : Option Candidate) :
    Except Error (Option Candidate) :=
  match candidate with
  | none => .ok none
  | some candidate =>
    if isStale cursor candidate then
      if candidate.required then .error .missingColon else .ok none
    else .ok (some candidate)

def dropStale (r : Reading) : Except Error Reading := do
  let outer ← r.outerCandidates.mapM (dropStaleIn r.cursor)
  let candidate ← dropStaleIn r.cursor r.candidate
  .ok { r with candidate := candidate, outerCandidates := outer }

/-- Moves to the next token over spaces, comments, line breaks and byte order marks, and over tabs
where no key may start. -/
def skipToToken : Nat → Reading → Reading
  | 0, r => r
  | fuel + 1, r =>
    let tabs := r.inFlow || !r.keyAllowed
    let c := r.cursor.skipByteOrderMark
    let c := (c.skipWhile fun ch => ch == ' ' || (tabs && ch == '\t')).skipComment
    let r := { r with cursor := c }
    if c.isAtAny isBreak then
      skipToToken fuel { r with cursor := c.skipBreak, keyAllowed := r.keyAllowed || !r.inFlow }
    else r

/-- Ends all block collections at the edge of a document. -/
def endDocument (r : Reading) : Except Error Reading := do
  let r ← (r.unindent (-1)).dropCandidate
  .ok { r with keyAllowed := false }

/-- Takes `n` characters for a token. -/
def take (r : Reading) (n : Nat) (token : Token) : Reading :=
  { r.push token with cursor := r.cursor.advance n }

def openFlow (r : Reading) (token : Token) : Except Error Reading := do
  let r ← r.saveCandidate
  let r := { r with
    outerCandidates := r.candidate :: r.outerCandidates, candidate := none, keyAllowed := true }
  .ok (r.take 1 token)

def closeFlow (r : Reading) (token : Token) : Except Error Reading := do
  let r ← r.dropCandidate
  let r := match r.outerCandidates with
    | [] => r
    | candidate :: outer => { r with candidate := candidate, outerCandidates := outer }
  .ok ({ r with keyAllowed := false }.take 1 token)

def readFlowItem (r : Reading) : Except Error Reading := do
  let r ← r.dropCandidate
  .ok ({ r with keyAllowed := true }.take 1 .flowItem)

def readBlockItem (r : Reading) : Except Error Reading := do
  if !r.inFlow ∧ !r.keyAllowed then .error .misplacedItem
  else
    let r ← (r.indentTo r.cursor.column r.tokens.size .blockSequenceStart).dropCandidate
    .ok ({ r with keyAllowed := true }.take 1 .blockItem)

/-- A key that is marked by a question mark. -/
def readKey (r : Reading) : Except Error Reading := do
  if !r.inFlow ∧ !r.keyAllowed then .error .misplacedKey
  else
    let r ← (r.indentTo r.cursor.column r.tokens.size .blockMappingStart).dropCandidate
    .ok ({ r with keyAllowed := !r.inFlow }.take 1 .key)

/-- A colon makes the candidate a key, whose mapping starts there if it has not started yet. -/
def readValue (r : Reading) : Except Error Reading :=
  match r.candidate with
  | some candidate =>
    let r := (r.insert candidate.token .key).indentTo candidate.start.column candidate.token
      .blockMappingStart
    .ok ({ r with candidate := none, keyAllowed := false }.take 1 .value)
  | none =>
    if !r.inFlow ∧ !r.keyAllowed then .error .misplacedValue
    else
      let r := r.indentTo r.cursor.column r.tokens.size .blockMappingStart
      .ok ({ r with keyAllowed := !r.inFlow }.take 1 .value)

/-- A token that may start a key and that ends where no key may start. -/
def readKeyPart (r : Reading) (read : Cursor → Except Error (Token × Cursor)) :
    Except Error Reading := do
  let r ← r.saveCandidate
  let (token, c) ← read r.cursor
  .ok { r.push token with cursor := c, keyAllowed := false }

def readBlockScalar (r : Reading) (folds : Bool) : Except Error Reading := do
  let r ← r.dropCandidate
  let (text, c) ← Block.read folds r.indent r.cursor
  let style := if folds then Style.folded else Style.literal
  .ok { r.push (.scalar text style) with cursor := c, keyAllowed := true }

def readPlainScalar (r : Reading) : Except Error Reading := do
  let r ← r.saveCandidate
  let ((text, endsBehindBreak), c) ← Plain.read r.inFlow (r.indent + 1) r.cursor
  .ok { r.push (.scalar text .plain) with cursor := c, keyAllowed := endsBehindBreak }

/-- The characters that start no plain scalar, unless something else than a gap follows some of
them. -/
def isIndicator (c : Char) : Bool := c ∈ "-?:,[]\x7b\x7d#&*!|>\x27\"%@\x60".toList

def startsPlain (r : Reading) (ch : Char) : Bool :=
  let c := r.cursor
  !(c.gapAhead 0 || isIndicator ch) ||
    (ch == '-' && !(c.ahead? 1).any isBlank) ||
    (!r.inFlow && (ch == '?' || ch == ':') && !c.gapAhead 1)

/-- Reads the token that starts with a character. -/
def readToken (r : Reading) (ch : Char) : Except Error Reading :=
  let c := r.cursor
  let gap := c.gapAhead 1
  if c.column = 0 ∧ ch = '%' then do
    let r ← r.endDocument
    let (token, c) ← readDirective c
    .ok { r.push token with cursor := c }
  else if c.atDocumentMark '-' then do .ok ((← r.endDocument).take 3 .documentStart)
  else if c.atDocumentMark '.' then do .ok ((← r.endDocument).take 3 .documentEnd)
  else if ch = '[' then r.openFlow .flowSequenceStart
  else if ch = '{' then r.openFlow .flowMappingStart
  else if ch = ']' then r.closeFlow .flowSequenceEnd
  else if ch = '}' then r.closeFlow .flowMappingEnd
  else if ch = ',' then r.readFlowItem
  else if ch = '-' ∧ gap then r.readBlockItem
  else if ch = '?' ∧ (r.inFlow ∨ gap) then r.readKey
  else if ch = ':' ∧ (r.inFlow ∨ gap) then r.readValue
  else if ch = '*' then r.readKeyPart fun c => do
    let (name, c) ← readAnchor c
    .ok (.alias name, c)
  else if ch = '&' then r.readKeyPart fun c => do
    let (name, c) ← readAnchor c
    .ok (.anchor name, c)
  else if ch = '!' then r.readKeyPart (readTag r.inFlow)
  else if ch = '|' ∧ !r.inFlow then r.readBlockScalar false
  else if ch = '>' ∧ !r.inFlow then r.readBlockScalar true
  else if ch = '\'' then r.readKeyPart fun c => do
    let (text, c) ← Quoted.read '\'' c
    .ok (.scalar text .singleQuoted, c)
  else if ch = '"' then r.readKeyPart fun c => do
    let (text, c) ← Quoted.read '"' c
    .ok (.scalar text .doubleQuoted, c)
  else if r.startsPlain ch then r.readPlainScalar
  else .error .unexpectedCharacter

/-- Reads the tokens up to the end of the text. Every step takes at least one character. -/
def readAll : Nat → Reading → Except Error (List Token)
  | 0, r => .ok (r.push .streamEnd).tokens.toList
  | fuel + 1, r => do
    let r ← (skipToToken (r.cursor.rest.length + 1) r).dropStale
    let r := r.unindent r.cursor.column
    match r.cursor.here? with
    | none =>
      let r ← (r.unindent (-1)).dropCandidate
      .ok (r.push .streamEnd).tokens.toList
    | some ch => readAll fuel (← r.readToken ch)

end Reading

/-- The tokens of a text. -/
def tokensOf (text : String) : Except Error (List Token) :=
  let s := text.toList
  if s.all isAllowed then Reading.readAll (s.length + 1) (.ofText s)
  else .error .forbiddenCharacter

end CrontabRenderer.Yaml

import CatalogRspec.Yaml.Token

namespace CatalogRspec.Yaml

/-- A token that turns out to be a key if a colon follows it on its line. -/
structure SimpleKey where
  required : Bool
  number : Nat
  mark : Mark

/--
The state between two tokens. A colon may tell that an earlier token was a key, so tokens wait in a
queue until nothing can be put before them any more. `keys` has one entry for each open flow
collection and one for what surrounds them, the innermost first. `given` counts the tokens that have
left the queue.
-/
structure Lexer where
  cursor : Cursor
  indent : Int
  outer : List Int
  keyAllowed : Bool
  keys : List (Option SimpleKey)
  queue : List Token
  given : Nat
  finished : Bool

abbrev Lexing := StateT Lexer (Except Fault)

namespace Lexing

def reading {α : Type} (r : Reading α) : Lexing α := do
  let s ← get
  let (a, cursor) ← r.run s.cursor
  set { s with cursor := cursor }
  return a

def here : Lexing Mark := return (← get).cursor.mark

def inFlow : Lexing Bool := return (← get).keys.length > 1

def fail {α : Type} (problem : Problem) : Lexing α := do
  throw ⟨problem, ← here, none⟩

def enqueue (t : Token) : Lexing Unit := modify fun s => { s with queue := s.queue ++ [t] }

def insertAt (number : Nat) (t : Token) : Lexing Unit :=
  modify fun s =>
    let place := number - s.given
    { s with queue := s.queue.take place ++ t :: s.queue.drop place }

def allowKey (allowed : Bool) : Lexing Unit := modify fun s => { s with keyAllowed := allowed }

def missingColon {α : Type} (k : SimpleKey) : Lexing α := do
  throw ⟨.missingColon, ← here, some (.simpleKey, k.mark)⟩

/-- A key has to end on its line and within 1024 bytes. -/
def isStale (m : Mark) (k : SimpleKey) : Bool :=
  k.mark.line < m.line || k.mark.index + 1024 < m.index

/-- Gives up keys that no colon can follow any more; a required one may not be given up. -/
def dropStaleKeys : Lexing Unit := do
  let m ← here
  let stale := (← get).keys.reverse.filterMap (·.filter (isStale m))
  if let some k := stale.find? (·.required) then missingColon k
  modify fun s => { s with keys := s.keys.map (·.filter (!isStale m ·)) }

/-- Gives up the key of the innermost level. -/
def removeKey : Lexing Unit := do
  match (← get).keys with
  | some k :: rest =>
    if k.required then missingColon k
    modify fun s => { s with keys := none :: rest }
  | _ => return ()

def saveKey : Lexing Unit := do
  let s ← get
  if s.keyAllowed then
    let required := !(← inFlow) && s.indent == (s.cursor.mark.column : Int)
    removeKey
    let k : SimpleKey := ⟨required, s.given + s.queue.length, s.cursor.mark⟩
    modify fun s => { s with keys := some k :: s.keys.drop 1 }

/-- Opens a block collection if the column lies right of the indentation. -/
def roll (column : Nat) (number : Option Nat) (kind : TokenKind) (m : Mark) : Lexing Unit := do
  let s ← get
  if !(← inFlow) && s.indent < (column : Int) then
    set { s with outer := s.indent :: s.outer, indent := (column : Int) }
    match number with
    | some n => insertAt n ⟨kind, m, m⟩
    | none => enqueue ⟨kind, m, m⟩

def unrollFrom (column : Int) (m : Mark) (indent : Int) : List Int → Int × List Int × List Token
  | [] => (indent, [], [])
  | i :: outer =>
    if indent > column then
      let (j, rest, ends) := unrollFrom column m i outer
      (j, rest, ⟨.blockEnd, m, m⟩ :: ends)
    else (indent, i :: outer, [])

def unroll (column : Int) : Lexing Unit := do
  if !(← inFlow) then
    modify fun s =>
      let (indent, outer, ends) := unrollFrom column s.cursor.mark s.indent s.outer
      { s with indent := indent, outer := outer, queue := s.queue ++ ends }

def takeToken (kind : TokenKind) (width : Nat) : Lexing Unit := do
  let start ← here
  for _ in List.range width do reading Reading.skip
  enqueue ⟨kind, start, ← here⟩

/-- Passes over blanks, comments and line breaks up to the next token. -/
def skipSpaceFrom : Nat → Lexing Unit
  | 0 => return ()
  | count + 1 => do
    let c := (← get).cursor
    if c.mark.column == 0 && c.rest.head? == some (Char.ofNat 0xFEFF) then reading Reading.skip
    let tabs := (← inFlow) || !(← get).keyAllowed
    let _ ← reading (Reading.takeWhile fun c => c == ' ' || (tabs && c == '\t'))
    reading Reading.skipComment
    if (← reading Reading.next).any isBreak then
      reading Reading.skipBreak
      if !(← inFlow) then allowKey true
      skipSpaceFrom count

def endStream : Lexing Unit := do
  modify fun s =>
    let m := s.cursor.mark
    if m.column = 0 then s else { s with cursor := { s.cursor with mark := ⟨m.index, m.line + 1, 0⟩ } }
  unroll (-1)
  removeKey
  allowKey false
  takeToken .streamEnd 0
  modify fun s => { s with finished := true }

def directive : Lexing Unit := do
  unroll (-1)
  removeKey
  allowKey false
  enqueue (← reading Reading.directive)

def documentIndicator (kind : TokenKind) : Lexing Unit := do
  unroll (-1)
  removeKey
  allowKey false
  takeToken kind 3

def flowStart (kind : TokenKind) : Lexing Unit := do
  saveKey
  modify fun s => { s with keys := none :: s.keys }
  allowKey true
  takeToken kind 1

def flowEnd (kind : TokenKind) : Lexing Unit := do
  removeKey
  if ← inFlow then modify fun s => { s with keys := s.keys.drop 1 }
  allowKey false
  takeToken kind 1

def flowEntry : Lexing Unit := do
  removeKey
  allowKey true
  takeToken .flowEntry 1

/-- An indicator that opens a block collection of its own if none is open at its column. -/
def blockIndicator (refusal : Problem) (collection : TokenKind) : Lexing Unit := do
  if !(← inFlow) then
    if !(← get).keyAllowed then fail refusal
    let m ← here
    roll m.column none collection m

def blockEntry : Lexing Unit := do
  blockIndicator .entryNotAllowed .blockSequenceStart
  removeKey
  allowKey true
  takeToken .blockEntry 1

def key : Lexing Unit := do
  blockIndicator .keyNotAllowed .blockMappingStart
  removeKey
  allowKey (!(← inFlow))
  takeToken .key 1

/-- A colon: what may be a key becomes one, in a mapping that opens before it. -/
def value : Lexing Unit := do
  match (← get).keys with
  | some k :: rest =>
    insertAt k.number ⟨.key, k.mark, k.mark⟩
    roll k.mark.column (some k.number) .blockMappingStart k.mark
    modify fun s => { s with keys := none :: rest }
    allowKey false
  | _ =>
    blockIndicator .valueNotAllowed .blockMappingStart
    allowKey (!(← inFlow))
  takeToken .value 1

def anchor (activity : Activity) (kind : String → TokenKind) : Lexing Unit := do
  saveKey
  allowKey false
  let start ← here
  let name ← reading (Reading.anchorName activity)
  enqueue ⟨kind name, start, ← here⟩

def tag : Lexing Unit := do
  saveKey
  allowKey false
  let start ← here
  let kind ← reading (Reading.tag (← inFlow))
  enqueue ⟨kind, start, ← here⟩

def blockScalar (keepsLines : Bool) : Lexing Unit := do
  removeKey
  allowKey true
  let start ← here
  let (text, stop) ← reading (Reading.block keepsLines (← get).indent)
  let style := if keepsLines then Style.literal else Style.folded
  enqueue ⟨.scalar (String.ofList text) style, start, stop⟩

def quotedScalar (single : Bool) : Lexing Unit := do
  saveKey
  allowKey false
  let start ← here
  let text ← reading (Reading.quoted single)
  let style := if single then Style.singleQuoted else Style.doubleQuoted
  enqueue ⟨.scalar (String.ofList text) style, start, ← here⟩

def plainScalar : Lexing Unit := do
  saveKey
  allowKey false
  let start ← here
  let p ← reading (Reading.plain (← inFlow) (← get).indent)
  enqueue ⟨.scalar (String.ofList p.text) .plain, start, p.stop⟩
  if p.broken then allowKey true

def indicators : List Char := "-?:,[]\x7b\x7d#&*!|>'\"%@`".toList

/-- A blank starts no token; some indicators may start a plain scalar if no blank follows them. -/
def startsPlain (flow : Bool) (c : Char) (d : Next) : Bool :=
  !(isBlank c || indicators.contains c) || (c == '-' && !d.any isBlank) ||
    (!flow && (c == '?' || c == ':') && !d.endsWord)

def dispatch (flow : Bool) (c : Char) (d : Next) : Lexing Unit :=
  match c with
  | '[' => flowStart .flowSequenceStart
  | '{' => flowStart .flowMappingStart
  | ']' => flowEnd .flowSequenceEnd
  | '}' => flowEnd .flowMappingEnd
  | ',' => flowEntry
  | '*' => anchor .alias .alias
  | '&' => anchor .anchor .anchor
  | '!' => tag
  | '\'' => quotedScalar true
  | '"' => quotedScalar false
  | c =>
    if c == '-' && d.endsWord then blockEntry
    else if c == '?' && (flow || d.endsWord) then key
    else if c == ':' && (flow || d.endsWord) then value
    else if c == '|' && !flow then blockScalar true
    else if c == '>' && !flow then blockScalar false
    else if startsPlain flow c d then plainScalar
    else do throw ⟨.unknownStart, ← here, some (.nextToken, ← here)⟩

/-- Reads the next token into the queue, with those that it opens or closes. -/
def fetch : Lexing Unit := do
  skipSpaceFrom (← get).cursor.steps
  dropStaleKeys
  unroll ((← here).column : Int)
  let cursor := (← get).cursor
  match cursor.rest with
  | [] => endStream
  | c :: _ =>
    if cursor.mark.column == 0 && c == '%' then directive
    else if cursor.atIndicator then
      documentIndicator (if c == '-' then .documentStart else .documentEnd)
    else dispatch (← inFlow) c cursor.rest[1]?

/-- Whether the first token of the queue may still get a key before it. -/
def headMayBeKey (s : Lexer) : Bool := s.keys.any (·.any (·.number == s.given))

/-- Lets the first token out of the queue once nothing can come before it. -/
def release? : Lexing (Option Token) := do
  if !(← get).queue.isEmpty then dropStaleKeys
  let s ← get
  match s.queue with
  | t :: rest =>
    if headMayBeKey s then return none
    set { s with queue := rest, given := s.given + 1 }
    return some t
  | [] => return none

end Lexing

/-- The first character that no document may hold: where it stands, and where the piece starts that it
is checked with. -/
structure Forbidden where
  piece : Nat
  offset : Nat

namespace Forbidden

/-- The characters of a document are checked this many bytes at a time. -/
def pieceSize : Nat := 0x4000

def findFrom (piece offset : Nat) : List Char → Option Forbidden
  | [] => none
  | c :: s =>
    let next := offset + c.utf8Size
    let piece := if piece + pieceSize < next then offset else piece
    if isAllowed c then findFrom piece next s else some ⟨piece, offset⟩

/-- A piece is checked once all before it has been read. -/
def refusal? (f : Option Forbidden) (index : Nat) : Option Fault :=
  (f.filter (·.piece ≤ index)).map fun f => ⟨.controlCharacter, ⟨f.offset, 0, 0⟩, none⟩

end Forbidden

namespace Lexing

def tokensFrom (forbidden : Option Forbidden) (done : List Token) (s : Lexer) :
    Nat → List Token × Option Fault
  | 0 => (done, none)
  | count + 1 =>
    match release?.run s with
    | .error f => (done, some f)
    | .ok (some t, s) => tokensFrom forbidden (t :: done) s count
    | .ok (none, s) =>
      if s.finished && s.queue.isEmpty then (done, none)
      else
        match fetch.run s with
        | .error f => (done, (Forbidden.refusal? forbidden f.mark.index).or (some f))
        | .ok (_, s) =>
          match Forbidden.refusal? forbidden s.cursor.mark.index with
          | some f => (done, some f)
          | none => tokensFrom forbidden done s count

end Lexing

/-- The tokens of a document up to its end or its first fault. -/
structure Tokens where
  list : List Token
  fault : Option Fault

/-- Every character makes at most four tokens, and each step makes a token or releases one. -/
def Tokens.scan (text : String) : Tokens :=
  let start : Lexer := ⟨.ofText text, -1, [], true, [none], [], 0, false⟩
  let forbidden := Forbidden.findFrom 0 0 text.toList
  let (done, fault) := Lexing.tokensFrom forbidden [] start (10 * (text.utf8ByteSize + 2))
  ⟨done.reverse, fault⟩

end CatalogRspec.Yaml

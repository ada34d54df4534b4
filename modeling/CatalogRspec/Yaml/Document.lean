import CatalogRspec.Yaml.Event
import CatalogRspec.Yaml.Lexer

namespace CatalogRspec.Yaml

/--
The tokens still to come and why they end, and the events so far, the last first. Each name of an
anchor stands once in `anchors`, with the number that it got last.
-/
structure Builder where
  tokens : List Token
  fault : Option Fault
  handles : List (String × String) := []
  anchors : List (String × Nat) := []
  events : List Event := []

abbrev Building := ExceptT Fault (StateM Builder)

namespace Building

def peek : Building Token := do
  let s ← get
  match s.tokens, s.fault with
  | t :: _, _ => return t
  | [], some f => throw f
  | [], none => return ⟨.streamEnd, .start, .start⟩

def skip : Building Unit := modify fun s => { s with tokens := s.tokens.drop 1 }

def emit (kind : EventKind) (m : Mark) : Building Unit :=
  modify fun s => { s with events := ⟨kind, m⟩ :: s.events }

def failIn {α : Type} (problem : Problem) (activity : Activity) (since : Mark) : Building α := do
  throw ⟨problem, (← peek).start, some (activity, since)⟩

def kindIn (kinds : List TokenKind) : Building Bool := return kinds.contains (← peek).kind

/-- What may stand before a node, and where the node starts with it. -/
structure Properties where
  start : Mark
  anchor : Option String := none
  tag : Option String := none

def resolveTag (handle rest : String) (since here : Mark) : Building String := do
  if handle.isEmpty then return rest
  match (← get).handles.lookup handle with
  | some lead => return lead ++ rest
  | none => throw ⟨.undefinedHandle, here, some (.node, since)⟩

/-- An anchor and a tag, in either order. A tag is looked up once it is known what follows. -/
def properties : Building Properties := do
  let t ← peek
  match t.kind with
  | .anchor name =>
    skip
    let u ← peek
    match u.kind with
    | .tag handle rest =>
      skip
      let _ ← peek
      return ⟨t.start, some name, some (← resolveTag handle rest t.start u.start)⟩
    | _ => return ⟨t.start, some name, none⟩
  | .tag handle rest =>
    skip
    let u ← peek
    match u.kind with
    | .anchor name =>
      skip
      let _ ← peek
      return ⟨t.start, some name, some (← resolveTag handle rest t.start t.start)⟩
    | _ => return ⟨t.start, none, some (← resolveTag handle rest t.start t.start)⟩
  | _ => return ⟨t.start, none, none⟩

/-- The number of an anchor is the count of the names before it, so that a later name may get a
number that is in use. -/
def register : Option String → Building (Option Nat)
  | none => return none
  | some name => do
    let number := (← get).anchors.length
    modify fun s => { s with anchors := (name, number) :: s.anchors.filter (·.1 != name) }
    return some number

def aliased (name : String) (m : Mark) : Building Unit := do
  match (← get).anchors.lookup name with
  | some number =>
    emit (.alias number) m
    skip
  | none => throw ⟨.unknownAnchor, m, none⟩

def scalar (p : Properties) (text : String) (style : Style) : Building Unit := do
  emit (.scalar (← register p.anchor) ⟨text, style, p.tag⟩) p.start

/-- A node that is left out. -/
def missing (m : Mark) : Building Unit := emit (.scalar none ⟨"", .plain, none⟩) m

/-- A node with properties only; without them it may not be left out here. -/
def leftOut (inBlock : Bool) (p : Properties) : Building Unit := do
  if p.anchor.isSome || p.tag.isSome then scalar p "" .plain
  else failIn .missingContent (if inBlock then .blockNode else .flowNode) p.start

/-- The end of a collection, at the token that ends it. -/
def close (kind : EventKind) : Building Unit := do
  emit kind (← peek).start
  skip

mutual

/-- A node. In block context it may be a block collection, and for the value of a mapping also a
sequence that is indented no further than the mapping. -/
def node (inBlock level : Bool) : Nat → Building Unit
  | 0 => do failIn .missingContent .node (← peek).start
  | fuel + 1 => do
    let first ← peek
    if let .alias name := first.kind then return ← aliased name first.start
    let p ← properties
    let t ← peek
    match t.kind with
    | .blockEntry =>
      if level then
        emit (.sequenceStart (← register p.anchor)) p.start
        levelItems fuel
      else leftOut inBlock p
    | .scalar text style =>
      scalar p text style
      skip
    | .flowSequenceStart =>
      emit (.sequenceStart (← register p.anchor)) p.start
      skip
      flowItems t.start true fuel
    | .flowMappingStart =>
      emit (.mappingStart (← register p.anchor)) p.start
      skip
      flowEntries t.start true fuel
    | .blockSequenceStart =>
      if inBlock then
        emit (.sequenceStart (← register p.anchor)) p.start
        skip
        blockItems t.start fuel
      else leftOut inBlock p
    | .blockMappingStart =>
      if inBlock then
        emit (.mappingStart (← register p.anchor)) p.start
        skip
        blockEntries t.start fuel
      else leftOut inBlock p
    | _ => leftOut inBlock p

def blockItems (since : Mark) : Nat → Building Unit
  | 0 => return ()
  | fuel + 1 => do
    let t ← peek
    match t.kind with
    | .blockEntry =>
      skip
      if ← kindIn [.blockEntry, .blockEnd] then missing t.stop else node true false fuel
      blockItems since fuel
    | .blockEnd => close .sequenceEnd
    | _ => failIn .missingEntry .blockCollection since

def levelItems : Nat → Building Unit
  | 0 => return ()
  | fuel + 1 => do
    let t ← peek
    match t.kind with
    | .blockEntry =>
      skip
      if ← kindIn [.blockEntry, .key, .value, .blockEnd] then missing t.stop
      else node true false fuel
      levelItems fuel
    | _ => emit .sequenceEnd t.start

def blockPart (indicator : TokenKind) : Nat → Building Unit
  | 0 => return ()
  | fuel + 1 => do
    let t ← peek
    if t.kind = indicator then
      skip
      if ← kindIn [.key, .value, .blockEnd] then missing t.stop else node true true fuel
    else missing t.start

def blockEntries (since : Mark) : Nat → Building Unit
  | 0 => return ()
  | fuel + 1 => do
    match (← peek).kind with
    | .key =>
      blockPart .key fuel
      blockPart .value fuel
      blockEntries since fuel
    | .blockEnd => close .mappingEnd
    | _ => failIn .missingKey .blockMapping since

/-- What follows a colon in a flow collection that the given token ends. -/
def flowValue (final : TokenKind) : Nat → Building Unit
  | 0 => return ()
  | fuel + 1 => do
    if (← peek).kind = .value then
      skip
      if !(← kindIn [.flowEntry, final]) then return ← node false false fuel
    missing (← peek).start

def flowPair : Nat → Building Unit
  | 0 => return ()
  | fuel + 1 => do
    let t ← peek
    if ← kindIn [.value, .flowEntry, .flowSequenceEnd] then
      skip
      missing t.stop
    else node false false fuel
    flowValue .flowSequenceEnd fuel
    emit .mappingEnd (← peek).start

def flowItems (since : Mark) (first : Bool) : Nat → Building Unit
  | 0 => return ()
  | fuel + 1 => do
    if ← kindIn [.flowSequenceEnd] then return ← close .sequenceEnd
    if !first then
      if ← kindIn [.flowEntry] then skip
      else failIn .missingSequenceEnd .flowSequence since
    let t ← peek
    match t.kind with
    | .flowSequenceEnd => close .sequenceEnd
    | .key =>
      emit (.mappingStart none) t.start
      skip
      flowPair fuel
      flowItems since false fuel
    | _ =>
      node false false fuel
      flowItems since false fuel

def flowEntries (since : Mark) (first : Bool) : Nat → Building Unit
  | 0 => return ()
  | fuel + 1 => do
    if ← kindIn [.flowMappingEnd] then return ← close .mappingEnd
    if !first then
      if ← kindIn [.flowEntry] then skip
      else failIn .missingMappingEnd .flowMapping since
    match (← peek).kind with
    | .flowMappingEnd => close .mappingEnd
    | .key =>
      skip
      if ← kindIn [.value, .flowEntry, .flowMappingEnd] then missing (← peek).start
      else node false false fuel
      flowValue .flowMappingEnd fuel
      flowEntries since false fuel
    | _ =>
      node false false fuel
      missing (← peek).start
      flowEntries since false fuel

end

def directives (version : Bool) (handles : List (String × String)) :
    Nat → Building (List (String × String))
  | 0 => return handles
  | fuel + 1 => do
    let t ← peek
    match t.kind with
    | .versionDirective major minor =>
      if version then throw ⟨.duplicateVersion, t.start, none⟩
      if major ≠ 1 || (minor ≠ 1 && minor ≠ 2) then
        throw ⟨.incompatibleVersion, t.start, none⟩
      skip
      directives true handles fuel
    | .tagDirective handle lead =>
      if (handles.lookup handle).isSome then throw ⟨.duplicateTagDirective, t.start, none⟩
      skip
      directives version (handles ++ [(handle, lead)]) fuel
    | _ => return handles

def isDirective : TokenKind → Bool
  | .versionDirective _ _ | .tagDirective _ _ => true
  | _ => false

def defaultHandles : List (String × String) := [("!", "!"), ("!!", "tag:yaml.org,2002:")]

def content (fuel : Nat) : Building Unit := do
  let t ← peek
  match t.kind with
  | .versionDirective _ _ | .tagDirective _ _ | .documentStart | .documentEnd | .streamEnd =>
    missing t.start
  | _ => node true false fuel

def document (fuel : Nat) : Building Unit := do
  let t ← peek
  if t.kind = .streamEnd then return
  let given ← directives false [] fuel
  modify fun s => { s with handles := given ++ defaultHandles }
  if ← kindIn [.documentStart] then
    skip
    content fuel
  else if isDirective t.kind then throw ⟨.missingDocumentStart, (← peek).start, none⟩
  else node true false fuel
  let _ ← peek

/-- Passes over the ends of documents; tells whether there is anything behind them. -/
def moreFollows : Nat → Building Bool
  | 0 => return true
  | fuel + 1 => do
    match (← peek).kind with
    | .documentEnd =>
      skip
      moreFollows fuel
    | .streamEnd => return false
    | _ => return true

end Building

/-- The first document of a text: its events, the fault that ends them early, and whether anything
but comments stands behind it. The events before a fault may be looked at before the fault is met. -/
structure Document where
  events : List Event
  fault : Option Fault
  more : Bool

def Document.read (text : String) : Document :=
  let tokens := Tokens.scan text
  let fuel := 4 * tokens.list.length + 8
  let start : Builder := { tokens := tokens.list, fault := tokens.fault }
  match (Building.document fuel).run.run start with
  | (.error f, s) => ⟨s.events.reverse, some f, false⟩
  | (.ok (), s) =>
    match (Building.moreFollows fuel).run.run s with
    | (.ok more, _) => ⟨s.events.reverse, none, more⟩
    | (.error _, _) => ⟨s.events.reverse, none, true⟩

end CatalogRspec.Yaml

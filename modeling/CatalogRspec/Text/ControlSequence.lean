namespace CatalogRspec.Text

/-- Which sequence is being read. All parts of one that starts with a bracket are alike; of a device
control string, what stands before its body is read by rules of its own. -/
inductive ControlState where
  | ground
  | escape
  | intermediate
  | bracket
  | deviceEntry
  | deviceParameter
  | deviceIntermediate
  | string
  | command
deriving Repr, DecidableEq

namespace ControlState

def isSpacing (c : Char) : Bool := c == '\t' || c == '\n' || c == '\x0c' || c == '\r'

/-- Whether a character shows. Tabs and line breaks do so inside a short sequence too. -/
def shows (s : ControlState) (c : Char) : Bool :=
  match s with
  | .ground => isSpacing c || (0x20 ≤ c.toNat && c.toNat ≠ 0x7F)
  | .escape | .intermediate | .bracket => isSpacing c
  | _ => false

def endsString (c : Char) : Bool := (String.utf8EncodeChar c).contains 0x9C

def afterEscape (c : Char) : ControlState :=
  match c with
  | '[' => .bracket
  | ']' => .command
  | 'P' => .deviceEntry
  | 'X' | '^' | '_' => .string
  | c => if c.toNat < 0x30 then .intermediate else .ground

def afterVisible (s : ControlState) (c : Char) : ControlState :=
  match s with
  | .escape => afterEscape c
  | .intermediate => if c.toNat < 0x30 then .intermediate else .ground
  | .bracket => if c.toNat < 0x40 then .bracket else .ground
  | .deviceEntry =>
    if c.toNat < 0x30 then .deviceIntermediate
    else if c.toNat < 0x40 then .deviceParameter
    else .string
  | .deviceParameter =>
    if c.toNat < 0x30 then .deviceIntermediate
    else if c.toNat < 0x3C then .deviceParameter
    else .string
  | .deviceIntermediate => if c.toNat < 0x30 then .deviceIntermediate else .string
  | .ground | .string | .command => s

/-- The state after a character that does not show. -/
def step (s : ControlState) (c : Char) : ControlState :=
  let n := c.toNat
  if n = 0x1B then .escape
  else if n = 0x18 || n = 0x1A then .ground
  else if n < 0x20 || n = 0x7F then (if s = .command && n = 0x07 then .ground else s)
  else if n < 0x80 then s.afterVisible c
  else if s = .string && endsString c then .ground
  else s

end ControlState

/-- Once a character shows, so do those behind it up to the next control character, even where a
sequence is not yet complete. Characters beyond ASCII complete it. -/
def visibleFrom (s : ControlState) (showing : Bool) : List Char → List Char
  | [] => []
  | c :: rest =>
    if (if showing then ControlState.ground else s).shows c then
      c :: visibleFrom (if c.toNat < 0x80 then s else .ground) true rest
    else visibleFrom (s.step c) false rest

def visible (text : String) : String := String.ofList (visibleFrom .ground false text.toList)

end CatalogRspec.Text

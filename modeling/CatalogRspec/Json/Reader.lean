import CatalogRspec.Json.SyntaxError
import CatalogRspec.Json.Value
import CatalogRspec.Text.Digit

namespace CatalogRspec.Json.Reader

/-- An open array or object; elements are kept last first. -/
inductive Frame where
  | array (items : List Value)
  | object (members : Members) (key : String)

/-- Where a value is expected. -/
inductive Place where
  | document
  | afterBracket
  | afterComma
  | afterColon

/-- What a string is read for. -/
inductive Role where
  | key
  | value

/-- How far an escape in a string has been read. `high` is the first half of a surrogate pair. -/
inductive Escape where
  | none
  | started
  | hex (bytesLeft : Nat) (digits : List Char) (high : Option Nat)
  | lowStart (high : Nat)
  | lowMark (high : Nat)

/-- The last part of a number that has been read. The digits of a part that is full do not count any
more, as they would not fit with those before. -/
inductive NumberPart where
  | minus
  | zero
  | whole
  | fullWhole
  | point
  | fraction
  | fullFraction
  | exponentMark
  | exponentSign
  | exponent
  | vanished

/-- The digits of a number with the point left out, the power of ten that the last of them counts, and
the exponent. -/
structure NumberText where
  negative : Bool
  digits : Nat := 0
  scale : Int := 0
  exponentNegative : Bool := false
  exponent : Nat := 0

/-- What the next character belongs to. -/
inductive Mode where
  | value (place : Place)
  | word (rest : List Char) (value : Value)
  | number (part : NumberPart) (text : NumberText)
  | string (role : Role) (chars : List Char) (escape : Escape)
  | key (first : Bool)
  | colon
  | closing
  | done (value : Value)

/-- What is expected next, and the arrays and objects that are still open, the innermost first. -/
structure State where
  mode : Mode
  stack : List Frame

abbrev Step := Except (SyntaxFault × Nat) State

def start : State := ⟨.value .document, []⟩

/-- At most this many arrays and objects may be open. -/
def maxDepth : Nat := 127

def isSpace (c : Char) : Bool := c == ' ' || c == '\n' || c == '\t' || c == '\r'

def place (v : Value) : List Frame → State
  | [] => ⟨.done v, []⟩
  | .array items :: stack => ⟨.closing, .array (v :: items) :: stack⟩
  | .object members key :: stack => ⟨.closing, .object (members.insert key v) key :: stack⟩

def openArray (offset : Nat) (stack : List Frame) : Step :=
  if stack.length ≥ maxDepth then .error (.tooDeep, offset + 1)
  else .ok ⟨.value .afterBracket, .array [] :: stack⟩

def openObject (offset : Nat) (stack : List Frame) : Step :=
  if stack.length ≥ maxDepth then .error (.tooDeep, offset + 1)
  else .ok ⟨.key true, .object [] "" :: stack⟩

def stepValue (slot : Place) (stack : List Frame) (offset : Nat) (c : Char) : Step :=
  if isSpace c then .ok ⟨.value slot, stack⟩
  else
    match c with
    | 'n' => .ok ⟨.word ['u', 'l', 'l'] .null, stack⟩
    | 't' => .ok ⟨.word ['r', 'u', 'e'] (.bool true), stack⟩
    | 'f' => .ok ⟨.word ['a', 'l', 's', 'e'] (.bool false), stack⟩
    | '-' => .ok ⟨.number .minus { negative := true }, stack⟩
    | '"' => .ok ⟨.string .value [] .none, stack⟩
    | '[' => openArray offset stack
    | '{' => openObject offset stack
    | ']' =>
      match slot, stack with
      | .afterBracket, .array items :: rest => .ok (place (.array items.reverse) rest)
      | .afterComma, _ => .error (.trailingComma, offset + 1)
      | _, _ => .error (.expectedValue, offset + 1)
    | _ =>
      match Text.decimalValue? c with
      | some 0 => .ok ⟨.number .zero { negative := false }, stack⟩
      | some d => .ok ⟨.number .whole { negative := false, digits := d }, stack⟩
      | none => .error (.expectedValue, offset + 1)

def stepClosing (stack : List Frame) (offset : Nat) (c : Char) : Step :=
  if isSpace c then .ok ⟨.closing, stack⟩
  else
    match stack with
    | [] => .error (.trailingCharacters, offset + 1)
    | .array items :: rest =>
      if c = ',' then .ok ⟨.value .afterComma, stack⟩
      else if c = ']' then .ok (place (.array items.reverse) rest)
      else .error (.expectedListEnd, offset + 1)
    | .object members _ :: rest =>
      if c = ',' then .ok ⟨.key false, stack⟩
      else if c = '}' then .ok (place (.object members) rest)
      else .error (.expectedObjectEnd, offset + 1)

def stepPlaced (offset : Nat) (c : Char) : State → Step
  | ⟨.done v, stack⟩ =>
    if isSpace c then .ok ⟨.done v, stack⟩ else .error (.trailingCharacters, offset + 1)
  | ⟨_, stack⟩ => stepClosing stack offset c

/-- Digits are taken as long as 64 bits hold them. -/
def maxDigits : Nat := 0xFFFFFFFFFFFFFFFF

/-- Integers that are kept whole; with a sign only those below zero, down to the least of 64 bits. -/
def integer? (t : NumberText) : Option Int :=
  if t.negative then
    if 0 < t.digits ∧ t.digits ≤ 0x8000000000000000 then some (-Int.ofNat t.digits) else none
  else some (Int.ofNat t.digits)

def double? (t : NumberText) : Option Value :=
  let power : Int := if t.exponentNegative then -Int.ofNat t.exponent else Int.ofNat t.exponent
  (Binary64.approximate? t.negative ⟨t.digits, t.scale + power⟩).map fun x => .number (.double x)

def numberValue? (part : NumberPart) (t : NumberText) : Option Value :=
  match part with
  | .zero | .whole =>
    match integer? t with
    | some n => some (.number (.integer n))
    | none => double? t
  | .vanished => some (.number (.double (.zero t.negative)))
  | _ => double? t

def endNumber (part : NumberPart) (t : NumberText) (stack : List Frame) (offset : Nat)
    (c : Char) : Step :=
  match numberValue? part t with
  | some v => stepPlaced offset c (place v stack)
  | none => .error (.numberOutOfRange, offset)

/-- Written exponents beyond this lead to infinity or to zero. -/
def maxExponent : Nat := 2147483647

def stepExponent (t : NumberText) (stack : List Frame) (offset d : Nat) : Step :=
  let e := 10 * t.exponent + d
  if e ≤ maxExponent then .ok ⟨.number .exponent { t with exponent := e }, stack⟩
  else if t.digits ≠ 0 && !t.exponentNegative then .error (.numberOutOfRange, offset + 1)
  else .ok ⟨.number .vanished t, stack⟩

def stepNumber (part : NumberPart) (t : NumberText) (stack : List Frame) (offset : Nat)
    (c : Char) : Step :=
  let isMark := c == 'e' || c == 'E'
  match part, Text.decimalValue? c with
  | .minus, some 0 => .ok ⟨.number .zero t, stack⟩
  | .minus, some d => .ok ⟨.number .whole { t with digits := d }, stack⟩
  | .zero, some _ => .error (.invalidNumber, offset + 1)
  | .whole, some d =>
    if 10 * t.digits + d ≤ maxDigits then
      .ok ⟨.number .whole { t with digits := 10 * t.digits + d }, stack⟩
    else .ok ⟨.number .fullWhole { t with scale := t.scale + 1 }, stack⟩
  | .fullWhole, some _ => .ok ⟨.number .fullWhole { t with scale := t.scale + 1 }, stack⟩
  | .point, some d | .fraction, some d =>
    if 10 * t.digits + d ≤ maxDigits then
      .ok ⟨.number .fraction { t with digits := 10 * t.digits + d, scale := t.scale - 1 }, stack⟩
    else .ok ⟨.number .fullFraction t, stack⟩
  | .fullFraction, some _ => .ok ⟨.number .fullFraction t, stack⟩
  | .exponentMark, some d | .exponentSign, some d | .exponent, some d => stepExponent t stack offset d
  | .vanished, some _ => .ok ⟨.number .vanished t, stack⟩
  | .minus, none | .point, none | .exponentSign, none => .error (.invalidNumber, offset + 1)
  | .exponentMark, none =>
    if c = '+' then .ok ⟨.number .exponentSign t, stack⟩
    else if c = '-' then .ok ⟨.number .exponentSign { t with exponentNegative := true }, stack⟩
    else .error (.invalidNumber, offset + 1)
  | .zero, none | .whole, none | .fullWhole, none =>
    if c = '.' then .ok ⟨.number .point t, stack⟩
    else if isMark then .ok ⟨.number .exponentMark t, stack⟩
    else endNumber part t stack offset c
  | .fraction, none | .fullFraction, none =>
    if isMark then .ok ⟨.number .exponentMark t, stack⟩ else endNumber part t stack offset c
  | .exponent, none | .vanished, none => endNumber part t stack offset c

def endString (role : Role) (chars : List Char) (stack : List Frame) : State :=
  let s := String.ofList chars.reverse
  match role, stack with
  | .key, .object members _ :: rest => ⟨.colon, .object members s :: rest⟩
  | _, _ => place (.string s) stack

def simpleEscape? (c : Char) : Option Char :=
  match c with
  | '"' | '\\' | '/' => some c
  | 'b' => some '\x08'
  | 'f' => some '\x0c'
  | 'n' => some '\n'
  | 'r' => some '\r'
  | 't' => some '\t'
  | _ => none

def endHex (role : Role) (chars : List Char) (high : Option Nat) (digits : List Char)
    (stack : List Frame) (offset : Nat) : Step :=
  match Text.readDigits? Text.hexValue? 16 digits with
  | none => .error (.invalidEscape, offset)
  | some n =>
    match high with
    | none =>
      if 0xDC00 ≤ n && n ≤ 0xDFFF then .error (.loneSurrogate, offset)
      else if 0xD800 ≤ n && n ≤ 0xDBFF then .ok ⟨.string role chars (.lowStart n), stack⟩
      else .ok ⟨.string role (Char.ofNat n :: chars) .none, stack⟩
    | some h =>
      if 0xDC00 ≤ n && n ≤ 0xDFFF then
        let point := 0x10000 + (h - 0xD800) * 0x400 + (n - 0xDC00)
        .ok ⟨.string role (Char.ofNat point :: chars) .none, stack⟩
      else .error (.loneSurrogate, offset)

/-- The digits of an escape are the next four bytes, whatever characters these belong to. -/
def stepHex (role : Role) (chars : List Char) (bytesLeft : Nat) (digits : List Char)
    (high : Option Nat) (stack : List Frame) (offset : Nat) (c : Char) : Step :=
  if c.utf8Size < bytesLeft then
    .ok ⟨.string role chars (.hex (bytesLeft - c.utf8Size) (digits ++ [c]) high), stack⟩
  else endHex role chars high (digits ++ [c]) stack (offset + bytesLeft)

def stepString (role : Role) (chars : List Char) (escape : Escape) (stack : List Frame)
    (offset : Nat) (c : Char) : Step :=
  match escape with
  | .none =>
    if c = '"' then .ok (endString role chars stack)
    else if c = '\\' then .ok ⟨.string role chars .started, stack⟩
    else if c.toNat < 0x20 then .error (.controlCharacter, offset + 1)
    else .ok ⟨.string role (c :: chars) .none, stack⟩
  | .started =>
    if c = 'u' then .ok ⟨.string role chars (.hex 4 [] none), stack⟩
    else
      match simpleEscape? c with
      | some d => .ok ⟨.string role (d :: chars) .none, stack⟩
      | none => .error (.invalidEscape, offset + 1)
  | .hex bytesLeft digits high => stepHex role chars bytesLeft digits high stack offset c
  | .lowStart high =>
    if c = '\\' then .ok ⟨.string role chars (.lowMark high), stack⟩
    else .error (.endInEscape, offset + 1)
  | .lowMark high =>
    if c = 'u' then .ok ⟨.string role chars (.hex 4 [] (some high)), stack⟩
    else .error (.endInEscape, offset + 1)

def stepKey (first : Bool) (stack : List Frame) (offset : Nat) (c : Char) : Step :=
  if isSpace c then .ok ⟨.key first, stack⟩
  else if c = '"' then .ok ⟨.string .key [] .none, stack⟩
  else if c = '}' then
    match first, stack with
    | true, .object members _ :: rest => .ok (place (.object members) rest)
    | _, _ => .error (.trailingComma, offset + 1)
  else .error (.keyNotString, offset + 1)

def stepWord (rest : List Char) (v : Value) (stack : List Frame) (offset : Nat) (c : Char) : Step :=
  match rest with
  | d :: ds =>
    if c ≠ d then .error (.expectedWord, offset + 1)
    else if ds.isEmpty then .ok (place v stack)
    else .ok ⟨.word ds v, stack⟩
  | [] => stepPlaced offset c (place v stack)

/-- Reads the character that starts at byte `offset`. -/
def step (s : State) (offset : Nat) (c : Char) : Step :=
  match s.mode with
  | .value slot => stepValue slot s.stack offset c
  | .word rest v => stepWord rest v s.stack offset c
  | .number part t => stepNumber part t s.stack offset c
  | .string role chars escape => stepString role chars escape s.stack offset c
  | .key first => stepKey first s.stack offset c
  | .colon =>
    if isSpace c then .ok s
    else if c = ':' then .ok ⟨.value .afterColon, s.stack⟩
    else .error (.expectedColon, offset + 1)
  | .closing => stepClosing s.stack offset c
  | .done _ => stepPlaced offset c s

def run (s : State) (offset : Nat) : List Char → Except (SyntaxFault × Nat) (State × Nat)
  | [] => .ok (s, offset)
  | c :: cs => do
    let s ← step s offset c
    run s (offset + c.utf8Size) cs

def endFault : List Frame → SyntaxFault
  | .object _ _ :: _ => .endInObject
  | _ => .endInList

def finish (s : State) : Except SyntaxFault Value :=
  match s.mode with
  | .done v => .ok v
  | .value .afterBracket => .error .endInList
  | .value _ | .word _ _ => .error .endInValue
  | .string _ _ _ => .error .endInString
  | .key true | .colon => .error .endInObject
  | .key false => .error .endInValue
  | .closing => .error (endFault s.stack)
  | .number part t =>
    match part with
    | .minus | .point | .exponentMark | .exponentSign => .error .endInValue
    | _ =>
      match numberValue? part t, s.stack with
      | none, _ => .error .numberOutOfRange
      | some v, [] => .ok v
      | some _, stack => .error (endFault stack)

end Reader

def Value.parse (text : String) : Except SyntaxError Value :=
  let chars := text.toList
  match Reader.run Reader.start 0 chars with
  | .error (fault, offset) => .error (.ofOffset chars fault offset)
  | .ok (s, offset) =>
    match Reader.finish s with
    | .ok v => .ok v
    | .error fault => .error (.ofOffset chars fault offset)

end CatalogRspec.Json

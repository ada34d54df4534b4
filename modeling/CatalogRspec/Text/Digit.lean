namespace CatalogRspec.Text

def hexValue? (c : Char) : Option Nat :=
  if '0' ≤ c && c ≤ '9' then some (c.toNat - '0'.toNat)
  else if 'a' ≤ c && c ≤ 'f' then some (c.toNat - 'a'.toNat + 10)
  else if 'A' ≤ c && c ≤ 'F' then some (c.toNat - 'A'.toNat + 10)
  else none

def decimalValue? (c : Char) : Option Nat :=
  if '0' ≤ c && c ≤ '9' then some (c.toNat - '0'.toNat) else none

/-- Reads digits most significant first; `none` if one of them is no digit of the base. -/
def readDigits? (value? : Char → Option Nat) (base : Nat) (digits : List Char) : Option Nat :=
  digits.foldlM (fun n c => (value? c).map (base * n + ·)) 0

def hexDigit (n : Nat) : Char := ("0123456789abcdef".toList)[n % 16]?.getD '0'

/-- The `width` low hexadecimal digits of `n`, most significant first. -/
def lowerHex : Nat → Nat → List Char
  | 0, _ => []
  | width + 1, n => lowerHex width (n / 16) ++ [hexDigit n]

def upperHex (width n : Nat) : List Char := (lowerHex width n).map Char.toUpper

end CatalogRspec.Text

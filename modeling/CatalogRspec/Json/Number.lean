import CatalogRspec.Json.Binary64

namespace CatalogRspec.Json

/-- An integer of 64 bits with or without sign, or a double. -/
inductive Number where
  | integer (n : Int)
  | double (x : Binary64)
deriving Repr, DecidableEq

def trimZeros (digits : List Char) : List Char :=
  match (digits.reverse.dropWhile (· == '0')).reverse with
  | [] => ['0']
  | ds => ds

/-- Digits around a point, with at least one on either side; the first digit counts `10 ^ lead`. -/
def positional (digits : List Char) (lead : Int) : List Char :=
  if lead < 0 then "0.".toList ++ List.replicate ((-lead).toNat - 1) '0' ++ digits
  else
    let whole := lead.toNat + 1
    let fraction := digits.drop whole
    digits.take whole ++ List.replicate (whole - digits.length) '0' ++ ['.'] ++
      (if fraction.isEmpty then ['0'] else fraction)

def scientific (digits : List Char) (lead : Int) : List Char :=
  digits.take 1 ++ (if digits.length ≤ 1 then [] else '.' :: digits.drop 1) ++ ['e'] ++
    (if lead < 0 then ['-'] else ['+']) ++ lead.natAbs.repr.toList

/-- Doubles are written positionally if the first digit counts from `10 ^ -5` to `10 ^ 15`. -/
def Binary64.text (x : Binary64) : String :=
  let sign := if x.negative then ['-'] else []
  if x.significand = 0 then String.ofList (sign ++ "0.0".toList)
  else
    let d := x.shortest
    let digits := d.digits.repr.toList
    let lead := d.scale + Int.ofNat digits.length - 1
    let digits := trimZeros digits
    String.ofList
      (sign ++ if -5 ≤ lead && lead ≤ 15 then positional digits lead else scientific digits lead)

def Number.text : Number → String
  | .integer n => n.repr
  | .double x => x.text

end CatalogRspec.Json

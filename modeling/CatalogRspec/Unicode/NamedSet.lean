import CatalogRspec.Text.Digit
import CatalogRspec.Unicode.RangeSet

namespace CatalogRspec.Unicode

/--
A set of characters under the names it goes by, which are in lower case and without separators.
The ranges are hexadecimal code points, `41-5A` or `41`, with a space between two of a row.
-/
structure NamedSet where
  names : List String
  rows : List String

namespace NamedSet

def readPoint (digits : List Char) : Nat := (Text.readDigits? Text.hexValue? 16 digits).getD 0

def readRange (text : List Char) : Nat × Nat :=
  match text.splitOn '-' with
  | [a, b] => (readPoint a, readPoint b)
  | _ => (readPoint text, readPoint text)

def readRow (row : String) : List (Nat × Nat) := (row.toList.splitOn ' ').map readRange

def toRangeSet (s : NamedSet) : RangeSet := s.rows.flatMap readRow

def find? (table : List NamedSet) (name : String) : Option RangeSet :=
  (table.find? (·.names.contains name)).map toRangeSet

end NamedSet

end CatalogRspec.Unicode

import CatalogRspec.Unicode.BinaryProperty
import CatalogRspec.Unicode.GeneralCategory

namespace CatalogRspec.Unicode

/-- The characters that gain a property in version 17 of the standard, and those that lose it. The
tables hold version 16, which patterns go by; case mappings and quoted texts go by version 17. -/
structure Revision where
  gained : List String
  lost : List String := []

def Revision.apply (r : Revision) (s : RangeSet) : RangeSet :=
  (RangeSet.union s (r.gained.flatMap NamedSet.readRow)).diff (r.lost.flatMap NamedSet.readRow)

def binaryProperty (name : String) : RangeSet := (NamedSet.find? binaryProperties name).getD []

/-- The characters of several categories, by the short names of these. -/
def inCategories (names : List String) : RangeSet :=
  RangeSet.ofRanges (names.flatMap fun n => (NamedSet.find? generalCategories n).getD [])

def alphabeticSet : RangeSet :=
  Revision.apply
    ⟨["88F C5C CDC A7CE-A7CF A7D2 A7D4 A7F1 10940-10959 10EC5-10EC7 10EFA-10EFB 11B60-11B67",
      "11DB0-11DDB 16EA0-16EB8 16EBB-16ED3 16FF2-16FF6 187F8-187FF 18D09-18D1E 18D80-18DF2",
      "1E6C0-1E6DE 1E6E0-1E6F5 1E6FE-1E6FF 2B73A-2B73F 2CEA2-2CEAD 323B0-33479"], []⟩
    (binaryProperty "alphabetic")

def numericSet : RangeSet :=
  Revision.apply ⟨["11DE0-11DE9 16FF4-16FF6"], []⟩ (inCategories ["nd", "nl", "no"])

def casedSet : RangeSet :=
  Revision.apply ⟨["A7CE-A7CF A7D2 A7D4 A7F1 16EA0-16EB8 16EBB-16ED3"], ["295"]⟩
    (binaryProperty "cased")

def caseIgnorableSet : RangeSet :=
  Revision.apply
    ⟨["1ACF-1ADD 1AE0-1AEB A7F1 10EC5 10EFA-10EFB 11B60 11B62-11B64 11B66 11DD9 16FF2-16FF3 1E6E3",
      "1E6E6 1E6EE-1E6EF 1E6F5 1E6FF"], []⟩
    (binaryProperty "caseignorable")

def graphemeExtendSet : RangeSet :=
  Revision.apply
    ⟨["1ACF-1ADD 1AE0-1AEB 10EFA-10EFB 11B60 11B62-11B64 11B66 1E6E3 1E6E6 1E6EE-1E6EF 1E6F5"], []⟩
    (binaryProperty "graphemeextend")

/-- Letters, marks, numbers, punctuation, symbols and the plain space. -/
def printableSet : RangeSet :=
  Revision.apply
    ⟨["20 88F C5C CDC 1ACF-1ADD 1AE0-1AEB 20C1 2B96 A7CE-A7CF A7D2 A7D4 A7F1 FBC3-FBD2 FD90-FD91",
      "FDC8-FDCE 10940-10959 10EC5-10EC7 10ED0-10ED8 10EFA-10EFB 11B60-11B67 11DB0-11DDB",
      "11DE0-11DE9 16EA0-16EB8 16EBB-16ED3 16FF2-16FF6 187F8-187FF 18D09-18D1E 18D80-18DF2",
      "1CCFA-1CCFC 1CEBA-1CED0 1CEE0-1CEF0 1E6C0-1E6DE 1E6E0-1E6F5 1E6FE-1E6FF 1F6D8 1F777-1F77A",
      "1F8D0-1F8D8 1FA54-1FA57 1FA8A 1FA8E 1FAC8 1FACD 1FAEA 1FAEF 1FBFA 2B73A-2B73F 2CEA2-2CEAD",
      "323B0-33479"], []⟩
    (inCategories ["lu", "ll", "lt", "lm", "lo", "mn", "mc", "me", "nd", "nl", "no", "pc", "pd", "ps",
      "pe", "pi", "pf", "po", "sm", "sc", "sk", "so"])

end CatalogRspec.Unicode

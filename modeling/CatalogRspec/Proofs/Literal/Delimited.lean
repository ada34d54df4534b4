import CatalogRspec.Proofs.Literal.ReadBack

namespace CatalogRspec.Literal

open Text

def scalar? (n : Nat) : Option Char := if n.isValidChar then some (Char.ofNat n) else none

/-- The body of a double-quoted string, and the text behind the closing quote. Behind a backslash
stands one of the short escapes, or `u` and four hexadecimal digits; no `#` stands before what would
make it an interpolation. -/
def readWritten : List Char → Option (List Char × List Char)
  | [] => none
  | '"' :: s => some ([], s)
  | '\\' :: 'u' :: a :: b :: c :: d :: s => do
    let n ← readDigits? hexValue? 16 [a, b, c, d]
    let e ← scalar? n
    (readWritten s).map (mapRead (e :: ·))
  | '\\' :: d :: s => do
    let c ← shortEscapes.lookup d
    (readWritten s).map (mapRead (c :: ·))
  | c :: s =>
    if c = '#' ∧ s.head?.any ['{', '$', '@'].contains then none
    else (readWritten s).map (mapRead (c :: ·))

def readDoubleQuoted : List Char → Option (String × List Char)
  | '"' :: s => (readWritten s).map (mapRead String.ofList)
  | _ => none

def readSingleQuoted : List Char → Option (String × List Char)
  | '\'' :: s => (readSingle s).map (mapRead String.ofList)
  | _ => none

theorem scalar?_of_lt {n : Nat} (h : n < 0xA0) : scalar? n = some (Char.ofNat n) := by
  have hvalid : n.isValidChar := .inl (by omega)
  exact if_pos hvalid

theorem readWritten_quote (s : List Char) : readWritten ('"' :: s) = some ([], s) := by
  rw [readWritten]

theorem readWritten_short {d c : Char} (h : (d, c) ∈ shortEscapes) (s : List Char) :
    readWritten ('\\' :: d :: s) = (readWritten s).map (mapRead (c :: ·)) := by
  have hall : ∀ p ∈ shortEscapes, p.1 ≠ 'u' ∧ shortEscapes.lookup p.1 = some p.2 := by decide
  obtain ⟨hu, hlookup⟩ := hall (d, c) h
  rw [readWritten, hlookup]
  · rfl
  · intro a b e f t hd
    exact absurd hd hu

theorem readWritten_hex {a b c d : Char} {n : Nat} (hn : n < 0xA0)
    (h : readDigits? hexValue? 16 [a, b, c, d] = some n) (s : List Char) :
    readWritten ('\\' :: 'u' :: a :: b :: c :: d :: s) =
      (readWritten s).map (mapRead (Char.ofNat n :: ·)) := by
  have hscalar := scalar?_of_lt hn
  rw [readWritten, h]
  simp only [Option.bind_eq_bind, Option.bind_some, hscalar]

theorem any_head?_eq (s : List Char) :
    s.head?.any ['{', '$', '@'].contains = startsInterpolation s := by
  cases s with
  | nil => rfl
  | cons c s =>
    rw [startsInterpolation_cons, List.head?_cons, Option.any_some, List.contains_cons,
      List.contains_cons, List.contains_cons, List.contains_nil, Bool.or_false, Bool.or_assoc]

theorem readWritten_plain {c : Char} {s : List Char} (hb : c ≠ '\\') (hq : c ≠ '"')
    (hi : ¬(c = '#' ∧ startsInterpolation s = true)) :
    readWritten (c :: s) = (readWritten s).map (mapRead (c :: ·)) := by
  rw [readWritten, any_head?_eq, if_neg hi]
  · exact hq
  · intro a b d e t hc
    exact absurd hc hb
  · intro d t hc
    exact absurd hc hb

theorem takesForms_readWritten : TakesForms readWritten where
  quote := readWritten_quote
  short := readWritten_short
  hex := readWritten_hex
  plain := readWritten_plain

theorem readDoubleQuoted_append (text : String) (rest : List Char) :
    readDoubleQuoted ((doubleQuoted text).toList ++ rest) = some (text, rest) := by
  have hbody := takesForms_readWritten.read_doubleBody text.toList rest
  have hshape : (doubleQuoted text).toList ++ rest =
      '"' :: (doubleBody text.toList ++ '"' :: rest) := by
    simp [toList_doubleQuoted]
  rw [hshape, readDoubleQuoted, hbody, Option.map_some, mapRead, String.ofList_toList]

theorem readSingleQuoted_append (text : String) (rest : List Char) :
    readSingleQuoted ((singleQuoted text).toList ++ rest) = some (text, rest) := by
  have hbody := readSingle_backslashed text.toList rest
  rw [toList_singleQuoted_append, readSingleQuoted, hbody, Option.map_some, mapRead,
    String.ofList_toList]

/-- What is read back whatever follows it is never mistaken, nor is what follows it. -/
theorem injective_append_of_reads {write : String → List Char}
    {read : List Char → Option (String × List Char)}
    (h : ∀ text rest, read (write text ++ rest) = some (text, rest)) :
    Function.Injective fun p : String × List Char => write p.1 ++ p.2 := by
  intro p q heq
  have hp := h p.1 p.2
  have hq := h q.1 q.2
  dsimp only at heq
  rw [heq, hq] at hp
  exact (Option.some.inj hp).symm

theorem isControl_eq_false_iff (c : Char) :
    isControl c = false ↔ 0x20 ≤ c.toNat ∧ (c.toNat < 0x7F ∨ 0x9F < c.toNat) := by
  simp only [isControl, Bool.or_eq_false_iff, Bool.and_eq_false_iff, decide_eq_false_iff_not]
  omega

/-- A double-quoted string ends where it was written to end, whatever it holds and whatever follows
it, and reads as its text without any interpolation. No control character stands in it, so that it is
on one line. -/
theorem readDoubleQuoted_doubleQuoted (text : String) :
    (∀ rest, readDoubleQuoted ((doubleQuoted text).toList ++ rest) = some (text, rest)) ∧
    (∀ other rest rest', (doubleQuoted text).toList ++ rest = (doubleQuoted other).toList ++ rest' →
      text = other ∧ rest = rest') ∧
    (∀ c ∈ (doubleQuoted text).toList, 0x20 ≤ c.toNat ∧ (c.toNat < 0x7F ∨ 0x9F < c.toNat)) ∧
    '\n' ∉ (doubleQuoted text).toList := by
  have hcontrol : ∀ c ∈ (doubleQuoted text).toList, isControl c = false := by
    intro c hc
    rw [toList_doubleQuoted] at hc
    simp only [List.mem_cons, List.mem_append, List.not_mem_nil, or_false] at hc
    rcases hc with rfl | hbody | rfl
    · rfl
    · exact isControl_doubleBody hbody
    · rfl
  refine ⟨readDoubleQuoted_append text, fun other rest rest' heq => ?_, fun c hc => ?_, ?_⟩
  · have hinjective := injective_append_of_reads readDoubleQuoted_append
    exact Prod.mk.inj (@hinjective (text, rest) (other, rest') heq)
  · exact (isControl_eq_false_iff c).mp (hcontrol c hc)
  · exact fun hbreak => absurd (hcontrol '\n' hbreak) (by decide)

/-- Marks in a row, with control characters between digits. -/
theorem readDoubleQuoted_doubleQuoted_of_marks :
    let text := "##\x7b\\#$\\\"\x001\x1b\n@#"
    let rest := "@x\"".toList
    doubleQuoted text = "\"#\\#\x7b\\\\\\#$\\\\\\\"\\u00001\\e\\n@#\"" ∧
      readDoubleQuoted ((doubleQuoted text).toList ++ rest) = some (text, rest) ∧
      '\\' ∈ (doubleQuoted text).toList ∧ 0x20 ≤ '\\'.toNat := by
  intro text rest
  obtain ⟨hread, -, hplain, -⟩ := readDoubleQuoted_doubleQuoted text
  have hslash : '\\' ∈ (doubleQuoted text).toList := by decide +kernel
  exact ⟨by decide +kernel, hread rest, hslash, (hplain '\\' hslash).1⟩

/-- A single-quoted string ends where it was written to end, whatever it holds and whatever follows
it. The two replacements behind it are one pass over its text. -/
theorem readSingleQuoted_singleQuoted :
    (∀ text rest, readSingleQuoted ((singleQuoted text).toList ++ rest) = some (text, rest)) ∧
    (∀ text, (escapeSingle text).toList =
      text.toList.flatMap fun c => if c = '\\' ∨ c = '\'' then ['\\', c] else [c]) ∧
    Function.Injective fun p : String × List Char => (singleQuoted p.1).toList ++ p.2 := by
  have hinjective := injective_append_of_reads readSingleQuoted_append
  exact ⟨readSingleQuoted_append, toList_escapeSingle_flatMap, hinjective⟩

/-- Backslashes before quotes and at the end do not change where the literal ends. -/
example : readSingleQuoted ((singleQuoted "\\'\\\\'\\").toList ++ "'\\".toList) =
    some ("\\'\\\\'\\", "'\\".toList) := by decide +kernel

end CatalogRspec.Literal

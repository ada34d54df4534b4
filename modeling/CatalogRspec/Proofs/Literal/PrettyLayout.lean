import CatalogRspec.Proofs.Literal.KeyWidth
import CatalogRspec.Proofs.Literal.Nesting
import CatalogRspec.Proofs.Literal.PrettyReadBack
import Mathlib.Algebra.Order.Ring.Nat

namespace CatalogRspec.Literal

open Json Text

/-- Rows on lines of their own, with a comma behind each row but the last. -/
def rows : List (List Char) → List Char
  | [] => []
  | [row] => '\n' :: row
  | row :: next :: rest => '\n' :: (row ++ ',' :: rows (next :: rest))

def leading (depth : Nat) : List Char := List.replicate (2 * depth) ' '

/-- Rows between brackets, and the closing bracket on a line of its own. -/
def enclosed (opening closing : Char) (depth : Nat) (rs : List (List Char)) : List Char :=
  opening :: (rows rs ++ '\n' :: (leading depth ++ [closing]))

/-- An entry of a hash, written as `text` behind its key, a gap of spaces and the arrow. -/
structure HashRow where
  name : String
  gap : Nat
  value : Value
  text : List Char

def HashRow.front (depth : Nat) (r : HashRow) : List Char :=
  leading depth ++ ((hashKey r.name).toList ++ List.replicate r.gap ' ')

def HashRow.line (depth : Nat) (r : HashRow) : List Char :=
  r.front depth ++ '=' :: '>' :: ' ' :: r.text

def parts : Value → List Value
  | .array items => items
  | .object members => members.map (·.2)
  | _ => []

/-- The text is the layout of the value, at this depth. In a hash all arrows stand in one column,
and the key that comes closest to it is one space away. -/
inductive LaidOut : Nat → Value → List Char → Prop
  | inline {depth : Nat} {v : Value} (hempty : parts v = []) : LaidOut depth v (inspect v).toList
  | array {depth : Nat} {items : List (Value × List Char)} (hne : items ≠ [])
      (hitems : ∀ i ∈ items, LaidOut (depth + 1) i.1 i.2) :
      LaidOut depth (.array (items.map (·.1)))
        (enclosed '[' ']' depth (items.map fun i => leading (depth + 1) ++ i.2))
  | hash {depth column : Nat} {entries : List HashRow} (hne : entries ≠ [])
      (hvalues : ∀ r ∈ entries, LaidOut (depth + 1) r.value r.text)
      (hcolumn : ∀ r ∈ entries, (r.front (depth + 1)).length = column)
      (hgaps : ∀ r ∈ entries, 1 ≤ r.gap) (hlongest : ∃ r ∈ entries, r.gap = 1) :
      LaidOut depth (.object (entries.map fun r => (r.name, r.value)))
        (enclosed '{' '}' depth (entries.map (HashRow.line (depth + 1))))

mutual

/-- The number of lines that a value takes: two for its brackets and those of what is in it, and one
if there is nothing in it. -/
def height : Value → Nat
  | .array items => if items.isEmpty then 1 else 2 + itemsHeight items
  | .object members => if members.isEmpty then 1 else 2 + membersHeight members
  | _ => 1

def itemsHeight : List Value → Nat
  | [] => 0
  | v :: rest => height v + itemsHeight rest

def membersHeight : List (String × Value) → Nat
  | [] => 0
  | (_, v) :: rest => height v + membersHeight rest

end

section Printed

def HashRow.ofMember (depth width : Nat) (m : String × Value) : HashRow :=
  ⟨m.1, width - (hashKey m.1).length + 1, m.2, (pretty depth m.2).toList⟩

end Printed

section Lines

end Lines

section Indentation

variable {around : List Char}

theorem isClosed_doubleQuoted (s : String) : IsClosed (doubleQuoted s).toList := by
  rw [toList_doubleQuoted]
  exact isClosed_quoted (inert_doubleBody _)

theorem isClosed_hashKey (s : String) : IsClosed (hashKey s).toList := by
  unfold hashKey
  split
  · next h =>
    have hcolon : IsClosed [':'] := isClosed_of_no_mark (by decide)
    have hname : IsClosed s.toList := isClosed_of_class (isNameChar_of_isSymbolName h) (by decide)
    rw [String.toList_append]
    exact hcolon.append hname
  · exact isClosed_doubleQuoted s

theorem fits_number (n : Number) : Fits around n.text.toList := by
  have hnumber := n.isNumberText_text
  have hall := hnumber.2
  obtain ⟨c, t, heq, -⟩ := hnumber.1
  have hword := isWordChar_of_isNumberChar (hall c (heq ▸ List.mem_cons_self))
  have hclosed : IsClosed n.text.toList := isClosed_of_class hall (by decide)
  exact fits_of_no_break hclosed (no_break_of_isNumberText hnumber) ⟨c, t, heq, (word_start hword).1⟩

theorem fits_inspect {v : Value} (h : parts v = []) : Fits around (inspect v).toList := by
  have hword {s : List Char} (hmark : ∀ c ∈ s, c ∉ marks) (hbreak : '\n' ∉ s) (hopens : Opens s) :
      Fits around s := fits_of_no_break (isClosed_of_no_mark hmark) hbreak hopens
  cases v with
  | null => exact hword (by decide) (by decide) ⟨'n', _, rfl, rfl⟩
  | bool b =>
    cases b
    · exact hword (by decide) (by decide) ⟨'f', _, rfl, rfl⟩
    · exact hword (by decide) (by decide) ⟨'t', _, rfl, rfl⟩
  | number n => exact fits_number n
  | string s =>
    have hopens : Opens (doubleQuoted s).toList := ⟨'"', _, toList_doubleQuoted s, rfl⟩
    exact fits_of_no_break (isClosed_doubleQuoted s) (no_break_doubleQuoted s) hopens
  | array items =>
    rw [show items = [] from h]
    exact fits_of_no_break ⟨rfl, fun _ => rfl⟩ (by decide) ⟨'[', _, rfl, rfl⟩
  | object ms =>
    rw [List.map_eq_nil_iff.mp h]
    exact fits_of_no_break ⟨rfl, fun _ => rfl⟩ (by decide) ⟨'{', _, rfl, rfl⟩

/-- A row on its line: the text in it fits behind the spaces. -/
def IsRow (around row : List Char) : Prop :=
  ∃ t, row = leading around.length ++ t ∧ Fits around t

theorem isRow_line {r : HashRow} (h : Fits around r.text) :
    IsRow around (r.line around.length) := by
  let arrow := List.replicate r.gap ' ' ++ ['=', '>', ' ']
  have harrow : IsClosed arrow := (isClosed_spaces r.gap).append (isClosed_of_no_mark (by decide))
  have hbreak : '\n' ∉ (hashKey r.name).toList ++ arrow := by
    simpa [arrow] using no_break_hashKey r.name
  have hopens : Opens ((hashKey r.name).toList ++ arrow) := by
    obtain ⟨c, s, heq, hc⟩ := (denotesKey_hashKey r.name).1
    exact ⟨c, s ++ arrow, by rw [heq, List.cons_append], hc⟩
  refine ⟨_, ?_, h.behind ((isClosed_hashKey r.name).append harrow) hbreak hopens⟩
  simp [HashRow.line, HashRow.front, arrow]

theorem IsRow.indented {row : List Char} (h : IsRow around row) :
    IsClosed ('\n' :: row) ∧ IsIndented around ('\n' :: row) := by
  obtain ⟨t, rfl, ht⟩ := h
  obtain ⟨c, s, rfl, hc⟩ := ht.starts
  obtain ⟨hspace, hbreak, hnone⟩ := of_opens hc
  have hline : IsClosed ('\n' :: leading around.length) := isClosed_break.append (isClosed_spaces _)
  refine ⟨hline.append ht.closed, isIndented_line hspace hbreak ?_ ht.indented⟩
  rw [hnone]
  rfl

theorem indented_rows {rs : List (List Char)} (h : ∀ r ∈ rs, IsRow around r) :
    IsClosed (rows rs) ∧ IsIndented around (rows rs) := by
  induction rs with
  | nil => exact ⟨isClosed_of_no_mark (by simp [rows]), isIndented_of_no_break (by simp [rows])⟩
  | cons r rs ih =>
    have hrow := (h r List.mem_cons_self).indented
    cases rs with
    | nil => exact hrow
    | cons next rest =>
      have hrest := ih fun s hs => h s (List.mem_cons_of_mem r hs)
      have hcomma : IsClosed [','] := isClosed_of_no_mark (by decide)
      have htail : IsIndented around (',' :: rows (next :: rest)) :=
        (isIndented_of_no_break (s := [',']) (by decide)).append_closed hcomma hrest.2
      exact ⟨hrow.1.append (hcomma.append hrest.1), hrow.2.append_closed hrow.1 htail⟩

theorem fits_enclosed {opening closing : Char} (h : opener? closing = some opening)
    {rs : List (List Char)} (hrs : ∀ r ∈ rs, IsRow (opening :: around) r) :
    Fits around (enclosed opening closing around.length rs) := by
  obtain ⟨hrows, hindented⟩ := indented_rows hrs
  exact fits_wrapped h hrows hindented

theorem LaidOut.fits {depth : Nat} {v : Value} {t : List Char} (h : LaidOut depth v t)
    (hdepth : around.length = depth) : Fits around t := by
  induction h generalizing around with
  | inline hempty => exact fits_inspect hempty
  | @array depth items hne hitems ih =>
    subst hdepth
    refine fits_enclosed rfl fun row hrow => ?_
    obtain ⟨i, hi, rfl⟩ := List.mem_map.mp hrow
    exact ⟨i.2, rfl, ih i hi rfl⟩
  | @hash depth column entries hne hvalues hcolumn hgaps hlongest ih =>
    subst hdepth
    refine fits_enclosed rfl fun row hrow => ?_
    obtain ⟨r, hr, rfl⟩ := List.mem_map.mp hrow
    exact isRow_line (ih r hr rfl)

end Indentation

end CatalogRspec.Literal

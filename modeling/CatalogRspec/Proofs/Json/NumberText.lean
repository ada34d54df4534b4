import CatalogRspec.Json.Number
import CatalogRspec.Proofs.Text.AllChars

namespace CatalogRspec.Json

def isNumberChar (c : Char) : Bool := c.isDigit || c == '-' || c == '+' || c == '.' || c == 'e'

/-- A text that begins like a number and goes on like one. -/
def IsNumberText (s : List Char) : Prop :=
  (∃ c t, s = c :: t ∧ (c.isDigit || c == '-') = true) ∧ ∀ c ∈ s, isNumberChar c = true

def IsDigits (s : List Char) : Prop := s ≠ [] ∧ ∀ c ∈ s, c.isDigit = true

theorem isDigits_repr (n : Nat) : IsDigits n.repr.toList := by
  rw [Nat.repr, String.toList_ofList]
  refine ⟨?_, fun c hc => Nat.isDigit_of_mem_toDigits (by decide) (by decide) hc⟩
  intro h
  have hpos : 0 < (Nat.toDigits 10 n).length := Nat.length_toDigits_pos
  simp [h] at hpos

theorem isDigits_trimZeros {s : List Char} (h : ∀ c ∈ s, c.isDigit = true) :
    IsDigits (trimZeros s) := by
  unfold trimZeros
  split
  · exact ⟨by simp, by decide⟩
  · next hne =>
    refine ⟨hne, fun c hc => h c ?_⟩
    rw [List.mem_reverse] at hc
    exact List.mem_reverse.mp ((List.dropWhile_sublist _).mem hc)

theorem isNumberChar_of_isDigit {c : Char} (h : c.isDigit = true) : isNumberChar c = true := by
  simp [isNumberChar, h]

theorem IsDigits.isNumberText_append {s t : List Char} (h : IsDigits s)
    (ht : ∀ c ∈ t, isNumberChar c = true) : IsNumberText (s ++ t) := by
  obtain ⟨c, s, rfl⟩ := List.exists_cons_of_ne_nil h.1
  refine ⟨⟨c, s ++ t, rfl, by simp [h.2 c List.mem_cons_self]⟩, fun d hd => ?_⟩
  rcases List.mem_append.mp hd with hd | hd
  · exact isNumberChar_of_isDigit (h.2 d hd)
  · exact ht d hd

theorem IsDigits.take {s : List Char} (h : IsDigits s) (n : Nat) : IsDigits (s.take (n + 1)) := by
  refine ⟨?_, fun c hc => h.2 c (List.mem_of_mem_take hc)⟩
  obtain ⟨c, s, rfl⟩ := List.exists_cons_of_ne_nil h.1
  simp

theorem isNumberText_cons_minus {s : List Char} (h : IsNumberText s) : IsNumberText ('-' :: s) :=
  ⟨⟨'-', s, rfl, rfl⟩, by simpa using ⟨rfl, h.2⟩⟩

theorem isNumberText_positional {digits : List Char} (h : IsDigits digits) (lead : Int) :
    IsNumberText (positional digits lead) := by
  have hzeros (n : Nat) : ∀ c ∈ List.replicate n '0', isNumberChar c = true := by
    intro c hc
    rw [(List.mem_replicate.mp hc).2]
    rfl
  unfold positional
  split
  · refine ⟨⟨'0', _, rfl, rfl⟩, ?_⟩
    intro c hc
    simp only [List.mem_append] at hc
    rcases hc with (hc | hc) | hc
    · revert c
      decide
    · exact hzeros _ c hc
    · exact isNumberChar_of_isDigit (h.2 c hc)
  · simp only [List.append_assoc]
    refine (h.take lead.toNat).isNumberText_append ?_
    intro c hc
    simp only [List.mem_append, List.mem_singleton] at hc
    rcases hc with hc | rfl | hc
    · exact hzeros _ c hc
    · rfl
    · split at hc
      · rw [List.mem_singleton.mp hc]
        rfl
      · exact isNumberChar_of_isDigit (h.2 c (List.mem_of_mem_drop hc))

theorem isNumberText_scientific {digits : List Char} (h : IsDigits digits) (lead : Int) :
    IsNumberText (scientific digits lead) := by
  unfold scientific
  simp only [List.append_assoc]
  refine (h.take 0).isNumberText_append ?_
  intro c hc
  simp only [List.mem_append, List.mem_singleton] at hc
  rcases hc with hc | rfl | hc | hc
  · split at hc
    · cases hc
    · rcases List.mem_cons.mp hc with rfl | hc
      · rfl
      · exact isNumberChar_of_isDigit (h.2 c (List.mem_of_mem_drop hc))
  · rfl
  · split at hc <;> rw [List.mem_singleton.mp hc] <;> rfl
  · exact isNumberChar_of_isDigit ((isDigits_repr _).2 c hc)

theorem Binary64.isNumberText_text (x : Binary64) : IsNumberText x.text.toList := by
  have hsign {s : List Char} (h : IsNumberText s) :
      IsNumberText ((if x.negative then ['-'] else []) ++ s) := by
    cases x.negative
    · exact h
    · exact isNumberText_cons_minus h
  unfold Binary64.text
  simp only
  split
  · rw [String.toList_ofList]
    exact hsign ⟨⟨'0', _, rfl, rfl⟩, by decide⟩
  · rw [String.toList_ofList]
    have hdigits := isDigits_trimZeros (isDigits_repr x.shortest.digits).2
    refine hsign ?_
    split
    · exact isNumberText_positional hdigits _
    · exact isNumberText_scientific hdigits _

theorem Number.isNumberText_text (n : Number) : IsNumberText n.text.toList := by
  have hrepr (m : Nat) : IsNumberText m.repr.toList := by
    simpa using (isDigits_repr m).isNumberText_append (t := []) (by simp)
  cases n with
  | integer n =>
    cases n with
    | ofNat m => exact hrepr m
    | negSucc m =>
      change IsNumberText ("-" ++ (m + 1).repr).toList
      rw [String.toList_append]
      exact isNumberText_cons_minus (hrepr (m + 1))
  | double x => exact x.isNumberText_text

end CatalogRspec.Json

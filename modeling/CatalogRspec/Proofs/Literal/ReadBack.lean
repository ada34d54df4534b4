import CatalogRspec.Literal.Pretty
import CatalogRspec.Proofs.Json.Induction
import CatalogRspec.Proofs.Json.NumberText
import CatalogRspec.Proofs.Literal.Denotation

namespace CatalogRspec.Literal

open Json

theorem isWordChar_of_isNumberChar {c : Char} (h : isNumberChar c = true) :
    isWordChar c = true := by
  simp only [isNumberChar, Bool.or_eq_true, beq_iff_eq] at h
  rcases h with (((h | rfl) | rfl) | rfl) | rfl
  · simp [isWordChar, Char.isAlphanum, h]
  all_goals decide

theorem takeWhile_of_endsWord {w rest : List Char} (hw : ∀ c ∈ w, isWordChar c = true)
    (hrest : EndsWord rest) :
    (w ++ rest).takeWhile isWordChar = w ∧ (w ++ rest).dropWhile isWordChar = rest := by
  rw [List.takeWhile_append_of_pos hw, List.dropWhile_append_of_pos hw]
  cases rest with
  | nil => simp
  | cons c rest =>
    have hc := hrest c rfl
    simp [hc]

theorem word_start {c : Char} (h : isWordChar c = true) :
    opens c = true ∧ c ≠ '[' ∧ c ≠ '{' ∧ c ≠ '"' := by
  have hne (d : Char) (hd : isWordChar d = false) : c ≠ d := by
    rintro rfl
    rw [hd] at h
    cases h
  refine ⟨?_, hne _ (by decide), hne _ (by decide), hne _ (by decide)⟩
  simp [opens, hne ' ' (by decide), hne '\n' (by decide), hne ']' (by decide), hne '}' (by decide)]

theorem denotes_word {w : List Char} {d : Datum} (hw : ∀ c ∈ w, isWordChar c = true)
    (hd : datumOfWord? w = some d) : Denotes w d := by
  intro fuel hfuel
  cases w with
  | nil => cases hd
  | cons c w =>
    obtain ⟨hopens, hb, hc, hq⟩ := word_start (hw c List.mem_cons_self)
    refine ⟨[], c, w, rfl, by decide, hopens, fun rest hrest => ?_⟩
    obtain ⟨fuel, rfl⟩ : ∃ k, fuel = k + 1 :=
      Nat.exists_eq_add_one_of_ne_zero (by simp at hfuel; omega)
    obtain ⟨htake, hdrop⟩ := takeWhile_of_endsWord hw hrest
    rw [readDatum, List.cons_append, skipBlank_cons (not_blank_of_opens hopens), ← List.cons_append]
    -- No other kind of literal begins with a character of a word.
    split
    · next h => exact absurd (List.cons.inj h).1 hb
    · next h => exact absurd (List.cons.inj h).1 hc
    · next h => exact absurd (List.cons.inj h).1 hq
    · rw [readWord, htake, hdrop, hd]
      rfl

theorem datumOfWord?_numberText {w : List Char} (h : IsNumberText w) :
    datumOfWord? w = some (.number (String.ofList w)) := by
  obtain ⟨⟨c, t, rfl, hc⟩, -⟩ := h
  have hne (d : Char) (hd : (d.isDigit || d == '-') = false) : c ≠ d := by
    rintro rfl
    rw [hd] at hc
    cases hc
  have hn := hne 'n' (by decide)
  have ht := hne 't' (by decide)
  have hf := hne 'f' (by decide)
  simp only [datumOfWord?, List.cons.injEq, hn, ht, hf, false_and, if_false, hc, if_true]

theorem denotes_number (n : Number) : Denotes n.text.toList (.number n.text) := by
  have h := n.isNumberText_text
  refine denotes_word (fun c hc => isWordChar_of_isNumberChar (h.2 c hc)) ?_
  rw [datumOfWord?_numberText h, String.ofList_toList]

theorem toList_doubleQuoted (s : String) :
    (doubleQuoted s).toList = '"' :: (doubleBody s.toList ++ ['"']) := by
  simp [doubleQuoted]

theorem denotes_string (s : String) : Denotes (doubleQuoted s).toList (.string s) := by
  intro fuel hfuel
  rw [toList_doubleQuoted] at hfuel ⊢
  refine ⟨[], '"', _, rfl, by decide, rfl, fun rest _ => ?_⟩
  obtain ⟨fuel, rfl⟩ : ∃ k, fuel = k + 1 :=
    Nat.exists_eq_add_one_of_ne_zero (by simp at hfuel; omega)
  simp only [List.cons_append, List.append_assoc, List.nil_append]
  rw [readDatum, skipBlank_cons (by decide)]
  simp only [readDouble_doubleBody, Option.map_some, mapRead, Function.comp_apply,
    String.ofList_toList]

theorem denotesKey_string (s : String) : DenotesKey (doubleQuoted s).toList (.string s) := by
  rw [toList_doubleQuoted]
  refine ⟨⟨'"', _, rfl, rfl⟩, fun rest => ?_⟩
  simp only [List.cons_append, List.append_assoc, List.nil_append]
  simp only [readKey, readDouble_doubleBody, Option.map_some, mapRead, Function.comp_apply,
    String.ofList_toList]

theorem isNameChar_of_isSymbolName {s : List Char} (h : isSymbolName s = true) :
    ∀ c ∈ s, isNameChar c = true := by
  cases s with
  | nil => simp
  | cons c s =>
    simp only [isSymbolName, Bool.and_eq_true, List.all_eq_true] at h
    intro d hd
    rcases List.mem_cons.mp hd with rfl | hd
    · have hstart := h.1
      simp only [isNameStart, Bool.or_eq_true] at hstart
      rcases hstart with hd | hd <;> simp [isNameChar, Char.isAlphanum, hd]
    · exact h.2 d hd

theorem denotesKey_symbol {s : String} (h : isSymbolName s.toList = true) :
    DenotesKey (":" ++ s).toList (.symbol s) := by
  have hname := isNameChar_of_isSymbolName h
  have hcolon : (":" ++ s).toList = ':' :: s.toList := by simp
  rw [hcolon]
  refine ⟨⟨':', _, rfl, rfl⟩, fun rest => ?_⟩
  have htake : (s.toList ++ ' ' :: rest).takeWhile isNameChar = s.toList := by
    rw [List.takeWhile_append_of_pos hname, List.takeWhile_cons_of_neg (by decide)]
    simp
  have hdrop : (s.toList ++ ' ' :: rest).dropWhile isNameChar = ' ' :: rest := by
    rw [List.dropWhile_append_of_pos hname, List.dropWhile_cons_of_neg (by decide)]
  rw [List.cons_append]
  simp only [readKey, htake, hdrop, h, if_true, String.ofList_toList]

theorem denotesKey_hashKey (s : String) : DenotesKey (hashKey s).toList (.ofName s) := by
  unfold hashKey Key.ofName
  split
  · next h => exact denotesKey_symbol h
  · exact denotesKey_string s

theorem inspectItems_eq (items : List Value) : inspectItems items = items.map inspect := by
  induction items with
  | nil => rfl
  | cons v rest ih => rw [inspectItems, ih, List.map_cons]

theorem inspectMembers_eq (ms : Members) :
    inspectMembers ms = ms.map fun m => doubleQuoted m.1 ++ " => " ++ inspect m.2 := by
  induction ms with
  | nil => rfl
  | cons m rest ih => rw [inspectMembers, ih, List.map_cons]

theorem Datum.ofItems_eq (key : String → Key) (items : List Value) :
    ofItems key items = items.map (ofValue key) := by
  induction items with
  | nil => rfl
  | cons v rest ih => rw [ofItems, ih, List.map_cons]

theorem Datum.ofMembers_eq (key : String → Key) (ms : Members) :
    ofMembers key ms = ms.map fun m => (key m.1, ofValue key m.2) := by
  induction ms with
  | nil => rfl
  | cons m rest ih => rw [ofMembers, ih, List.map_cons]

theorem toList_inspect_array (items : List Value) :
    (inspect (.array items)).toList =
      bracketed '[' ']' [] [' '] [] (items.map fun v => (inspect v).toList) := by
  simp [inspect, inspectItems_eq, String.toList_intercalate, bracketed, Function.comp_def]

theorem toList_inspect_object (ms : Members) :
    (inspect (.object ms)).toList = bracketed '{' '}' [] [' '] []
      (ms.map fun m => (doubleQuoted m.1).toList ++ ' ' :: ([] ++ '=' :: '>' ::
        ([' '] ++ (inspect m.2).toList))) := by
  simp [inspect, inspectMembers_eq, String.toList_intercalate, bracketed, Function.comp_def]

theorem denotes_null : Denotes ['n', 'i', 'l'] .nil := denotes_word (by decide) rfl

theorem denotes_bool (b : Bool) : Denotes (if b then "true" else "false").toList (.bool b) := by
  cases b
  · exact denotes_word (by decide) rfl
  · exact denotes_word (by decide) rfl

/-- A literal on one line stands for the document it was made from, with strings for keys. -/
theorem denotes_inspect (v : Value) : Denotes (inspect v).toList (.ofValue .string v) := by
  induction v using Value.induction with
  | null => exact denotes_null
  | bool b => exact denotes_bool b
  | number n => exact denotes_number n
  | string s => exact denotes_string s
  | array items ih =>
    rw [toList_inspect_array, Datum.ofValue, Datum.ofItems_eq]
    exact denotes_array ih (by decide) (by decide) (by decide)
  | object ms ih =>
    rw [toList_inspect_object, Datum.ofValue, Datum.ofMembers_eq]
    refine denotes_hash (fun m hm => ?_) (by decide) (by decide) (by decide)
    exact denotesMember_arrow (denotesKey_string m.1) (by decide) (by decide) (ih m hm)

end CatalogRspec.Literal

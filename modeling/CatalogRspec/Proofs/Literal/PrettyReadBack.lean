import CatalogRspec.Proofs.Literal.ReadBack
import CatalogRspec.Proofs.Text.Lines
import CatalogRspec.Proofs.Text.Splitting

namespace CatalogRspec.Literal

open Json Text

theorem prettyItems_eq (depth : Nat) (items : List Value) :
    prettyItems depth items = items.map (pretty depth) := by
  induction items with
  | nil => rfl
  | cons v rest ih => rw [prettyItems, ih, List.map_cons]

theorem prettyMembers_eq (depth width : Nat) (ms : Members) :
    prettyMembers depth width ms =
      ms.map fun m => padTo width (hashKey m.1) ++ " => " ++ pretty depth m.2 := by
  induction ms with
  | nil => rfl
  | cons m rest ih => rw [prettyMembers, ih, List.map_cons]

theorem blank_replicate (n : Nat) : Blank (List.replicate n ' ') := by
  intro c hc
  rw [List.eq_of_mem_replicate hc]
  rfl

theorem toList_indent (depth : Nat) : (indent depth).toList = List.replicate (2 * depth) ' ' :=
  String.toList_ofList

variable {margin : List Char}

theorem withMargin_indent (margin : List Char) (depth : Nat) :
    withMargin margin (indent depth).toList = (indent depth).toList := by
  refine withMargin_of_no_break ?_ margin
  rw [toList_indent]
  simp

theorem toList_block (opening closing : Char) (depth : Nat) (items : List String) :
    (block (String.ofList [opening]) (String.ofList [closing]) depth items).toList =
      bracketed opening closing ['\n'] ['\n'] ('\n' :: (indent depth).toList)
        (items.map fun t => (indent (depth + 1)).toList ++ t.toList) := by
  simp [block, bracketed, String.toList_intercalate, Function.comp_def]

theorem withMargin_bracketed (margin : List Char) {opening closing : Char} (ho : opening ≠ '\n')
    (hc : closing ≠ '\n') (b sep b₂ : List Char) (ts : List (List Char)) :
    withMargin margin (bracketed opening closing b sep b₂ ts) =
      bracketed opening closing (withMargin margin b) (withMargin margin sep) (withMargin margin b₂)
        (ts.map (withMargin margin)) := by
  have hcomma : ',' ≠ '\n' := by decide
  have hclose : withMargin margin [closing] = [closing] :=
    withMargin_of_no_break (by simp [hc.symm]) margin
  simp only [bracketed, withMargin_cons ho, withMargin_append, withMargin_intercalate,
    withMargin_cons hcomma, hclose]

theorem withMargin_block (margin : List Char) {opening closing : Char} (ho : opening ≠ '\n')
    (hc : closing ≠ '\n') (depth : Nat) (items : List String) :
    withMargin margin
        (block (String.ofList [opening]) (String.ofList [closing]) depth items).toList =
      bracketed opening closing ('\n' :: margin) ('\n' :: margin)
        ('\n' :: (margin ++ (indent depth).toList))
        (items.map fun t => (indent (depth + 1)).toList ++ withMargin margin t.toList) := by
  have hbreak : withMargin margin ['\n'] = '\n' :: margin := by
    rw [withMargin_cons_break]
    exact congrArg _ (List.append_nil margin)
  rw [toList_block, withMargin_bracketed margin ho hc, hbreak, withMargin_cons_break,
    withMargin_indent, List.map_map]
  simp only [Function.comp_def, withMargin_append, withMargin_indent]

theorem blank_indent (depth : Nat) : Blank (indent depth).toList := by
  rw [toList_indent]
  exact blank_replicate _

theorem no_break_of_isNumberText {s : List Char} (h : IsNumberText s) : '\n' ∉ s :=
  fun hs => absurd (h.2 _ hs) (by decide)

theorem no_break_doubleQuoted (s : String) : '\n' ∉ (doubleQuoted s).toList := by
  rw [toList_doubleQuoted]
  simp only [List.mem_cons, List.mem_append, List.not_mem_nil, or_false, not_or]
  exact ⟨by decide, fun h => absurd (isControl_doubleBody h) (by decide), by decide⟩

theorem no_break_hashKey (s : String) : '\n' ∉ (hashKey s).toList := by
  unfold hashKey
  split
  · next h =>
    simp only [String.toList_append, List.mem_append, not_or]
    exact ⟨by decide, fun hc => absurd (isNameChar_of_isSymbolName h _ hc) (by decide)⟩
  · exact no_break_doubleQuoted s

theorem no_break_bracketed {opening closing : Char} (ho : opening ≠ '\n') (hc : closing ≠ '\n')
    {ts : List (List Char)} (h : ∀ t ∈ ts, '\n' ∉ t) :
    '\n' ∉ bracketed opening closing [] [' '] [] ts := by
  simp only [bracketed, List.mem_cons, List.mem_append, List.not_mem_nil, or_false, false_or, not_or]
  refine ⟨ho.symm, fun hitems => ?_, hc.symm⟩
  rcases mem_of_mem_intercalate hitems with hsep | ⟨t, ht, hbreak⟩
  · exact absurd hsep (by decide)
  · exact h t ht hbreak

/-- A literal on one line is on one line, whatever strings it holds. -/
theorem no_break_inspect (v : Value) : '\n' ∉ (inspect v).toList := by
  induction v using Value.induction with
  | null => decide
  | bool b => cases b <;> decide
  | number n => exact no_break_of_isNumberText n.isNumberText_text
  | string s => exact no_break_doubleQuoted s
  | array items ih =>
    rw [toList_inspect_array]
    refine no_break_bracketed (by decide) (by decide) fun t ht => ?_
    obtain ⟨v, hv, rfl⟩ := List.mem_map.mp ht
    exact ih v hv
  | object ms ih =>
    rw [toList_inspect_object]
    refine no_break_bracketed (by decide) (by decide) fun t ht => ?_
    obtain ⟨m, hm, rfl⟩ := List.mem_map.mp ht
    have harrow : '\n' ∉ ' ' :: ([] ++ '=' :: '>' :: ([' '] ++ (inspect m.2).toList)) := by
      simpa using ih m hm
    exact fun hbreak => (List.mem_append.mp hbreak).elim (no_break_doubleQuoted m.1) harrow

theorem withMargin_inline {v : Value} {depth : Nat} (hv : pretty depth v = inspect v) :
    withMargin margin (pretty depth v).toList = (inspect v).toList := by
  rw [hv, withMargin_of_no_break (no_break_inspect v)]

theorem denotes_inline {v : Value} {depth : Nat} {d : Datum} (hv : pretty depth v = inspect v)
    (h : Denotes (inspect v).toList d) : Denotes (withMargin margin (pretty depth v).toList) d := by
  rw [withMargin_inline hv]
  exact h

theorem pretty_array {items : List Value} (h : items ≠ []) (depth : Nat) :
    pretty depth (.array items) =
      block (String.ofList ['[']) (String.ofList [']']) depth
        (items.map (pretty (depth + 1))) := by
  obtain ⟨v, rest, rfl⟩ := List.exists_cons_of_ne_nil h
  rw [pretty, prettyItems_eq]

theorem pretty_object {ms : Members} (h : ms ≠ []) (depth : Nat) :
    pretty depth (.object ms) =
      block (String.ofList ['{']) (String.ofList ['}']) depth
        (ms.map fun m =>
          padTo (keyWidth ms) (hashKey m.1) ++ " => " ++ pretty (depth + 1) m.2) := by
  obtain ⟨m, rest, rfl⟩ := List.exists_cons_of_ne_nil h
  rw [pretty, prettyMembers_eq]

theorem withMargin_member (margin : List Char) (width : Nat) (key value : String) :
    withMargin margin (padTo width (hashKey key) ++ " => " ++ value).toList =
      (hashKey key).toList ++ ' ' ::
        (List.replicate (width - (hashKey key).length) ' ' ++ '=' :: '>' ::
          ([' '] ++ withMargin margin value.toList)) := by
  have hkey := withMargin_of_no_break (no_break_hashKey key) margin
  have hpad : withMargin margin (List.replicate (width - (hashKey key).length) ' ') =
      List.replicate (width - (hashKey key).length) ' ' := withMargin_of_no_break (by simp) margin
  have harrow : withMargin margin " => ".toList = " => ".toList :=
    withMargin_of_no_break (by decide) margin
  have hspace (n : Nat) (t : List Char) :
      List.replicate n ' ' ++ ' ' :: t = ' ' :: (List.replicate n ' ' ++ t) := by
    rw [← List.singleton_append, ← List.append_assoc, ← List.replicate_succ', List.replicate_succ,
      List.cons_append]
  simp only [padTo, String.toList_append, String.toList_ofList, withMargin_append, hkey, hpad,
    harrow]
  simp [hspace]

/-- A literal over several lines stands for the document it was made from, whatever blanks stand in
front of its lines; names that allow it are symbols. -/
theorem denotes_pretty (hm : Blank margin) (depth : Nat) (v : Value) :
    Denotes (withMargin margin (pretty depth v).toList) (.ofValue .ofName v) := by
  have hbreak : Blank ('\n' :: margin) := (show Blank ['\n'] by decide).append hm
  -- Items stand one level deeper, so the depth is general; empty containers stand on one line.
  induction v using Value.induction generalizing depth with
  | null => exact denotes_inline (by simp [pretty]) denotes_null
  | bool b => exact denotes_inline (by simp [pretty]) (denotes_bool b)
  | number n => exact denotes_inline (by simp [pretty]) (denotes_number n)
  | string s => exact denotes_inline (by simp [pretty]) (denotes_string s)
  | array items ih =>
    by_cases hne : items = []
    · subst hne
      exact denotes_inline (by simp [pretty]) (denotes_inspect (.array []))
    · rw [pretty_array hne, withMargin_block margin (by decide) (by decide), List.map_map,
        Datum.ofValue, Datum.ofItems_eq]
      refine denotes_array (fun v hv => ?_) hbreak hbreak (hbreak.append (blank_indent depth))
      exact (ih v hv (depth + 1)).indent (blank_indent (depth + 1))
  | object ms ih =>
    by_cases hne : ms = []
    · subst hne
      exact denotes_inline (by simp [pretty]) (denotes_inspect (.object []))
    · rw [pretty_object hne, withMargin_block margin (by decide) (by decide), List.map_map,
        Datum.ofValue, Datum.ofMembers_eq]
      refine denotes_hash (fun m hm => ?_) hbreak hbreak (hbreak.append (blank_indent depth))
      refine DenotesMember.indent (blank_indent (depth + 1)) ?_
      rw [withMargin_member]
      exact denotesMember_arrow (denotesKey_hashKey m.1) (blank_replicate _) (by decide)
        (ih m hm (depth + 1))

end CatalogRspec.Literal

import CatalogRspec.Proofs.Json.Erasure
import CatalogRspec.Proofs.Literal.Lexing
import CatalogRspec.Proofs.Literal.PrettyReadBack

namespace CatalogRspec.Literal

open Json Text

theorem alike_doubleQuoted (s t : String) :
    Alike (doubleQuoted s).toList (doubleQuoted t).toList := by
  rw [toList_doubleQuoted, toList_doubleQuoted]
  exact alike_quoted (.inr rfl) (inert_doubleBody _) (inert_doubleBody _)

theorem alike_hashKey (s : String) : Alike (hashKey s).toList (hashKey s).toList := by
  unfold hashKey
  split
  · next h =>
    rw [String.toList_append]
    refine (alike_fixed rfl).append (alike_of_no_quote fun c hc => ?_)
    have hname := isNameChar_of_isSymbolName h c hc
    constructor <;> rintro rfl <;> exact absurd hname (by decide)
  · exact alike_doubleQuoted s s

theorem alike_number (n : Number) : Alike n.text.toList n.text.toList := by
  refine alike_of_no_quote fun c hc => ?_
  have hnumber := n.isNumberText_text.2 c hc
  constructor <;> rintro rfl <;> exact absurd hnumber (by decide)

section Container

variable {β : Type} {f g : β → List Char} {items : List β}

theorem alike_intercalate {sep : List Char} (hsep : Alike sep sep)
    (h : ∀ x ∈ items, Alike (f x) (g x)) :
    Alike (sep.intercalate (items.map f)) (sep.intercalate (items.map g)) := by
  induction items with
  | nil => exact alike_fixed rfl
  | cons x items ih =>
    have hx := h x List.mem_cons_self
    have hitems := ih fun y hy => h y (List.mem_cons_of_mem x hy)
    cases items with
    | nil => simpa using hx
    | cons y items =>
      simp only [List.map_cons, List.intercalate_cons_cons] at hitems ⊢
      exact (hx.append hsep).append hitems

theorem alike_blank {b : List Char} (h : Blank b) : Alike b b := by
  refine alike_of_no_quote fun c hc => ?_
  have hblank := h c hc
  constructor <;> rintro rfl <;> exact absurd hblank (by decide)

theorem alike_bracketed {opening closing : Char} (ho : Alike [opening] [opening])
    (hc : Alike [closing] [closing]) {b sep b₂ : List Char} (hb : Blank b) (hsep : Blank sep)
    (hb₂ : Blank b₂) (h : ∀ x ∈ items, Alike (f x) (g x)) :
    Alike (bracketed opening closing b sep b₂ (items.map f))
      (bracketed opening closing b sep b₂ (items.map g)) := by
  have hcomma : Alike (',' :: sep) (',' :: sep) := .fixed_append (s := [',']) rfl (alike_blank hsep)
  have hitems := alike_intercalate hcomma h
  exact ho.append ((alike_blank hb).append (hitems.append ((alike_blank hb₂).append hc)))

end Container

theorem alike_inspect_erase (key : String → String) (v : Value) :
    Alike (inspect v).toList (inspect (v.erase key)).toList := by
  induction v using Value.induction with
  | null => exact alike_fixed rfl
  | bool b => cases b <;> exact alike_fixed rfl
  | number n => exact alike_number n
  | string s => exact alike_doubleQuoted s ""
  | array items ih =>
    rw [Value.erase, Value.eraseItems_eq, toList_inspect_array, toList_inspect_array, List.map_map]
    exact alike_bracketed (alike_fixed rfl) (alike_fixed rfl) (by decide) (by decide) (by decide) ih
  | object ms ih =>
    rw [Value.erase, Value.eraseMembers_eq, toList_inspect_object, toList_inspect_object,
      List.map_map]
    refine alike_bracketed (alike_fixed rfl) (alike_fixed rfl) (by decide) (by decide) (by decide)
      fun m hm => ?_
    exact (alike_doubleQuoted m.1 (key m.1)).append
      (.fixed_append (s := [' ', '=', '>', ' ']) rfl (ih m hm))

theorem keyWidth_erase (ms : Members) :
    keyWidth (ms.map fun m => (id m.1, m.2.erase id)) = keyWidth ms := by
  rw [keyWidth, List.map_map]
  rfl

/-- A literal over several lines is alike that of the document without strings; keys are symbols
where they allow it, and so they stay. -/
theorem alike_pretty_erase {margin : List Char} (hm : Blank margin) (depth : Nat) (v : Value) :
    Alike (withMargin margin (pretty depth v).toList)
      (withMargin margin (pretty depth (v.erase id)).toList) := by
  have hinline {v : Value} {depth : Nat} (hv : pretty depth v = inspect v)
      (hw : pretty depth (v.erase id) = inspect (v.erase id)) :
      Alike (withMargin margin (pretty depth v).toList)
        (withMargin margin (pretty depth (v.erase id)).toList) := by
    rw [withMargin_inline hv, withMargin_inline hw]
    exact alike_inspect_erase id v
  have hbreak : Blank ('\n' :: margin) := (show Blank ['\n'] by decide).append hm
  have hindent (n : Nat) : Alike (indent n).toList (indent n).toList := alike_blank (blank_indent n)
  induction v using Value.induction generalizing depth with
  | null => exact hinline (by simp [pretty]) (by simp [pretty, Value.erase])
  | bool b => exact hinline (by simp [pretty]) (by simp [pretty, Value.erase])
  | number n => exact hinline (by simp [pretty]) (by simp [pretty, Value.erase])
  | string s => exact hinline (by simp [pretty]) (by simp [pretty, Value.erase])
  | array items ih =>
    by_cases hne : items = []
    · subst hne
      exact hinline (by simp [pretty]) (by simp [pretty, Value.erase, Value.eraseItems])
    · rw [Value.erase, Value.eraseItems_eq, pretty_array hne, pretty_array (by simpa using hne),
        withMargin_block margin (by decide) (by decide),
        withMargin_block margin (by decide) (by decide), List.map_map, List.map_map, List.map_map]
      refine alike_bracketed (alike_fixed rfl) (alike_fixed rfl) hbreak hbreak
        (hbreak.append (blank_indent depth)) fun v hv => ?_
      exact (hindent (depth + 1)).append (ih v hv (depth + 1))
  | object ms ih =>
    by_cases hne : ms = []
    · subst hne
      exact hinline (by simp [pretty]) (by simp [pretty, Value.erase, Value.eraseMembers])
    -- Names that are symbols stay, so the arrows of both texts stand in the same column.
    · rw [Value.erase, Value.eraseMembers_eq, pretty_object hne, pretty_object (by simpa using hne),
        withMargin_block margin (by decide) (by decide),
        withMargin_block margin (by decide) (by decide), List.map_map, List.map_map, List.map_map]
      refine alike_bracketed (alike_fixed rfl) (alike_fixed rfl) hbreak hbreak
        (hbreak.append (blank_indent depth)) fun m hm => ?_
      refine (hindent (depth + 1)).append ?_
      simp only [withMargin_member]
      rw [keyWidth_erase]
      have hpad (n : Nat) : Alike (List.replicate n ' ') (List.replicate n ' ') :=
        alike_blank (blank_replicate n)
      refine (alike_hashKey m.1).append (.fixed_append (s := [' ']) rfl ((hpad _).append ?_))
      exact .fixed_append (s := ['=', '>', ' ']) rfl (ih m hm (depth + 1))

end CatalogRspec.Literal

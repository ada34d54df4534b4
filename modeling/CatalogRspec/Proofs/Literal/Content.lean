import Mathlib.Data.List.Induction
import CatalogRspec.Proofs.Literal.Lexing

namespace CatalogRspec

open Text

namespace EscapeRules

def interpolation (c : Char) : EscapeRule :=
  ⟨String.ofList ['#', c], String.ofList ['\\', '#', c]⟩

def guarding (starts : List Char) : EscapeRules :=
  starts.foldl (fun rules c => rules.push (interpolation c)) standard

example : guarding ['$', '{'] = (standard.push ⟨"#$", "\\#$"⟩).push ⟨"#\x7b", "\\#\x7b"⟩ := rfl

/-- Whether the standard rules put a backslash before this text. -/
def standardMark (t : List Char) : Bool := standardPatterns.any (·.isPrefixOf t)

def contentMark (starts : List Char) : List Char → Bool
  | '#' :: c :: s => decide (c ∈ starts) && !standardMark (c :: s)
  | t => standardMark t

theorem standardMark_of_mem {c : Char} (h : [c] ∈ standardPatterns) (s : List Char) :
    standardMark (c :: s) = true := Literal.any_isPrefixOf_of_mem h s

theorem standardMark_hash (s : List Char) : standardMark ('#' :: s) = false := by
  simp [standardMark, standardPatterns, standard, List.isPrefixOf_cons_cons]

theorem standardMark_brace (s : List Char) : standardMark ('{' :: s) = false := by
  simp [standardMark, standardPatterns, standard, List.isPrefixOf_cons_cons]

theorem standardMark_dollar (s : List Char) :
    standardMark ('$' :: s) = true ↔
      [';'] <+: s ∨ "EscapeControlCharactersOnReceive".toList <+: s := by
  simp [standardMark, standardPatterns, standard, List.isPrefixOf_cons_cons,
    ← List.isPrefixOf_iff_prefix]

variable {starts : List Char}

theorem contentMark_cons {c : Char} (hc : c ≠ '#') (s : List Char) :
    contentMark starts (c :: s) = standardMark (c :: s) := by
  unfold contentMark
  split
  · next h => exact absurd (List.cons.inj h).1 hc
  · rfl

theorem contentMark_nil_starts (t : List Char) : contentMark [] t = standardMark t := by
  unfold contentMark
  split
  · simp [standardMark_hash]
  · rfl

/-- Another rule reads the text with the backslashes of those before it. -/
theorem contentMark_concat {c : Char} (hc : c ≠ '#') (t : List Char) :
    contentMark (starts ++ [c]) t =
      (contentMark starts t || ['#', c].isPrefixOf t && !contentMark starts t.tail) := by
  rcases t with _ | ⟨d, _ | ⟨e, s⟩⟩
  · simp [contentMark]
  · simp [contentMark, List.isPrefixOf_cons_cons]
  · by_cases hd : d = '#'
    · subst hd
      by_cases he : e = c
      · subst he
        rw [List.tail_cons, contentMark_cons hc, contentMark, contentMark]
        cases standardMark (e :: s) <;> simp
      · simp [contentMark, List.isPrefixOf_cons_cons, he, Ne.symm he]
    · simp [contentMark_cons hd, List.isPrefixOf_cons_cons, Ne.symm hd]

theorem toList_apply_guarding (hnodup : starts.Nodup) (h : ∀ c ∈ starts, c ≠ '\\' ∧ c ≠ '#')
    (s : String) : ((guarding starts).apply s).toList = marked (contentMark starts) s.toList := by
  -- The rule that comes last runs last, so the induction is from the right.
  induction starts using List.reverseRecOn with
  | nil =>
    rw [funext contentMark_nil_starts]
    exact (toList_apply_standard s).trans (backslashed_eq_marked _ _)
  | append_singleton starts c ih =>
    obtain ⟨hstarts, -, hnew⟩ := List.nodup_append.mp hnodup
    obtain ⟨hb, hhash⟩ := h c (by simp)
    have hlast : (guarding (starts ++ [c])).apply s =
        Text.replace (String.ofList ['#', c]) (String.ofList ['\\', '#', c])
          ((guarding starts).apply s) := by
      simp [guarding, push, apply, interpolation]
    have hunmarked (t : List Char) : contentMark starts ('#' :: c :: t) = false := by
      have hc : c ∉ starts := fun hc => hnew c hc c (by simp) rfl
      simp [contentMark, hc]
    rw [hlast, toList_replace_backslash _ _ '#' [c] String.toList_ofList String.toList_ofList
      (by simpa using Ne.symm hhash), ih hstarts fun d hd => h d (by simp [hd]),
      backslashed_marked (by decide) hb hunmarked]
    exact congrArg (marked · s.toList) (funext fun t => (contentMark_concat hhash t).symm)

theorem exposed_contentMark_iff (t : List Char) :
    Literal.Exposed (contentMark starts) t ↔
      (∃ s, t = '#' :: '{' :: s ∧ '{' ∉ starts) ∨
      ∃ s, t = '#' :: '$' :: s ∧ '$' ∉ starts ∧
        ¬([';'] <+: s ∨ "EscapeControlCharactersOnReceive".toList <+: s) := by
  constructor
  · rintro ⟨s, rfl, hhash, hstart, hs⟩
    obtain _ | ⟨c, s⟩ := s
    · cases hstart
    have hc : c ≠ '#' := by
      rintro rfl
      cases hstart
    rw [contentMark_cons hc] at hs
    have hmem : c ∉ starts := by simpa [contentMark, hs] using hhash
    -- An at sign always has its backslash, so only a brace and a dollar sign are left.
    rw [Literal.startsInterpolation_cons] at hstart
    simp only [Bool.or_eq_true, beq_iff_eq] at hstart
    rcases hstart with (rfl | rfl) | rfl
    · exact .inl ⟨s, rfl, hmem⟩
    · refine .inr ⟨s, rfl, hmem, ?_⟩
      rw [← standardMark_dollar, hs]
      exact Bool.false_ne_true
    · cases hs.symm.trans (standardMark_of_mem (by decide) s)
  · rintro (⟨s, rfl, hmem⟩ | ⟨s, rfl, hmem, hs⟩)
    · refine ⟨_, rfl, by simp [contentMark, hmem], rfl, ?_⟩
      rw [contentMark_cons (by decide), standardMark_brace]
    · refine ⟨_, rfl, by simp [contentMark, hmem], rfl, ?_⟩
      rw [contentMark_cons (by decide), Bool.eq_false_iff, ne_eq, standardMark_dollar]
      exact hs

theorem forall_not_exposed_iff (content : List Char) :
    (∀ t, t <:+ content → ¬Literal.Exposed (contentMark starts) t) ↔
      ('{' ∈ starts ∨ ¬['#', '{'] <:+: content) ∧
      ('$' ∈ starts ∨ ∀ after, '#' :: '$' :: after <:+ content →
        [';'] <+: after ∨ "EscapeControlCharactersOnReceive".toList <+: after) := by
  simp only [exposed_contentMark_iff]
  constructor
  · refine fun h => ⟨?_, ?_⟩
    · by_cases hmem : '{' ∈ starts
      · exact .inl hmem
      · right
        rintro ⟨before, after, rfl⟩
        exact h _ ⟨before, by simp⟩ (.inl ⟨after, rfl, hmem⟩)
    · by_cases hmem : '$' ∈ starts
      · exact .inl hmem
      · right
        intro after hafter
        by_contra hno
        exact h _ hafter (.inr ⟨after, rfl, hmem, hno⟩)
  · rintro ⟨hbrace, hdollar⟩ t ht (⟨after, rfl, hmem⟩ | ⟨after, rfl, hmem, hno⟩)
    · obtain ⟨before, rfl⟩ := ht
      exact hbrace.resolve_left hmem ⟨before, after, by simp⟩
    · exact hno (hdollar.resolve_left hmem after ht)

end EscapeRules

namespace Literal

open EscapeRules

/-- Content cannot end its literal, whatever it is. It reads back just when the rules see to every
`#` that starts an interpolation: before a brace only the rule for it does, and before a dollar sign
also the two standard rules for what can follow that sign. -/
theorem readDouble_guarding {starts : List Char} (hnodup : starts.Nodup)
    (hstarts : ∀ c ∈ starts, c = '{' ∨ c = '$') (content : String) :
    let body := ((guarding starts).apply content).toList
    Inert '"' body ∧ ∀ rest,
      (readDouble .refused (body ++ '"' :: rest) = some (content.toList, rest) ↔
        ('{' ∈ starts ∨ ¬['#', '{'] <:+: content.toList) ∧
        ('$' ∈ starts ∨ ∀ after, '#' :: '$' :: after <:+ content.toList →
          [';'] <+: after ∨ "EscapeControlCharactersOnReceive".toList <+: after)) ∧
      ('{' ∈ starts → '$' ∈ starts →
        readDouble .refused (body ++ '"' :: rest) = some (content.toList, rest)) := by
  intro body
  have hplain : ∀ c ∈ starts, c ≠ '\\' ∧ c ≠ '#' := by
    intro c hc
    rcases hstarts c hc with rfl | rfl <;> decide
  have hbody : body = marked (contentMark starts) content.toList :=
    toList_apply_guarding hnodup hplain content
  have hmark {c : Char} (hc : c ≠ '#') (hmem : [c] ∈ standardPatterns) (s : List Char) :
      contentMark starts (c :: s) = true := by
    rw [contentMark_cons hc, standardMark_of_mem hmem]
  have hbackslash := hmark (c := '\\') (by decide) (by decide)
  have hquote := hmark (c := '"') (by decide) (by decide)
  have hescaped (c : Char) (s : List Char) (h : contentMark starts (c :: s) = true) :
      unescape? c = some c := by
    by_cases hc : c = '#'
    · subst hc
      rfl
    · rw [contentMark_cons hc] at h
      exact unescape?_of_standard h
  have hread (rest : List Char) :
      readDouble .refused (body ++ '"' :: rest) = some (content.toList, rest) ↔
        ∀ t, t <:+ content.toList → ¬Exposed (contentMark starts) t := by
    rw [hbody, readDouble_marked_iff hescaped hbackslash hquote]
    exact ⟨fun h => h rfl, fun h _ => h⟩
  refine ⟨hbody ▸ inert_marked hbackslash hquote _, fun rest => ?_⟩
  have hiff := (hread rest).trans (forall_not_exposed_iff content.toList)
  exact ⟨hiff, fun hbrace hdollar => hiff.mpr ⟨.inl hbrace, .inl hdollar⟩⟩

theorem readDouble_guarding_of_hostile :
    let content := "\\#\x7bx\x7d \"#$;#$x#@y\""
    readDouble .refused (((guarding ['$', '{']).apply content).toList ++ ['"']) =
        some (content.toList, []) ∧
      readDouble .refused (((guarding ['$']).apply content).toList ++ ['"']) ≠
        some (content.toList, []) := by
  intro content
  have hboth := @readDouble_guarding ['$', '{'] (by decide) (by decide) content
  have hdollar := @readDouble_guarding ['$'] (by decide) (by decide) content
  refine ⟨(hboth.2 []).2 (by decide) (by decide), fun hread => ?_⟩
  have hbrace := ((hdollar.2 []).1.mp hread).1
  exact hbrace.resolve_left (by decide) (by decide +kernel)

end Literal

end CatalogRspec

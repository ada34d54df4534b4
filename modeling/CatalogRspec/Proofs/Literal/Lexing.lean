import CatalogRspec.Proofs.Literal.Strings

namespace CatalogRspec.Literal

open Text

/-- Outside of all literals, in one that ends at a quote, or behind a backslash in it. -/
inductive LexState where
  | outside
  | inside (quote : Char)
  | escaped (quote : Char)
deriving Repr, DecidableEq

/-- The state behind a character, and what is left of the character: in a literal, nothing. -/
def LexState.step : LexState → Char → LexState × List Char
  | .outside, c => (if c = '\'' ∨ c = '"' then .inside c else .outside, [c])
  | .inside q, c =>
    if c = '\\' then (.escaped q, []) else if c = q then (.outside, [c]) else (.inside q, [])
  | .escaped q, _ => (.inside q, [])

/-- Runs through a text, which comes out with the bodies of its literals blanked out. -/
def lex : LexState → List Char → LexState × List Char
  | st, [] => (st, [])
  | st, c :: s => ((lex (st.step c).1 s).1, (st.step c).2 ++ (lex (st.step c).1 s).2)

/-- A text that ends outside of all literals, and what is left with their bodies blanked out. -/
def HasSkeleton (s k : List Char) : Prop := lex .outside s = (.outside, k)

/-- Two texts that both end outside of all literals, and differ only in the bodies of literals. -/
def Alike (s t : List Char) : Prop := ∃ k, HasSkeleton s k ∧ HasSkeleton t k

/-- What stands in a literal that ends at `quote` without ending it. -/
def Inert (quote : Char) (s : List Char) : Prop := lex (.inside quote) s = (.inside quote, [])

theorem lex_append (st : LexState) (s t : List Char) :
    lex st (s ++ t) = ((lex (lex st s).1 t).1, (lex st s).2 ++ (lex (lex st s).1 t).2) := by
  induction s generalizing st with
  | nil => rfl
  | cons c s ih => simp [lex, ih]

theorem HasSkeleton.append {s t k l : List Char} (hs : HasSkeleton s k) (ht : HasSkeleton t l) :
    HasSkeleton (s ++ t) (k ++ l) := by
  unfold HasSkeleton at *
  rw [lex_append, hs, ht]

theorem HasSkeleton.unique {s k l : List Char} (hk : HasSkeleton s k) (hl : HasSkeleton s l) :
    k = l := congrArg Prod.snd (hk.symm.trans hl)

theorem Alike.append {s t s' t' : List Char} (hs : Alike s s') (ht : Alike t t') :
    Alike (s ++ t) (s' ++ t') := by
  obtain ⟨k, hs, hs'⟩ := hs
  obtain ⟨l, ht, ht'⟩ := ht
  exact ⟨k ++ l, hs.append ht, hs'.append ht'⟩

theorem Alike.symm {s t : List Char} (h : Alike s t) : Alike t s := by
  obtain ⟨k, hs, ht⟩ := h
  exact ⟨k, ht, hs⟩

theorem Alike.trans {s t u : List Char} (hst : Alike s t) (htu : Alike t u) : Alike s u := by
  obtain ⟨k, hs, ht⟩ := hst
  obtain ⟨l, ht', hu⟩ := htu
  exact ⟨k, hs, ht.unique ht' ▸ hu⟩

theorem alike_fixed {s : List Char} (h : (lex .outside s).1 = .outside) : Alike s s :=
  ⟨(lex .outside s).2, Prod.ext h rfl, Prod.ext h rfl⟩

theorem Alike.fixed_append {s t u : List Char} (h : (lex .outside s).1 = .outside)
    (ht : Alike t u) : Alike (s ++ t) (s ++ u) := (alike_fixed h).append ht

theorem lex_of_no_quote {s : List Char} (h : ∀ c ∈ s, c ≠ '\'' ∧ c ≠ '"') :
    lex .outside s = (.outside, s) := by
  induction s with
  | nil => rfl
  | cons c s ih =>
    obtain ⟨hs, hd⟩ := h c List.mem_cons_self
    have hrest := ih fun d hd => h d (List.mem_cons_of_mem c hd)
    rw [lex, LexState.step, if_neg (by simp [hs, hd]), hrest]
    rfl

theorem alike_of_no_quote {s : List Char} (h : ∀ c ∈ s, c ≠ '\'' ∧ c ≠ '"') : Alike s s :=
  alike_fixed (by rw [lex_of_no_quote h])

section Inert

variable {q : Char}

theorem Inert.append {s t : List Char} (hs : Inert q s) (ht : Inert q t) : Inert q (s ++ t) := by
  unfold Inert at *
  rw [lex_append, hs, ht]
  rfl

theorem inert_escape (q c : Char) : Inert q ['\\', c] := rfl

theorem inert_singleton {c : Char} (hb : c ≠ '\\') (hq : c ≠ q) : Inert q [c] := by
  simp [Inert, lex, LexState.step, hb, hq]

theorem inert_of_forall {s : List Char} (h : ∀ c ∈ s, c ≠ '\\' ∧ c ≠ q) : Inert q s := by
  induction s with
  | nil => rfl
  | cons c s ih =>
    obtain ⟨hb, hq⟩ := h c List.mem_cons_self
    exact (inert_singleton hb hq).append (ih fun d hd => h d (List.mem_cons_of_mem c hd))

/-- Backslashes before all backslashes and all quotes keep a literal from ending, also if they stand
before other things as well. -/
theorem inert_marked {mark : List Char → Bool} (hb : ∀ s, mark ('\\' :: s) = true)
    (hq : ∀ s, mark (q :: s) = true) (s : List Char) : Inert q (marked mark s) := by
  induction s with
  | nil => rfl
  | cons c s ih =>
    rw [marked]
    split
    · exact (inert_escape q c).append ih
    · next h =>
      have hne (d : Char) (hd : ∀ s, mark (d :: s) = true) : c ≠ d := by
        rintro rfl
        exact h (hd s)
      exact (inert_singleton (hne '\\' hb) (hne q hq)).append ih

theorem inert_backslashed {patterns : List (List Char)} (hb : ['\\'] ∈ patterns)
    (hq : [q] ∈ patterns) (s : List Char) : Inert q (backslashed patterns s) := by
  rw [backslashed_eq_marked]
  exact inert_marked (any_isPrefixOf_of_mem hb) (any_isPrefixOf_of_mem hq) s

theorem inert_doubleBody (s : List Char) : Inert '"' (doubleBody s) := by
  -- What `\u` takes with it are digits; to the lexer they are as plain as any other text.
  have hhex : ∀ n < 0xA0, ∀ d ∈ upperHex 4 n, d ≠ '\\' ∧ d ≠ '"' := by decide +kernel
  induction s with
  | nil => rfl
  | cons c s ih =>
    rw [doubleBody]
    refine Inert.append ?_ ih
    rcases escapeDouble_cases c s with ⟨d, he, -⟩ | ⟨he, hc⟩ | ⟨he, hb, hq, -⟩
    · rw [he]
      exact inert_escape '"' d
    · rw [he]
      exact (inert_escape '"' 'u').append (inert_of_forall (hhex _ (toNat_of_isControl hc)))
    · rw [he]
      exact inert_singleton hb hq

theorem hasSkeleton_quoted (hq : q = '\'' ∨ q = '"') {s : List Char} (h : Inert q s) :
    HasSkeleton (q :: (s ++ [q])) [q, q] := by
  have hne : q ≠ '\\' := by
    rintro rfl
    exact absurd hq (by decide)
  unfold Inert at h
  simp [HasSkeleton, lex, LexState.step, hq, lex_append, h, hne]

theorem alike_quoted (hq : q = '\'' ∨ q = '"') {s t : List Char} (hs : Inert q s) (ht : Inert q t) :
    Alike (q :: (s ++ [q])) (q :: (t ++ [q])) :=
  ⟨[q, q], hasSkeleton_quoted hq hs, hasSkeleton_quoted hq ht⟩

end Inert

theorem alike_singleQuoted (s t : String) :
    Alike (singleQuoted s).toList (singleQuoted t).toList := by
  rw [toList_singleQuoted, toList_singleQuoted]
  exact alike_quoted (.inl rfl) (inert_backslashed (by decide) (by decide) _)
    (inert_backslashed (by decide) (by decide) _)

theorem alike_content_append (s s' : String) {t t' : List Char} (h : Alike t t') :
    Alike ("\"".toList ++ ((EscapeRules.standard.apply s).toList ++ ("\"".toList ++ t)))
      ("\"".toList ++ ((EscapeRules.standard.apply s').toList ++ ("\"".toList ++ t'))) := by
  have hinert (s : String) : Inert '"' (EscapeRules.standard.apply s).toList := by
    rw [EscapeRules.toList_apply_standard]
    exact inert_backslashed (by decide) (by decide) _
  have hquote : "\"".toList = ['"'] := rfl
  have hcontent := (alike_quoted (.inr rfl) (hinert s) (hinert s')).append h
  rw [hquote]
  simpa only [List.cons_append, List.nil_append, List.append_assoc] using hcontent

end CatalogRspec.Literal

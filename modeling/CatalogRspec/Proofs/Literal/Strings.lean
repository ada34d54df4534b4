import CatalogRspec.Proofs.Literal.Reader
import CatalogRspec.Proofs.Text.Escaping
import CatalogRspec.Proofs.Text.Marks

namespace CatalogRspec.Literal

open Text

theorem readSingle_quote (s : List Char) : readSingle ('\'' :: s) = some ([], s) := by
  simp [readSingle]

theorem readSingle_escape {c : Char} (h : c = '\\' ∨ c = '\'') (s : List Char) :
    readSingle ('\\' :: c :: s) = (readSingle s).map (mapRead (c :: ·)) := by
  rw [readSingle, if_pos h]

theorem readSingle_plain {c : Char} (h : ¬(c = '\\' ∨ c = '\'')) (s : List Char) :
    readSingle (c :: s) = (readSingle s).map (mapRead (c :: ·)) := by
  rw [not_or] at h
  rw [readSingle, if_neg h.2]
  intro d t hc
  exact absurd hc h.1

theorem readSingle_backslashed (s rest : List Char) :
    readSingle (backslashed [['\\'], ['\'']] s ++ '\'' :: rest) = some (s, rest) := by
  induction s with
  | nil => exact readSingle_quote rest
  | cons c s ih =>
    have hany : [['\\'], ['\'']].any (·.isPrefixOf (c :: s)) = true ↔ c = '\\' ∨ c = '\'' := by
      simp [List.isPrefixOf_cons_cons, @eq_comm Char c]
    rw [backslashed]
    by_cases hc : c = '\\' ∨ c = '\''
    · rw [if_pos (hany.mpr hc), List.cons_append, List.cons_append, readSingle_escape hc, ih]
      rfl
    · rw [if_neg (mt hany.mp hc), List.cons_append, readSingle_plain hc, ih]
      rfl

variable {i : Interpolation}

theorem readDouble_quote (s : List Char) : readDouble i ('"' :: s) = some ([], s) := by
  simp [readDouble]

theorem readDouble_escape {c d : Char} (h : unescape? c = some d) (s : List Char) :
    readDouble i ('\\' :: c :: s) = (readDouble i s).map (mapRead (d :: ·)) := by
  have hu : c ≠ 'u' := by
    rintro rfl
    cases h
  rw [readDouble, h]
  · rfl
  · intro a b e f t hc
    exact absurd hc hu

theorem readDouble_hex {a b c d : Char} {n : Nat}
    (h : readDigits? hexValue? 16 [a, b, c, d] = some n) (s : List Char) :
    readDouble i ('\\' :: 'u' :: a :: b :: c :: d :: s) =
      (readDouble i s).map (mapRead (Char.ofNat n :: ·)) := by
  rw [readDouble, h]
  rfl

theorem readDouble_plain {c : Char} (hb : c ≠ '\\') (hq : c ≠ '"') {s : List Char}
    (hi : ¬(c = '#' ∧ startsInterpolation s ∧ i = .refused)) :
    readDouble i (c :: s) = (readDouble i s).map (mapRead (c :: ·)) := by
  rw [readDouble, if_neg hq, if_neg hi]
  · intro a b e f t hc
    exact absurd hc hb
  · intro e t hc
    exact absurd hc hb

theorem readDouble_interpolation {s : List Char} (h : startsInterpolation s = true) :
    readDouble .refused ('#' :: s) = none := by
  simp [readDouble, h]

theorem any_isPrefixOf_of_mem {patterns : List (List Char)} {c : Char} (h : [c] ∈ patterns)
    (s : List Char) : patterns.any (·.isPrefixOf (c :: s)) = true :=
  List.any_eq_true.mpr ⟨[c], h, by simp⟩

theorem unescape?_of_standard {c : Char} {s : List Char}
    (h : EscapeRules.standardPatterns.any (·.isPrefixOf (c :: s)) = true) :
    unescape? c = some c := by
  have hheads : ∀ p ∈ EscapeRules.standardPatterns, p ≠ [] ∧ p.head?.bind unescape? = p.head? := by
    decide
  obtain ⟨p, hp, hps⟩ := List.any_eq_true.mp h
  have hhead := head?_of_isPrefixOf (hheads p hp).1 hps
  simpa [hhead] using (hheads p hp).2

theorem startsInterpolation_cons (c : Char) (s : List Char) :
    startsInterpolation (c :: s) = (c == '{' || c == '$' || c == '@') := by
  unfold startsInterpolation
  split
  · next h => simp [(List.cons.inj h).1]
  · next h => simp [(List.cons.inj h).1]
  · next h => simp [(List.cons.inj h).1]
  · next h1 h2 h3 =>
    have hbrace : c ≠ '{' := fun h => h1 s (h ▸ rfl)
    have hdollar : c ≠ '$' := fun h => h2 s (h ▸ rfl)
    have hat : c ≠ '@' := fun h => h3 s (h ▸ rfl)
    simp [hbrace, hdollar, hat]

section Marked

variable {mark : List Char → Bool}

/-- An interpolation starts here, and backslashes at the marks do not keep it from starting. -/
def Exposed (mark : List Char → Bool) (t : List Char) : Prop :=
  ∃ s, t = '#' :: s ∧ mark t = false ∧ startsInterpolation s = true ∧ mark s = false

theorem startsInterpolation_marked (s rest : List Char) :
    startsInterpolation (marked mark s ++ '"' :: rest) = (startsInterpolation s && !mark s) := by
  cases s with
  | nil => rfl
  | cons c s =>
    rw [marked]
    by_cases hm : mark (c :: s) = true
    · simp [hm, startsInterpolation_cons]
    · simp [hm, startsInterpolation_cons]

/-- A text with backslashes at its marks reads back if every backslash and every quote is marked, and
no start of an interpolation is left to be refused. -/
theorem readDouble_marked_iff (hescaped : ∀ c s, mark (c :: s) = true → unescape? c = some c)
    (hbackslash : ∀ s, mark ('\\' :: s) = true) (hquote : ∀ s, mark ('"' :: s) = true)
    (s rest : List Char) :
    readDouble i (marked mark s ++ '"' :: rest) = some (s, rest) ↔
      (i = .refused → ∀ t, t <:+ s → ¬Exposed mark t) := by
  induction s with
  | nil =>
    refine iff_of_true (readDouble_quote rest) fun _ t ht => ?_
    rintro ⟨s, rfl, -⟩
    cases List.suffix_nil.mp ht
  | cons c s ih =>
    have hrest : (readDouble i (marked mark s ++ '"' :: rest)).map (mapRead (c :: ·)) =
        some (c :: s, rest) ↔ (i = .refused → ∀ t, t <:+ s → ¬Exposed mark t) := by
      rw [← ih]
      simp [Option.map_eq_some_iff, mapRead, Prod.ext_iff]
    have hsuffix : (i = .refused → ∀ t, t <:+ c :: s → ¬Exposed mark t) ↔
        (i = .refused → ¬Exposed mark (c :: s)) ∧ (i = .refused → ∀ t, t <:+ s → ¬Exposed mark t) := by
      simp [List.suffix_cons_iff, or_imp, forall_and]
    rw [hsuffix, marked]
    by_cases hm : mark (c :: s) = true
    · have hhere : ¬Exposed mark (c :: s) := by
        rintro ⟨_, -, hfalse, -⟩
        cases hm.symm.trans hfalse
      rw [if_pos hm, List.cons_append, List.cons_append, readDouble_escape (hescaped c s hm), hrest]
      simp [hhere]
    · have hb : c ≠ '\\' := by
        rintro rfl
        exact hm (hbackslash s)
      have hq : c ≠ '"' := by
        rintro rfl
        exact hm (hquote s)
      -- What the reader meets behind a `#` is what stands there in the text, or a backslash.
      have hexposed : Exposed mark (c :: s) ↔
          c = '#' ∧ startsInterpolation (marked mark s ++ '"' :: rest) = true := by
        rw [startsInterpolation_marked]
        simp [Exposed, hm]
      rw [if_neg hm, List.cons_append]
      by_cases hhere : i = .refused ∧ Exposed mark (c :: s)
      · obtain ⟨rfl, hc⟩ := hhere
        obtain ⟨rfl, hstarts⟩ := hexposed.mp hc
        rw [readDouble_interpolation hstarts]
        simp [hc]
      · rw [readDouble_plain hb hq, hrest]
        · exact (and_iff_right (not_and.mp hhere)).symm
        · exact fun h => hhere ⟨h.2.2, hexposed.mpr ⟨h.1, h.2.1⟩⟩

end Marked

theorem readDouble_standard (s rest : List Char) :
    readDouble .spelt (backslashed EscapeRules.standardPatterns s ++ '"' :: rest) =
      some (s, rest) := by
  rw [backslashed_eq_marked]
  refine (readDouble_marked_iff (fun c s => unescape?_of_standard) ?_ ?_ s rest).mpr nofun
  · exact any_isPrefixOf_of_mem (by decide)
  · exact any_isPrefixOf_of_mem (by decide)

/-- What stands behind a backslash for which character, where it is not `u`. -/
def shortEscapes : List (Char × Char) :=
  [('\\', '\\'), ('"', '"'), ('n', '\n'), ('t', '\t'), ('r', '\r'), ('e', '\x1b'), ('#', '#')]

theorem escapeDouble_cases (c : Char) (s : List Char) :
    (∃ d, escapeDouble c s = ['\\', d] ∧ (d, c) ∈ shortEscapes ∧
      startsInterpolation (c :: s) = false) ∨
    (escapeDouble c s = ['\\', 'u'] ++ upperHex 4 c.toNat ∧ isControl c = true) ∨
    (escapeDouble c s = [c] ∧ c ≠ '\\' ∧ c ≠ '"' ∧ isControl c = false ∧
      ¬(c = '#' ∧ startsInterpolation s = true)) := by
  unfold escapeDouble
  split
  · exact .inl ⟨_, rfl, by decide, rfl⟩
  · exact .inl ⟨_, rfl, by decide, rfl⟩
  · exact .inl ⟨_, rfl, by decide, rfl⟩
  · exact .inl ⟨_, rfl, by decide, rfl⟩
  · exact .inl ⟨_, rfl, by decide, rfl⟩
  · exact .inl ⟨_, rfl, by decide, rfl⟩
  · by_cases hi : startsInterpolation s = true
    · exact .inl ⟨'#', by simp [hi], by decide, rfl⟩
    · exact .inr (.inr ⟨by simp [hi], by decide, by decide, by decide, by simp [hi]⟩)
  · next hb hq _ _ _ _ hh =>
    by_cases hc : isControl c = true
    · exact .inr (.inl ⟨by simp [hc], hc⟩)
    · exact .inr (.inr ⟨by simp [hc], hb, hq, by simpa using hc, fun h => hh h.1⟩)

/-- Control characters have four hexadecimal digits, which read back. -/
theorem readDigits?_upperHex {n : Nat} (h : n < 0xA0) :
    ∃ a b c d, upperHex 4 n = [a, b, c, d] ∧ readDigits? hexValue? 16 [a, b, c, d] = some n := by
  have hall : ∀ n < 0xA0, (upperHex 4 n).length = 4 ∧
      readDigits? hexValue? 16 (upperHex 4 n) = some n := by
    decide +kernel
  obtain ⟨hlen, hread⟩ := hall n h
  obtain ⟨a, b, c, d, hd⟩ := List.length_eq_four.mp hlen
  exact ⟨a, b, c, d, hd, hd ▸ hread⟩

theorem toNat_of_isControl {c : Char} (h : isControl c = true) : c.toNat < 0xA0 := by
  simp only [isControl, Bool.or_eq_true, Bool.and_eq_true, decide_eq_true_eq] at h
  omega

theorem startsInterpolation_of_isControl {c : Char} (h : isControl c = true) (s : List Char) :
    startsInterpolation (c :: s) = false := by
  rw [startsInterpolation_cons]
  by_contra hne
  simp only [Bool.not_eq_false, Bool.or_eq_true, beq_iff_eq] at hne
  rcases hne with (rfl | rfl) | rfl <;> exact absurd h (by decide)

theorem startsInterpolation_doubleBody (s rest : List Char) :
    startsInterpolation (doubleBody s ++ '"' :: rest) = startsInterpolation s := by
  cases s with
  | nil => rfl
  | cons c s =>
    rw [doubleBody]
    rcases escapeDouble_cases c s with ⟨d, he, -, hc⟩ | ⟨he, hc⟩ | ⟨he, -⟩
    · rw [he, hc]
      rfl
    · rw [he, startsInterpolation_of_isControl hc]
      rfl
    · rw [he, List.append_assoc, List.singleton_append, startsInterpolation_cons,
        startsInterpolation_cons]

/-- A reader of bodies that takes a character in each of the ways in which it may be written. -/
structure TakesForms (read : List Char → Option (List Char × List Char)) : Prop where
  quote (s : List Char) : read ('"' :: s) = some ([], s)
  short {d c : Char} (h : (d, c) ∈ shortEscapes) (s : List Char) :
    read ('\\' :: d :: s) = (read s).map (mapRead (c :: ·))
  hex {a b c d : Char} {n : Nat} (hn : n < 0xA0)
    (h : readDigits? hexValue? 16 [a, b, c, d] = some n) (s : List Char) :
    read ('\\' :: 'u' :: a :: b :: c :: d :: s) = (read s).map (mapRead (Char.ofNat n :: ·))
  plain {c : Char} {s : List Char} (hb : c ≠ '\\') (hq : c ≠ '"')
    (hi : ¬(c = '#' ∧ startsInterpolation s = true)) :
    read (c :: s) = (read s).map (mapRead (c :: ·))

theorem TakesForms.read_doubleBody {read : List Char → Option (List Char × List Char)}
    (h : TakesForms read) (s rest : List Char) :
    read (doubleBody s ++ '"' :: rest) = some (s, rest) := by
  induction s with
  | nil => exact h.quote rest
  | cons c s ih =>
    rw [doubleBody, List.append_assoc]
    rcases escapeDouble_cases c s with ⟨d, he, hd, -⟩ | ⟨he, hc⟩ | ⟨he, hb, hq, -, hi⟩
    · rw [he, List.cons_append, List.cons_append, List.nil_append, h.short hd, ih]
      rfl
    · have hsmall := toNat_of_isControl hc
      obtain ⟨h₁, h₂, h₃, h₄, hdigits, hn⟩ := readDigits?_upperHex hsmall
      rw [he, hdigits]
      simp only [List.cons_append, List.nil_append]
      rw [h.hex hsmall hn, ih, Char.ofNat_toNat]
      rfl
    -- A plain `#` stays one: escaping what follows it makes no interpolation start there.
    · rw [he, List.singleton_append, h.plain hb hq, ih]
      · rfl
      · rw [startsInterpolation_doubleBody]
        exact hi

theorem takesForms_readDouble : TakesForms (readDouble i) where
  quote := readDouble_quote
  short h := by
    have hall : ∀ p ∈ shortEscapes, unescape? p.1 = some p.2 := by decide
    exact readDouble_escape (hall _ h)
  hex _ h := readDouble_hex h
  plain hb hq hi := readDouble_plain hb hq fun h => hi ⟨h.1, h.2.1⟩

theorem readDouble_doubleBody (s rest : List Char) :
    readDouble i (doubleBody s ++ '"' :: rest) = some (s, rest) :=
  takesForms_readDouble.read_doubleBody s rest

theorem isControl_doubleBody {s : List Char} {d : Char} (h : d ∈ doubleBody s) :
    isControl d = false := by
  have hshort : ∀ p ∈ shortEscapes, isControl p.1 = false := by decide
  have hhex : ∀ n < 0xA0, ∀ d ∈ upperHex 4 n, isControl d = false := by decide +kernel
  induction s with
  | nil => cases h
  | cons c s ih =>
    rw [doubleBody, List.mem_append] at h
    rcases h with h | h
    -- A control character never stands there itself, only its letter or its digits.
    · rcases escapeDouble_cases c s with ⟨e, he, hd, -⟩ | ⟨he, hc⟩ | ⟨he, -, -, hc, -⟩
      · rw [he] at h
        simp only [List.mem_cons, List.not_mem_nil, or_false] at h
        rcases h with rfl | rfl
        · rfl
        · exact hshort _ hd
      · rw [he] at h
        simp only [List.mem_append, List.mem_cons, List.not_mem_nil, or_false] at h
        rcases h with (rfl | rfl) | h
        · rfl
        · rfl
        · exact hhex c.toNat (toNat_of_isControl hc) d h
      · rw [he, List.mem_singleton] at h
        exact h ▸ hc
    · exact ih h

end CatalogRspec.Literal

import CatalogRspec.Proofs.Literal.Strings

namespace CatalogRspec.Literal

def Blank (b : List Char) : Prop := ∀ c ∈ b, (c == ' ' || c == '\n') = true

instance (b : List Char) : Decidable (Blank b) :=
  inferInstanceAs (Decidable (∀ c ∈ b, (c == ' ' || c == '\n') = true))

/-- A character that neither is blank nor closes a container. -/
def opens (c : Char) : Bool := !(c == ' ' || c == '\n') && c != ']' && c != '}'

/-- What may follow a word. -/
def EndsWord (rest : List Char) : Prop := ∀ c ∈ rest.head?, isWordChar c = false

/-- The text is read as `a`, perhaps after blanks, whatever follows that ends a word. -/
def Reads {α : Type} (read : List Char → Option (α × List Char)) (t : List Char) (a : α) : Prop :=
  ∃ b c s, t = b ++ c :: s ∧ Blank b ∧ opens c = true ∧
    ∀ rest, EndsWord rest → read (c :: s ++ rest) = some (a, rest)

/-- The text is a literal for the datum. -/
def Denotes (t : List Char) (d : Datum) : Prop :=
  ∀ fuel, t.length ≤ fuel → Reads (readDatum fuel) t d

/-- The text is a key: it ends where a space stands. -/
def DenotesKey (t : List Char) (k : Key) : Prop :=
  (∃ c s, t = c :: s ∧ opens c = true) ∧
    ∀ rest, readKey (t ++ ' ' :: rest) = some (k, ' ' :: rest)

def DenotesMember (t : List Char) (m : Key × Datum) : Prop :=
  ∀ fuel, t.length ≤ fuel → Reads (readMember (readDatum fuel)) t m

theorem Blank.append {a b : List Char} (ha : Blank a) (hb : Blank b) : Blank (a ++ b) := by
  intro c hc
  rcases List.mem_append.mp hc with hc | hc
  · exact ha c hc
  · exact hb c hc

theorem skipBlank_append {b : List Char} (h : Blank b) (s : List Char) :
    skipBlank (b ++ s) = skipBlank s := List.dropWhile_append_of_pos h

theorem skipBlank_cons {c : Char} (h : (c == ' ' || c == '\n') = false) (s : List Char) :
    skipBlank (c :: s) = c :: s := List.dropWhile_cons_of_neg (by simp [h])

theorem not_blank_of_opens {c : Char} (h : opens c = true) : (c == ' ' || c == '\n') = false := by
  simp only [opens, Bool.and_eq_true, Bool.not_eq_true'] at h
  exact h.1.1

theorem endsWord_cons {c : Char} (h : isWordChar c = false) (s : List Char) :
    EndsWord (c :: s) := by
  intro d hd
  rw [List.head?_cons, Option.mem_some_iff] at hd
  exact hd ▸ h

theorem endsWord_blank_append {b s : List Char} (hb : Blank b) (hs : EndsWord s) :
    EndsWord (b ++ s) := by
  cases b with
  | nil => exact hs
  | cons c b =>
    refine endsWord_cons ?_ _
    have hc := hb c List.mem_cons_self
    simp only [Bool.or_eq_true, beq_iff_eq] at hc
    rcases hc with rfl | rfl <;> decide

theorem Reads.indent {α : Type} {read : List Char → Option (α × List Char)} {b t : List Char}
    {a : α} (hb : Blank b) (h : Reads read t a) : Reads read (b ++ t) a := by
  obtain ⟨b', c, s, rfl, hb', h⟩ := h
  exact ⟨b ++ b', c, s, (List.append_assoc ..).symm, hb.append hb', h⟩

theorem Denotes.indent {b t : List Char} {d : Datum} (hb : Blank b) (h : Denotes t d) :
    Denotes (b ++ t) d :=
  fun fuel hfuel => (h fuel (by simp at hfuel; omega)).indent hb

theorem DenotesMember.indent {b t : List Char} {m : Key × Datum} (hb : Blank b)
    (h : DenotesMember t m) : DenotesMember (b ++ t) m :=
  fun fuel hfuel => (h fuel (by simp at hfuel; omega)).indent hb

theorem readDatum_blank {b : List Char} (h : Blank b) (fuel : Nat) (s : List Char) :
    readDatum fuel (b ++ s) = readDatum fuel s := by
  cases fuel with
  | zero => rfl
  | succ fuel => rw [readDatum, readDatum, skipBlank_append h]

theorem Denotes.readDatum_eq {t rest : List Char} {d : Datum} {fuel : Nat} (h : Denotes t d)
    (hfuel : t.length ≤ fuel) (hrest : EndsWord rest) :
    readDatum fuel (t ++ rest) = some (d, rest) := by
  obtain ⟨b, c, s, rfl, hb, -, hread⟩ := h fuel hfuel
  rw [List.append_assoc, readDatum_blank hb]
  exact hread rest hrest

section Sequence

variable {α : Type} {read : List Char → Option (α × List Char)} {close : Char}

theorem readSeq_step {t more b : List Char} {a : α} (h : Reads read t a) (hb : Blank b)
    (hclose : opens close = false) (hmore : EndsWord more) (fuel : Nat) :
    readSeq close read (fuel + 1) (b ++ (t ++ more)) =
      match skipBlank more with
      | [] => none
      | d :: s =>
        if d = ',' then (readSeq close read fuel s).map (mapRead (a :: ·))
        else if d = close then some ([a], s)
        else none := by
  obtain ⟨b', c, s, rfl, hb', hc, hread⟩ := h
  have hskip : skipBlank (b ++ (b' ++ c :: s ++ more)) = c :: (s ++ more) := by
    rw [skipBlank_append hb, List.append_assoc, skipBlank_append hb', List.cons_append,
      skipBlank_cons (not_blank_of_opens hc)]
  have hne : c ≠ close := by
    rintro rfl
    exact absurd hc (by simp [hclose])
  rw [readSeq, hskip]
  simp only [if_neg hne]
  rw [← List.cons_append, hread more hmore]
  rfl

theorem readSeq_intercalate {β : Type} {text : β → List Char} {value : β → α} {items : List β}
    (h : ∀ x ∈ items, Reads read (text x) (value x)) (hclose : close = ']' ∨ close = '}')
    {b sep b₂ : List Char} (hb : Blank b) (hsep : Blank sep) (hb₂ : Blank b₂) {fuel : Nat}
    (hfuel : items.length < fuel) (rest : List Char) :
    readSeq close read fuel
        (b ++ ((',' :: sep).intercalate (items.map text) ++ (b₂ ++ close :: rest))) =
      some (items.map value, rest) := by
  have hopens : opens close = false := by rcases hclose with rfl | rfl <;> rfl
  have hcomma : close ≠ ',' := by rcases hclose with rfl | rfl <;> decide
  have hclosed : skipBlank (b₂ ++ close :: rest) = close :: rest := by
    rw [skipBlank_append hb₂, skipBlank_cons (by rcases hclose with rfl | rfl <;> rfl)]
  have hend : EndsWord (b₂ ++ close :: rest) :=
    endsWord_blank_append hb₂ (endsWord_cons (by rcases hclose with rfl | rfl <;> decide) rest)
  obtain ⟨fuel, rfl⟩ := Nat.exists_eq_add_one_of_ne_zero (Nat.ne_zero_of_lt hfuel)
  -- Only the first item stands behind `b`; the others stand behind the separator.
  induction items generalizing fuel b with
  | nil =>
    rw [List.map_nil, List.intercalate_nil, List.nil_append, readSeq, skipBlank_append hb, hclosed]
    exact if_pos rfl
  | cons x items ih =>
    have hx := h x List.mem_cons_self
    cases items with
    | nil =>
      rw [List.map_singleton, List.intercalate_singleton, readSeq_step hx hb hopens hend, hclosed]
      simp only [if_neg hcomma, if_true]
      rfl
    | cons y items =>
      rw [List.map_cons, List.map_cons, List.intercalate_cons_cons]
      simp only [List.append_assoc, List.cons_append]
      rw [readSeq_step hx hb hopens (endsWord_cons (by decide) _), skipBlank_cons (by decide)]
      obtain ⟨fuel, rfl⟩ : ∃ k, fuel = k + 1 :=
        Nat.exists_eq_add_one_of_ne_zero (by simp at hfuel; omega)
      have hrest := ih (fun z hz => h z (List.mem_cons_of_mem x hz)) hsep fuel
        (by simp at hfuel ⊢; omega)
      rw [List.map_cons] at hrest
      simp only [hrest, if_true]
      rfl

end Sequence

theorem length_le_of_mem_intercalate (sep : List Char) {t : List Char} {ts : List (List Char)}
    (h : t ∈ ts) :
    t.length ≤ (sep.intercalate ts).length := by
  induction ts with
  | nil => cases h
  | cons u ts ih =>
    cases ts with
    | nil => simp_all
    | cons v ts =>
      rw [List.intercalate_cons_cons, List.length_append, List.length_append]
      rcases List.mem_cons.mp h with rfl | h
      · omega
      · have := ih h
        omega

theorem length_le_length_intercalate (sep : List Char) {ts : List (List Char)}
    (h : ∀ t ∈ ts, t ≠ []) : ts.length ≤ (sep.intercalate ts).length := by
  induction ts with
  | nil => simp
  | cons u ts ih =>
    have hu := List.length_pos_iff.mpr (h u List.mem_cons_self)
    have hts := ih fun t ht => h t (List.mem_cons_of_mem u ht)
    cases ts with
    | nil =>
      rw [List.intercalate_singleton, List.length_singleton]
      omega
    | cons v ts =>
      rw [List.intercalate_cons_cons, List.length_append, List.length_append, List.length_cons]
      omega

theorem Reads.ne_nil {α : Type} {read : List Char → Option (α × List Char)} {t : List Char} {a : α}
    (h : Reads read t a) : t ≠ [] := by
  obtain ⟨b, c, s, rfl, -⟩ := h
  simp

/-- Brackets around items, with blanks inside them and behind the commas. -/
def bracketed (opening closing : Char) (b sep b₂ : List Char) (ts : List (List Char)) : List Char :=
  opening :: (b ++ ((',' :: sep).intercalate ts ++ (b₂ ++ [closing])))

section Container

variable {β : Type} {text : β → List Char} {items : List β} {b sep b₂ : List Char}

theorem reads_bracketed {α : Type} {read : Nat → List Char → Option (α × List Char)}
    {value : β → α} {opening close : Char} (hclose : close = ']' ∨ close = '}')
    (h : ∀ x ∈ items, ∀ fuel, (text x).length ≤ fuel → Reads (read fuel) (text x) (value x))
    (hb : Blank b) (hsep : Blank sep) (hb₂ : Blank b₂) {fuel : Nat}
    (hfuel : (bracketed opening close b sep b₂ (items.map text)).length ≤ fuel + 1)
    (rest : List Char) :
    readSeq close (read fuel) fuel
        (b ++ ((',' :: sep).intercalate (items.map text) ++ (b₂ ++ close :: rest))) =
      some (items.map value, rest) := by
  simp only [bracketed, List.length_cons, List.length_append] at hfuel
  have hreads : ∀ x ∈ items, Reads (read fuel) (text x) (value x) := by
    intro x hx
    have hlen := length_le_of_mem_intercalate (',' :: sep) (List.mem_map_of_mem (f := text) hx)
    exact h x hx fuel (by omega)
  have hcount : items.length ≤ ((',' :: sep).intercalate (items.map text)).length := by
    have hne : ∀ t ∈ items.map text, t ≠ [] := by
      intro t ht
      obtain ⟨x, hx, rfl⟩ := List.mem_map.mp ht
      exact (hreads x hx).ne_nil
    simpa using length_le_length_intercalate (',' :: sep) hne
  exact readSeq_intercalate hreads hclose hb hsep hb₂ (by omega) rest

theorem denotes_array {value : β → Datum} (h : ∀ x ∈ items, Denotes (text x) (value x))
    (hb : Blank b) (hsep : Blank sep) (hb₂ : Blank b₂) :
    Denotes (bracketed '[' ']' b sep b₂ (items.map text)) (.array (items.map value)) := by
  intro fuel hfuel
  refine ⟨[], '[', _, rfl, by decide, rfl, fun rest _ => ?_⟩
  obtain ⟨fuel, rfl⟩ : ∃ k, fuel = k + 1 :=
    Nat.exists_eq_add_one_of_ne_zero (by simp [bracketed] at hfuel; omega)
  have hseq := reads_bracketed (.inl rfl) h hb hsep hb₂ hfuel rest
  simp only [List.cons_append, List.append_assoc, List.nil_append]
  rw [readDatum, skipBlank_cons (by decide)]
  simp only [hseq]
  rfl

theorem denotes_hash {value : β → Key × Datum} (h : ∀ x ∈ items, DenotesMember (text x) (value x))
    (hb : Blank b) (hsep : Blank sep) (hb₂ : Blank b₂) :
    Denotes (bracketed '{' '}' b sep b₂ (items.map text)) (.hash (items.map value)) := by
  intro fuel hfuel
  refine ⟨[], '{', _, rfl, by decide, rfl, fun rest _ => ?_⟩
  obtain ⟨fuel, rfl⟩ : ∃ k, fuel = k + 1 :=
    Nat.exists_eq_add_one_of_ne_zero (by simp [bracketed] at hfuel; omega)
  have hseq := reads_bracketed (.inr rfl) h hb hsep hb₂ hfuel rest
  simp only [List.cons_append, List.append_assoc, List.nil_append]
  rw [readDatum, skipBlank_cons (by decide)]
  simp only [hseq]
  rfl

end Container

theorem denotesMember_arrow {k p q t : List Char} {key : Key} {d : Datum} (hk : DenotesKey k key)
    (hp : Blank p) (hq : Blank q) (ht : Denotes t d) :
    DenotesMember (k ++ ' ' :: (p ++ '=' :: '>' :: (q ++ t))) (key, d) := by
  obtain ⟨⟨c, s, rfl, hc⟩, hkey⟩ := hk
  intro fuel hfuel
  refine ⟨[], c, s ++ ' ' :: (p ++ '=' :: '>' :: (q ++ t)), rfl, by decide, hc, ?_⟩
  intro rest hrest
  have harrow : skipBlank (' ' :: (p ++ '=' :: '>' :: (q ++ (t ++ rest)))) =
      '=' :: '>' :: (q ++ (t ++ rest)) := by
    have hblank : Blank (' ' :: p) := (show Blank [' '] by decide).append hp
    rw [← List.cons_append, skipBlank_append hblank, skipBlank_cons (by decide)]
  have hvalue : readDatum fuel (q ++ (t ++ rest)) = some (d, rest) := by
    rw [readDatum_blank hq]
    exact ht.readDatum_eq (by simp at hfuel; omega) hrest
  have hshape : c :: (s ++ ' ' :: (p ++ '=' :: '>' :: (q ++ t))) ++ rest =
      c :: s ++ ' ' :: (p ++ '=' :: '>' :: (q ++ (t ++ rest))) := by simp
  rw [hshape, readMember, hkey]
  simp only [Option.bind_eq_bind, Option.bind_some, harrow, hvalue]
  rfl

end CatalogRspec.Literal

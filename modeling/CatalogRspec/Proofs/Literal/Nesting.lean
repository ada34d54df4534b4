import CatalogRspec.Proofs.Literal.Denotation
import CatalogRspec.Proofs.Literal.Lexing

namespace CatalogRspec.Literal

def opener? : Char → Option Char
  | ']' => some '['
  | '}' => some '{'
  | _ => none

/-- The brackets open behind a character, the innermost first; only that one can be closed. -/
def bracketStep (around : List Char) (c : Char) : Option (List Char) :=
  if c = '[' ∨ c = '{' then some (c :: around)
  else
    match opener? c with
    | none => some around
    | some o => if around.head? = some o then some around.tail else none

/-- The brackets that are open behind a text, if it stands within `around`. What stands in a literal
is no bracket. -/
def bracketsBehind (around s : List Char) : Option (List Char) :=
  (lex .outside s).2.foldlM bracketStep around

/-- The line behind `before` begins with two spaces for each bracket around its first other
character. A bracket that this character closes is not around it. -/
def BeginsIndented (around before rest : List Char) : Prop :=
  ∃ c after inner, rest = List.replicate (2 * inner.length) ' ' ++ c :: after ∧ c ≠ ' ' ∧ c ≠ '\n' ∧
    bracketsBehind around (before ++ if (opener? c).isSome then [c] else []) = some inner

/-- All lines but the first begin indented. -/
def IsIndented (around s : List Char) : Prop :=
  ∀ before rest, s = before ++ '\n' :: rest → BeginsIndented around (before ++ ['\n']) rest

/-- A text that ends outside of all literals and closes the brackets that it opens. -/
structure IsClosed (s : List Char) : Prop where
  outside : (lex .outside s).1 = .outside
  brackets (around : List Char) : bracketsBehind around s = some around

def Opens (s : List Char) : Prop := ∃ c t, s = c :: t ∧ opens c = true

/-- A text that can stand for a value within these brackets, behind anything in its first line. -/
structure Fits (around s : List Char) : Prop where
  closed : IsClosed s
  indented : IsIndented around s
  starts : Opens s

section Closed

variable {s t : List Char}

theorem bracketsBehind_append (hs : (lex .outside s).1 = .outside) (around t : List Char) :
    bracketsBehind around (s ++ t) = (bracketsBehind around s).bind (bracketsBehind · t) := by
  unfold bracketsBehind
  rw [lex_append, hs, List.foldlM_append]
  rfl

theorem outside_append (hs : (lex .outside s).1 = .outside) (ht : (lex .outside t).1 = .outside) :
    (lex .outside (s ++ t)).1 = .outside := by
  rw [lex_append, hs]
  exact ht

theorem IsClosed.append (hs : IsClosed s) (ht : IsClosed t) : IsClosed (s ++ t) where
  outside := outside_append hs.outside ht.outside
  brackets around := by
    rw [bracketsBehind_append hs.outside, hs.brackets, Option.bind_some, ht.brackets]

def marks : List Char := ['\'', '"', '[', ']', '{', '}']

theorem bracketStep_of_not_mem {c : Char} (h : c ∉ marks) (around : List Char) :
    bracketStep around c = some around := by
  simp only [marks, List.mem_cons, List.not_mem_nil, or_false, not_or] at h
  obtain ⟨-, -, hopen, hclose, hopen', hclose'⟩ := h
  have hnone : opener? c = none := by
    unfold opener?
    split
    · exact absurd rfl hclose
    · exact absurd rfl hclose'
    · rfl
  rw [bracketStep, if_neg (not_or.mpr ⟨hopen, hopen'⟩), hnone]

theorem foldlM_bracketStep_of_no_mark (h : ∀ c ∈ s, c ∉ marks) (around : List Char) :
    s.foldlM bracketStep around = some around := by
  induction s with
  | nil => rfl
  | cons c s ih =>
    have hrest := ih fun d hd => h d (List.mem_cons_of_mem c hd)
    rw [List.foldlM_cons, bracketStep_of_not_mem (h c List.mem_cons_self)]
    exact hrest

theorem isClosed_of_no_mark (h : ∀ c ∈ s, c ∉ marks) : IsClosed s := by
  have hlex : lex .outside s = (.outside, s) := by
    refine lex_of_no_quote fun c hc => ?_
    have hmark := h c hc
    simp only [marks, List.mem_cons, not_or] at hmark
    exact ⟨hmark.1, hmark.2.1⟩
  refine ⟨by rw [hlex], fun around => ?_⟩
  rw [bracketsBehind, hlex]
  exact foldlM_bracketStep_of_no_mark h around

theorem isClosed_of_class {p : Char → Bool} (h : ∀ c ∈ s, p c = true)
    (hp : ∀ d ∈ marks, p d = false) : IsClosed s := by
  refine isClosed_of_no_mark fun c hc hmark => ?_
  have hclass := h c hc
  rw [hp c hmark] at hclass
  exact Bool.false_ne_true hclass

theorem isClosed_spaces (n : Nat) : IsClosed (List.replicate n ' ') := by
  refine isClosed_of_no_mark fun c hc => ?_
  rw [List.eq_of_mem_replicate hc]
  decide

theorem isClosed_break : IsClosed ['\n'] := isClosed_of_no_mark (by decide)

theorem isClosed_quoted (hs : Inert '"' s) : IsClosed ('"' :: (s ++ ['"'])) := by
  have hskeleton : lex .outside ('"' :: (s ++ ['"'])) = (.outside, ['"', '"']) :=
    hasSkeleton_quoted (.inr rfl) hs
  refine ⟨by rw [hskeleton], fun around => ?_⟩
  rw [bracketsBehind, hskeleton]
  rfl

end Closed

section Indented

variable {around inner before rest s t : List Char} {c : Char}

theorem BeginsIndented.append_right (h : BeginsIndented around before rest) (t : List Char) :
    BeginsIndented around before (rest ++ t) := by
  obtain ⟨c, after, inner, rfl, hc⟩ := h
  exact ⟨c, after ++ t, inner, by simp, hc⟩

theorem BeginsIndented.behind (hs : (lex .outside s).1 = .outside)
    (hinner : bracketsBehind around s = some inner) (h : BeginsIndented inner before rest) :
    BeginsIndented around (s ++ before) rest := by
  obtain ⟨c, after, around', hrest, hspace, hbreak, hbrackets⟩ := h
  refine ⟨c, after, around', hrest, hspace, hbreak, ?_⟩
  rw [List.append_assoc, bracketsBehind_append hs, hinner, Option.bind_some, hbrackets]

theorem isIndented_of_no_break (h : '\n' ∉ s) : IsIndented around s := by
  rintro before rest rfl
  exact absurd (by simp) h

theorem IsIndented.append (hs : IsIndented around s) (houtside : (lex .outside s).1 = .outside)
    (hinner : bracketsBehind around s = some inner) (ht : IsIndented inner t) :
    IsIndented around (s ++ t) := by
  intro before rest heq
  -- The line break stands in one of the two parts; a line does not go on from one to the other.
  rcases List.append_eq_append_iff.mp heq with ⟨w, rfl, hw⟩ | ⟨w, rfl, hw⟩
  · rw [List.append_assoc]
    exact (ht w rest hw).behind houtside hinner
  · cases w with
    | nil =>
      have hline := (ht [] rest hw.symm).behind houtside hinner
      simpa using hline
    | cons d w =>
      obtain ⟨rfl, rfl⟩ := List.cons.inj hw
      exact (hs before w rfl).append_right t

theorem IsIndented.append_closed (hs : IsIndented around s) (hclosed : IsClosed s)
    (ht : IsIndented around t) : IsIndented around (s ++ t) :=
  hs.append hclosed.outside (hclosed.brackets around) ht

theorem isIndented_line (hspace : c ≠ ' ') (hbreak : c ≠ '\n')
    (hinner : bracketsBehind around (if (opener? c).isSome then [c] else []) = some inner)
    (h : IsIndented around (c :: s)) :
    IsIndented around ('\n' :: (List.replicate (2 * inner.length) ' ' ++ c :: s)) := by
  intro before rest heq
  cases before with
  | nil =>
    obtain ⟨-, rfl⟩ := List.cons.inj heq
    have hhere : BeginsIndented around [] (List.replicate (2 * inner.length) ' ' ++ c :: s) :=
      ⟨c, s, inner, rfl, hspace, hbreak, hinner⟩
    exact hhere.behind isClosed_break.outside (isClosed_break.brackets around)
  | cons d before =>
    obtain ⟨rfl, hrest⟩ := List.cons.inj heq
    have hspaces : IsIndented around (List.replicate (2 * inner.length) ' ') :=
      isIndented_of_no_break (by simp)
    have hline := hspaces.append_closed (isClosed_spaces _) h before rest hrest
    have hbehind : BeginsIndented around (['\n'] ++ (before ++ ['\n'])) rest :=
      hline.behind isClosed_break.outside (isClosed_break.brackets around)
    exact hbehind

end Indented

section Fits

variable {around s t : List Char}

theorem of_opens {c : Char} (h : opens c = true) : c ≠ ' ' ∧ c ≠ '\n' ∧ opener? c = none := by
  simp only [opens, Bool.and_eq_true, Bool.not_eq_true', Bool.or_eq_false_iff, bne_iff_ne,
    beq_eq_false_iff_ne] at h
  obtain ⟨⟨⟨hspace, hbreak⟩, hclose⟩, hclose'⟩ := h
  refine ⟨hspace, hbreak, ?_⟩
  unfold opener?
  split
  · exact absurd rfl hclose
  · exact absurd rfl hclose'
  · rfl

theorem fits_of_no_break (hclosed : IsClosed s) (hbreak : '\n' ∉ s) (hopens : Opens s) :
    Fits around s :=
  ⟨hclosed, isIndented_of_no_break hbreak, hopens⟩

theorem Fits.behind (ht : Fits around t) (hs : IsClosed s) (hbreak : '\n' ∉ s)
    (hopens : Opens s) : Fits around (s ++ t) where
  closed := hs.append ht.closed
  indented := (isIndented_of_no_break hbreak).append_closed hs ht.indented
  starts := by
    obtain ⟨c, u, rfl, hc⟩ := hopens
    exact ⟨c, u ++ t, rfl, hc⟩

/-- What a bracket and the one that closes it do to the brackets around them. -/
structure IsPair (opening closing : Char) : Prop where
  opens : opens opening = true
  plain : closing ≠ ' ' ∧ closing ≠ '\n'
  outside : (lex .outside [opening]).1 = .outside ∧ (lex .outside [closing]).1 = .outside
  entered (around : List Char) : bracketsBehind around [opening] = some (opening :: around)
  left (around : List Char) : bracketsBehind (opening :: around) [closing] = some around

theorem isPair_of_opener? {opening closing : Char} (h : opener? closing = some opening) :
    IsPair opening closing := by
  unfold opener? at h
  split at h
  · cases h
    exact ⟨rfl, by decide, ⟨rfl, rfl⟩, fun _ => rfl, fun _ => rfl⟩
  · cases h
    exact ⟨rfl, by decide, ⟨rfl, rfl⟩, fun _ => rfl, fun _ => rfl⟩
  · cases h

/-- Lines within a pair of brackets, of which the closing one has a line of its own. -/
theorem fits_wrapped {opening closing : Char} (h : opener? closing = some opening) (hs : IsClosed s)
    (hindented : IsIndented (opening :: around) s) :
    Fits around
      (opening :: (s ++ '\n' :: (List.replicate (2 * around.length) ' ' ++ [closing]))) := by
  obtain ⟨hopens, ⟨hspace, hbreak⟩, ⟨houtside, houtside'⟩, hentered, hleft⟩ := isPair_of_opener? h
  have hlead : IsClosed (s ++ '\n' :: List.replicate (2 * around.length) ' ') :=
    hs.append (isClosed_break.append (isClosed_spaces _))
  have hshape : opening :: (s ++ '\n' :: (List.replicate (2 * around.length) ' ' ++ [closing])) =
      [opening] ++ ((s ++ '\n' :: List.replicate (2 * around.length) ' ') ++ [closing]) := by
    simp
  -- The closing bracket is not within itself, so its line has two spaces less than the others.
  have hlast : IsIndented (opening :: around)
      ('\n' :: (List.replicate (2 * around.length) ' ' ++ [closing])) := by
    refine isIndented_line hspace hbreak ?_ (isIndented_of_no_break (by simpa using hbreak.symm))
    rw [h]
    exact hleft around
  refine ⟨⟨?_, fun inner => ?_⟩, ?_, ⟨opening, _, rfl, hopens⟩⟩
  · rw [hshape]
    exact outside_append houtside (outside_append hlead.outside houtside')
  · rw [hshape, bracketsBehind_append houtside, hentered, Option.bind_some,
      bracketsBehind_append hlead.outside, hlead.brackets, Option.bind_some, hleft]
  · have hfirst : IsIndented around [opening] := by
      refine isIndented_of_no_break fun hmem => ?_
      exact absurd (List.mem_singleton.mp hmem ▸ hopens) (by decide)
    exact hfirst.append houtside (hentered around) (hindented.append_closed hs hlast)

end Fits

end CatalogRspec.Literal

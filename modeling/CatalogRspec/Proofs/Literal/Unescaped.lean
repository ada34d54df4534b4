import CatalogRspec.Proofs.Literal.Strings

namespace CatalogRspec.Literal

/-- A backslash alone stands for itself, two in a row stand for one. -/
def ReadsAsItself (s : List Char) : Prop := '\'' ∉ s ∧ ¬['\\', '\\'] <:+: s

theorem infix_cons_pair {a b c : Char} {s : List Char} :
    [a, b] <:+: c :: s ↔ (c = a ∧ s.head? = some b) ∨ [a, b] <:+: s := by
  rw [List.infix_cons_iff, List.cons_prefix_cons]
  cases s with
  | nil => simp
  | cons d s => simp [eq_comm]

theorem readsAsItself_cons {c : Char} {s : List Char} :
    ReadsAsItself (c :: s) ↔
      c ≠ '\'' ∧ ¬(c = '\\' ∧ s.head? = some '\\') ∧ ReadsAsItself s := by
  unfold ReadsAsItself
  rw [infix_cons_pair, List.mem_cons]
  tauto

theorem readsAsItself_append_of_plain {p s : List Char} (h : ∀ c ∈ p, c ≠ '\\' ∧ c ≠ '\'') :
    ReadsAsItself (p ++ s) ↔ ReadsAsItself s := by
  induction p with
  | nil => rfl
  | cons c p ih =>
    obtain ⟨hslash, hquote⟩ := h c List.mem_cons_self
    rw [List.cons_append, readsAsItself_cons, ih fun d hd => h d (List.mem_cons_of_mem c hd)]
    simp [hquote, hslash]

theorem mapRead_eq_some {c : Char} {x : Option (List Char × List Char)} {u rest : List Char}
    (h : x.map (mapRead (c :: ·)) = some (u, rest)) : ∃ w, u = c :: w ∧ x = some (w, rest) := by
  obtain ⟨⟨w, rest'⟩, hx, hw⟩ := Option.map_eq_some_iff.mp h
  obtain ⟨rfl, rfl⟩ := Prod.mk.inj hw
  exact ⟨w, rfl, hx⟩

section Raw

variable {s t u v rest after : List Char}

theorem readSingle_cons_raw {c : Char} (hquote : c ≠ '\'')
    (hlone : c = '\\' → s.head? ≠ some '\\' ∧ s.head? ≠ some '\'') (t : List Char) :
    readSingle (c :: s ++ ' ' :: t) = (readSingle (s ++ ' ' :: t)).map (mapRead (c :: ·)) := by
  by_cases hc : c = '\\'
  · obtain ⟨hslash, hend⟩ := hlone hc
    subst hc
    cases s with
    | nil => rfl
    | cons d s =>
      have hd : ¬(d = '\\' ∨ d = '\'') := by simpa [not_or] using And.intro hslash hend
      rw [List.cons_append, List.cons_append, readSingle, if_neg hd]
  · exact readSingle_plain (by simp [hc, hquote]) _

theorem readSingle_raw (h : ReadsAsItself s) (t : List Char) :
    readSingle (s ++ ' ' :: t) = (readSingle t).map (mapRead (s ++ ' ' :: ·)) := by
  induction s with
  | nil => exact readSingle_plain (by decide) t
  | cons c s ih =>
    obtain ⟨hquote, hlone, hrest⟩ := readsAsItself_cons.mp h
    have hnoquote : s.head? ≠ some '\'' := fun hhead => hrest.1 (List.mem_of_head? hhead)
    rw [readSingle_cons_raw hquote (fun hc => ⟨fun hs => hlone ⟨hc, hs⟩, hnoquote⟩) t, ih hrest,
      Option.map_map]
    rfl

/-- What comes back is never longer than what was written, and shorter if anything was escaped. -/
theorem length_readSingle_raw (ht : readSingle t = some (v, after))
    (hs : readSingle (s ++ ' ' :: t) = some (u, rest)) :
    u.length ≤ s.length + 1 + v.length ∧
      (u.length = s.length + 1 + v.length → ReadsAsItself s) := by
  -- Along the reader: an escape costs a character, a quote all that is left, and nothing else any.
  induction s using readSingle.induct generalizing u rest with
  | case1 =>
    rw [List.nil_append, readSingle_plain (by decide), ht] at hs
    obtain ⟨rfl, -⟩ := Prod.mk.inj (Option.some.inj hs)
    exact ⟨by simp [Nat.add_comm], fun _ => by simp [ReadsAsItself]⟩
  | case2 c s h ih =>
    rw [List.cons_append, List.cons_append, readSingle_escape h] at hs
    obtain ⟨w, rfl, hw⟩ := mapRead_eq_some hs
    have hle := (ih hw).1
    simp only [List.length_cons]
    omega
  | case3 c s h ih =>
    rw [List.cons_append, List.cons_append, readSingle, if_neg h] at hs
    obtain ⟨w, rfl, hw⟩ := mapRead_eq_some hs
    obtain ⟨hle, heq⟩ := ih hw
    simp only [List.length_cons] at hle heq ⊢
    refine ⟨by omega, fun hlength => readsAsItself_cons.mpr ⟨by decide, ?_, heq (by omega)⟩⟩
    exact fun hslash => h (.inl (Option.some.inj hslash.2))
  | case4 s h =>
    rw [List.cons_append, readSingle_quote] at hs
    obtain ⟨rfl, -⟩ := Prod.mk.inj (Option.some.inj hs)
    simp only [List.length_nil, List.length_cons]
    omega
  | case5 c s h hquote ih =>
    have hend (hc : c = '\\') : s = [] := by
      cases s with
      | nil => rfl
      | cons d s => exact (h d s hc rfl).elim
    rw [readSingle_cons_raw hquote (fun hc => by simp [hend hc])] at hs
    obtain ⟨w, rfl, hw⟩ := mapRead_eq_some hs
    obtain ⟨hle, heq⟩ := ih hw
    rw [List.length_cons, List.length_cons]
    refine ⟨by omega, fun hlength => readsAsItself_cons.mpr ⟨hquote, ?_, heq (by omega)⟩⟩
    rintro ⟨hc, hslash⟩
    simp [hend hc] at hslash

/-- Unescaped text in front of a string's own end reads as itself or not at all. -/
theorem readSingle_raw_iff (ht : readSingle t = some (v, after)) :
    (∃ rest, readSingle (s ++ ' ' :: t) = some (s ++ ' ' :: v, rest)) ↔ ReadsAsItself s := by
  constructor
  · rintro ⟨rest, hs⟩
    refine (length_readSingle_raw ht hs).2 ?_
    simp only [List.length_append, List.length_cons]
    omega
  · intro h
    exact ⟨after, by rw [readSingle_raw h, ht]; rfl⟩

end Raw

end CatalogRspec.Literal

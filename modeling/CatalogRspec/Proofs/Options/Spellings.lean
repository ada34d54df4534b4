import CatalogRspec.Proofs.Options.Entries
import Mathlib.Data.List.Forall2

namespace CatalogRspec.Config

/-- The same key, or two spellings of the key of one field. -/
def SameKey (a b : Option String) : Prop :=
  a = b ∨ ∃ f : Field, ∃ s ∈ f.spellings, ∃ t ∈ f.spellings, a = some s ∧ b = some t

def Respelt (e e' : Entry) : Prop := SameKey e.key e'.key ∧ e.value = e'.value

/-- The same entries in another order, whose keys may be spelt otherwise. -/
def SameEntries (es es' : List Entry) : Prop :=
  ∃ ordered, es.Perm ordered ∧ List.Forall₂ Respelt ordered es'

theorem gives_of_spelling {e : Entry} {f : Field} {s : String} (hkey : e.key = some s)
    (hs : s ∈ f.spellings) (g : Field) : e.gives g ↔ f = g := by
  rw [Entry.gives_iff, hkey, Option.bind_some, Field.ofKey?_eq_some_iff.mpr hs, Option.some_inj]

theorem Respelt.gives_iff {e e' : Entry} (h : Respelt e e') (f : Field) :
    e.gives f ↔ e'.gives f := by
  obtain hkey | ⟨g, s, hs, t, ht, hkey, hkey'⟩ := h.1
  · rw [Entry.gives_iff, Entry.gives_iff, hkey]
  · rw [gives_of_spelling hkey hs, gives_of_spelling hkey' ht]

theorem Respelt.isSome_key {e e' : Entry} (h : Respelt e e') : e.key.isSome ↔ e'.key.isSome := by
  obtain hkey | ⟨_, s, _, t, _, hkey, hkey'⟩ := h.1
  · rw [hkey]
  · simp [hkey, hkey']

theorem isSome_keys_of_respelt {es es' : List Entry} (h : List.Forall₂ Respelt es es') :
    (∀ e ∈ es, e.key.isSome) ↔ ∀ e ∈ es', e.key.isSome := by
  induction h with
  | nil => simp
  | cons hentry _ ih =>
    simp only [List.forall_mem_cons]
    rw [hentry.isSome_key, ih]

theorem valuesFor_of_respelt {es es' : List Entry} (h : List.Forall₂ Respelt es es') (f : Field) :
    valuesFor f es = valuesFor f es' := by
  induction h with
  | nil => rfl
  | @cons e e' _ _ hentry _ ih =>
    by_cases hf : e.gives f
    · rw [valuesFor_cons_of_gives hf, valuesFor_cons_of_gives ((hentry.gives_iff f).mp hf), ih,
        hentry.2]
    · have hf' : ¬ e'.gives f := by rwa [← hentry.gives_iff f]
      rw [valuesFor_cons_of_not_gives hf, valuesFor_cons_of_not_gives hf', ih]

theorem valuesFor_perm {es es' : List Entry} (h : es.Perm es') (f : Field) :
    (valuesFor f es).Perm (valuesFor f es') := (h.filter _).map _

/-- There is at most one value that counts, so their order does not. -/
theorem settleAll_perm {cs cs' : List Content} (h : cs.Perm cs') (f : Field) (now : f.Value) :
    settleAll f now cs = settleAll f now cs' := by
  match cs, cs', h with
  | [], cs', h => rw [h.nil_eq]
  | [c], cs', h => rw [List.singleton_perm.mp h]
  | a :: b :: rest, cs', h =>
    match cs', h.length_eq with
    | _ :: _ :: _, _ => rfl

theorem settleAll_null (f : Field) (now : f.Value) :
    settleAll f now [.null] = settleAll f now [] := by
  rw [settleAll, settleAll, Content.settle, if_pos rfl]

theorem settleAll_of_two_le {cs : List Content} (h : 2 ≤ cs.length) (f : Field) (now : f.Value) :
    settleAll f now cs = none := by
  match cs, h with
  | _ :: _ :: _, _ => rfl

theorem toOption_parse_congr {text text' : String} {es es' : List Entry}
    (h : entries? text = some es) (h' : entries? text' = some es')
    (hkeys : (∀ e ∈ es, e.key.isSome) ↔ ∀ e ∈ es', e.key.isSome)
    (hvalues : ∀ f, settleAll f (valueOf {} f) (valuesFor f es) =
      settleAll f (valueOf {} f) (valuesFor f es')) :
    (parse text).toOption = (parse text').toOption := by
  refine Option.ext fun o => ?_
  rw [toOption_parse_eq_some_iff h, toOption_parse_eq_some_iff h', hkeys]
  simp only [hvalues]

theorem toOption_parse_of_sameEntries {text text' : String} {es es' : List Entry}
    (h : entries? text = some es) (h' : entries? text' = some es') (hsame : SameEntries es es') :
    (parse text).toOption = (parse text').toOption := by
  obtain ⟨ordered, hperm, hrespelt⟩ := hsame
  refine toOption_parse_congr h h' ?_ fun f => ?_
  · have hordered : (∀ e ∈ es, e.key.isSome) ↔ ∀ e ∈ ordered, e.key.isSome := by
      simp only [hperm.mem_iff]
    rw [hordered, isSome_keys_of_respelt hrespelt]
  · rw [settleAll_perm (valuesFor_perm hperm f), valuesFor_of_respelt hrespelt]

theorem parse_eq_error_of_two_le {text : String} {es : List Entry} (h : entries? text = some es)
    {f : Field} (htwo : 2 ≤ es.countP (·.gives f)) : ∃ e, parse text = .error e := by
  cases hparse : parse text with
  | error e => exact ⟨e, rfl⟩
  | ok o =>
    have hlength : 2 ≤ (valuesFor f es).length := by
      rwa [valuesFor, List.length_map, ← List.countP_eq_length_filter]
    have hall := ((toOption_parse_eq_some_iff h o).mp (by rw [hparse]; rfl)).2 f
    rw [settleAll_of_two_le hlength] at hall
    cases hall

/-- An entry for no field does not matter, and neither does a null for a field that no other entry
gives. -/
theorem toOption_parse_of_added {text text' : String} {es es' : List Entry} {key : String}
    {c : Content} (h : entries? text = some es) (h' : entries? text' = some es')
    (hadded : es'.Perm (⟨some key, c⟩ :: es))
    (hkey : ∀ f : Field, key ∈ f.spellings → c = .null ∧ ∀ e ∈ es, ¬ e.gives f) :
    (parse text').toOption = (parse text).toOption := by
  refine toOption_parse_congr h' h ?_ fun f => ?_
  · have hmem : (∀ e ∈ es', e.key.isSome) ↔ ∀ e ∈ (⟨some key, c⟩ :: es : List Entry),
        e.key.isSome := by simp only [hadded.mem_iff]
    rw [hmem, List.forall_mem_cons]
    simp
  · rw [settleAll_perm (valuesFor_perm hadded f)]
    by_cases hf : key ∈ f.spellings
    · obtain ⟨rfl, hnone⟩ := hkey f hf
      have hgives : (⟨some key, .null⟩ : Entry).gives f := (gives_of_spelling rfl hf f).mpr rfl
      have hes : valuesFor f es = [] := by
        rw [valuesFor, List.filter_eq_nil_iff.mpr hnone, List.map_nil]
      rw [valuesFor_cons_of_gives hgives, hes, settleAll_null]
    · rw [valuesFor_cons_of_not_gives]
      rwa [Entry.gives_iff, Option.bind_some, Field.ofKey?_eq_some_iff]

/-- Configs that hold the same entries, in any order and with keys spelt either way, give the same
options or both fail. One that gives a field twice fails. An entry with a key of no field, or a null
for a field that is not given, may be added anywhere. -/
theorem parse_same_entries :
    (∀ text text' es es', entries? text = some es → entries? text' = some es' →
      SameEntries es es' → (parse text).toOption = (parse text').toOption) ∧
    (∀ text es (f : Field), entries? text = some es → 2 ≤ es.countP (·.gives f) →
      ∃ e, parse text = .error e) ∧
    ∀ text text' es es' key c, entries? text = some es → entries? text' = some es' →
      es'.Perm (⟨some key, c⟩ :: es) →
      (∀ f : Field, key ∈ f.spellings → c = .null ∧ ∀ e ∈ es, ¬ e.gives f) →
      (parse text').toOption = (parse text).toOption := by
  refine ⟨?_, ?_, ?_⟩
  · intro text text' es es' h h' hsame
    exact toOption_parse_of_sameEntries h h' hsame
  · intro text es f h htwo
    exact parse_eq_error_of_two_le h htwo
  · intro text text' es es' key c h h' hadded hkey
    exact toOption_parse_of_added h h' hadded hkey

theorem parse_same_entries_with_colons :
    let plain := "excludes: [a, b]\nmd5sums: true\n"
    let colons := ":md5sums: True\n:excludes: [\"a\", 'b']\n"
    let twice := "excludes: [a]\n:excludes: ~\n"
    let added := "excludes: [a, b]\nfoo: bar\nmd5sums: true\n"
    let absent := "excludes: [a, b]\nmd5sums: true\n:strict_content:\n"
    (parse plain).toOption = (parse colons).toOption ∧ (∃ e, parse twice = .error e) ∧
      (parse added).toOption = (parse plain).toOption ∧
      (parse absent).toOption = (parse plain).toOption ∧
      (parse plain).toOption = some { excludes := ["a", "b"], md5sums := true } := by
  intro plain colons twice added absent
  obtain ⟨hsame, htwice, hadded⟩ := parse_same_entries
  let excludes : Entry := ⟨some "excludes", .texts [some "a", some "b"]⟩
  let md5sums : Entry := ⟨some "md5sums", .truth true⟩
  have hplain : entries? plain = some [excludes, md5sums] := by decide +kernel
  have hcolons : entries? colons = some [⟨some ":md5sums", md5sums.value⟩,
      ⟨some ":excludes", excludes.value⟩] := by decide +kernel
  refine ⟨hsame _ _ _ _ hplain hcolons ⟨_, List.Perm.swap _ _ _, .cons ⟨.inr ?_, rfl⟩
    (.cons ⟨.inr ?_, rfl⟩ .nil)⟩, ?_, ?_, ?_, by decide +kernel⟩
  · exact ⟨.md5sums, _, by decide, _, by decide, rfl, rfl⟩
  · exact ⟨.excludes, _, by decide, _, by decide, rfl, rfl⟩
  · exact htwice twice [⟨some "excludes", .texts [some "a"]⟩, ⟨some ":excludes", .null⟩] .excludes
      (by decide +kernel) (by decide)
  · refine hadded plain added _ [excludes, ⟨some "foo", .other⟩, md5sums] "foo" .other hplain
      (by decide +kernel) (List.Perm.swap _ _ _) fun f hf => ?_
    cases f <;> exact absurd hf (by decide)
  · refine hadded plain absent _ [excludes, md5sums, ⟨some ":strict_content", .null⟩]
      ":strict_content" .null hplain (by decide +kernel) (by decide) fun f hf => ⟨rfl, ?_⟩
    cases f with
    | strictContent => decide
    | _ => exact absurd hf (by decide)

end CatalogRspec.Config

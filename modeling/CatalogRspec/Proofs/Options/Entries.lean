import CatalogRspec.Proofs.Options.Contents

namespace CatalogRspec.Config

open Yaml

/-- A key, if it is a scalar, and what its value holds. -/
structure Entry where
  key : Option String
  value : Content
deriving Repr, DecidableEq

def Entry.ofPair (events : List Yaml.Event) (pair : Node × Node) : Entry :=
  ⟨text? events pair.1, .ofResolved events (pair.2.resolve events)⟩

def Entry.gives (e : Entry) (f : Field) : Bool := f.spellings.any fun s => e.key = some s

theorem Entry.gives_iff {e : Entry} {f : Field} :
    e.gives f ↔ e.key.bind Field.ofKey? = some f := by
  obtain ⟨key, value⟩ := e
  cases key with
  | none => simp [gives]
  | some key => simp [gives, Field.ofKey?_eq_some_iff]

def valuesFor (f : Field) (es : List Entry) : List Content :=
  (es.filter (·.gives f)).map Entry.value

theorem valuesFor_cons_of_gives {e : Entry} {f : Field} (h : e.gives f) (es : List Entry) :
    valuesFor f (e :: es) = e.value :: valuesFor f es := by
  simp [valuesFor, h]

theorem valuesFor_cons_of_not_gives {e : Entry} {f : Field} (h : ¬ e.gives f) (es : List Entry) :
    valuesFor f (e :: es) = valuesFor f es := by
  simp [valuesFor, h]

/-- What a field is set to by all that is held for it, which may not be more than one thing. -/
def settleAll (f : Field) (now : f.Value) : List Content → Option f.Value
  | [] => some now
  | [c] => c.settle f now
  | _ => none

theorem settleAll_cons_eq_some_iff {f : Field} {now x : f.Value} {c : Content}
    {cs : List Content} :
    settleAll f now (c :: cs) = some x ↔ cs = [] ∧ c.settle f now = some x := by
  cases cs with
  | nil => simp [settleAll]
  | cons c' cs => simp [settleAll]

theorem toOption_ofEntries_cons (d : Document) (since : Mark) (seen : List Field) (o : Options)
    (k v : Node) (rest : List (Node × Node)) :
    (ofEntries d since seen o ((k, v) :: rest)).toOption =
      (text? d.events k).bind fun key =>
        match Field.ofKey? key with
        | none => (ofEntries d since seen o rest).toOption
        | some f =>
          if f ∈ seen then none
          else
            let content := Content.ofResolved d.events (v.resolve d.events)
            (content.settle f (valueOf o f)).bind fun x =>
              (ofEntries d since (f :: seen) (withValue o f x) rest).toOption := by
  rw [ofEntries, Except.toOption_bind, toOption_string]
  refine congrArg (Option.bind _) (funext fun key => ?_)
  cases Field.ofKey? key with
  | none => rfl
  | some f =>
    by_cases hseen : f ∈ seen
    · simp [hseen]
    · have hjoin : (do
            let absent ← isAbsent since (v.resolve d.events)
            let o ← if absent then pure o
              else setField d o f (keyLabel key k) (v.resolve d.events)
            ofEntries d since (f :: seen) o rest) =
          (do
            let absent ← isAbsent since (v.resolve d.events)
            if absent then pure o
              else setField d o f (keyLabel key k) (v.resolve d.events)) >>=
            fun o => ofEntries d since (f :: seen) o rest := by
        cases isAbsent since (v.resolve d.events) with
        | error e => rfl
        | ok absent => cases absent <;> rfl
      dsimp only
      rw [if_neg (by simpa using hseen), if_neg hseen, hjoin, Except.toOption_bind, toOption_entry,
        Option.bind_map]
      rfl

/-- A field that was seen keeps its value and may not be given; any other is settled by what is held
for it. -/
def Settles (seen : List Field) (o o' : Options) (es : List Entry) (f : Field) : Prop :=
  if f ∈ seen then valuesFor f es = [] ∧ valueOf o' f = valueOf o f
  else settleAll f (valueOf o f) (valuesFor f es) = some (valueOf o' f)

section Settles

variable {seen : List Field} {o o' : Options} {e : Entry} {es : List Entry} {f : Field}

theorem settles_nil_iff : Settles seen o o' [] f ↔ valueOf o f = valueOf o' f := by
  unfold Settles
  split
  · simp [valuesFor, eq_comm]
  · simp [valuesFor, settleAll]

theorem settles_cons_of_not_gives (h : ¬ e.gives f) :
    Settles seen o o' (e :: es) f ↔ Settles seen o o' es f := by
  unfold Settles
  rw [valuesFor_cons_of_not_gives h]

theorem not_settles_of_mem (h : e.gives f) (hseen : f ∈ seen) :
    ¬ Settles seen o o' (e :: es) f := by
  unfold Settles
  rw [if_pos hseen, valuesFor_cons_of_gives h]
  rintro ⟨hnil, -⟩
  cases hnil

theorem settles_cons_of_gives (h : e.gives f) (hseen : f ∉ seen) :
    Settles seen o o' (e :: es) f ↔
      ∃ x, e.value.settle f (valueOf o f) = some x ∧
        Settles (f :: seen) (withValue o f x) o' es f := by
  unfold Settles
  simp only [hseen, List.mem_cons_self, if_false, if_true, valuesFor_cons_of_gives h,
    settleAll_cons_eq_some_iff]
  constructor
  · rintro ⟨hnil, hx⟩
    exact ⟨valueOf o' f, hx, hnil, (valueOf_withValue o f _).symm⟩
  · rintro ⟨x, hx, hnil, hvalue⟩
    rw [valueOf_withValue] at hvalue
    exact ⟨hnil, hvalue ▸ hx⟩

theorem settles_withValue_of_ne {g : Field} (h : g ≠ f) (x : f.Value) :
    Settles (f :: seen) (withValue o f x) o' es g ↔ Settles seen o o' es g := by
  unfold Settles
  rw [valueOf_withValue_of_ne o h]
  simp [h]

theorem forall_settles_cons_of_unknown (h : e.key.bind Field.ofKey? = none) :
    (∀ g, Settles seen o o' (e :: es) g) ↔ ∀ g, Settles seen o o' es g := by
  have hnot (g : Field) : ¬ e.gives g := by simp [Entry.gives_iff, h]
  simp only [settles_cons_of_not_gives (hnot _)]

/-- An entry settles its field, and all other fields are left to what is behind it. -/
theorem forall_settles_cons_of_field (h : e.key.bind Field.ofKey? = some f) (hseen : f ∉ seen) :
    (∀ g, Settles seen o o' (e :: es) g) ↔
      ∃ x, e.value.settle f (valueOf o f) = some x ∧
        ∀ g, Settles (f :: seen) (withValue o f x) o' es g := by
  have hself : e.gives f := Entry.gives_iff.mpr h
  have hother (x : f.Value) {g : Field} (hg : g ≠ f) :
      Settles seen o o' (e :: es) g ↔ Settles (f :: seen) (withValue o f x) o' es g := by
    have hnot : ¬ e.gives g := by
      rw [Entry.gives_iff, h]
      intro heq
      exact hg (Option.some.inj heq).symm
    rw [settles_withValue_of_ne hg, settles_cons_of_not_gives hnot]
  constructor
  · intro hall
    obtain ⟨x, hx, hf⟩ := (settles_cons_of_gives hself hseen).mp (hall f)
    refine ⟨x, hx, fun g => ?_⟩
    by_cases hg : g = f
    · subst hg
      exact hf
    · exact (hother x hg).mp (hall g)
  · rintro ⟨x, hx, hall⟩ g
    by_cases hg : g = f
    · subst hg
      exact (settles_cons_of_gives hself hseen).mpr ⟨x, hx, hall g⟩
    · exact (hother x hg).mpr (hall g)

end Settles

/-- Reading succeeds if all keys are scalars and each field comes to be settled. -/
theorem toOption_ofEntries_eq_some_iff (d : Document) (since : Mark) (seen : List Field)
    (o o' : Options) (entries : List (Node × Node)) :
    (ofEntries d since seen o entries).toOption = some o' ↔
      (∀ e ∈ entries.map (Entry.ofPair d.events), e.key.isSome) ∧
        ∀ f, Settles seen o o' (entries.map (Entry.ofPair d.events)) f := by
  -- On the entries; what has been seen and set so far changes from one to the next.
  induction entries generalizing seen o with
  | nil =>
    simp only [ofEntries, List.map_nil, settles_nil_iff]
    constructor
    · intro h
      cases h
      exact ⟨fun e he => absurd he List.not_mem_nil, fun _ => rfl⟩
    · rintro ⟨-, h⟩
      rw [ext_valueOf h]
      rfl
  | cons pair rest ih =>
    obtain ⟨k, v⟩ := pair
    rw [toOption_ofEntries_cons, List.map_cons, List.forall_mem_cons]
    have hkey : (Entry.ofPair d.events (k, v)).key = text? d.events k := rfl
    cases htext : text? d.events k with
    | none => simp [hkey, htext]
    | some key =>
      have hfield : (Entry.ofPair d.events (k, v)).key.bind Field.ofKey? = Field.ofKey? key := by
        rw [hkey, htext, Option.bind_some]
      rw [Option.bind_some, hkey, htext]
      cases hof : Field.ofKey? key with
      | none => simp [forall_settles_cons_of_unknown (hfield.trans hof), ih]
      | some f =>
        by_cases hseen : f ∈ seen
        · have hgives : (Entry.ofPair d.events (k, v)).gives f :=
            Entry.gives_iff.mpr (hfield.trans hof)
          simp only [if_pos hseen]
          constructor
          · intro h
            cases h
          · rintro ⟨-, h⟩
            exact absurd (h f) (not_settles_of_mem hgives hseen)
        · rw [forall_settles_cons_of_field (hfield.trans hof) hseen]
          simp only [if_neg hseen]
          rw [Option.bind_eq_some_iff]
          constructor
          · rintro ⟨x, hx, hrest⟩
            obtain ⟨hkeys, hall⟩ := (ih _ _).mp hrest
            exact ⟨⟨rfl, hkeys⟩, x, hx, hall⟩
          · rintro ⟨⟨-, hkeys⟩, x, hx, hall⟩
            exact ⟨x, hx, (ih _ _).mpr ⟨hkeys, hall⟩⟩

/-- The entries of a text that is one document, which is a mapping. A text of blanks holds none. -/
def entries? (text : String) : Option (List Entry) :=
  let d := Document.read text
  if (Text.trim text.toList).isEmpty || d.fault.isSome || d.more then none
  else
    match Node.ofEvents d.events with
    | .mapping _ entries => some (entries.map (Entry.ofPair d.events))
    | _ => none

theorem ofDocument_of_mapping {d : Document} {m : Mark} {entries : List (Node × Node)}
    (hnode : Node.ofEvents d.events = .mapping m entries) (hfault : d.fault = none)
    (hmore : d.more = false) : ofDocument d = ofEntries d m [] {} entries := by
  have hevents : d.events.isEmpty = false := by
    cases hlist : d.events with
    | nil =>
      rw [hlist] at hnode
      cases hnode
    | cons e rest => rfl
  have hthen (x : Except Error Options) : (x >>= fun o => pure o) = x := by cases x <;> rfl
  simp only [ofDocument, hevents, hfault, hmore, hnode, ofNode, Bool.false_and, Bool.false_eq_true,
    Option.isSome_none, if_false, pure_bind]
  exact hthen _

theorem exists_of_entries? {text : String} {es : List Entry} (h : entries? text = some es) :
    ∃ d m entries, parse text = ofEntries d m [] {} entries ∧
      es = entries.map (Entry.ofPair d.events) := by
  dsimp only [entries?] at h
  split at h
  next => cases h
  next hread =>
    simp only [Bool.or_eq_true, not_or, Bool.not_eq_true, Option.isSome_eq_false_iff,
      Option.isNone_iff_eq_none] at hread
    obtain ⟨⟨hblank, hfault⟩, hmore⟩ := hread
    split at h
    next m entries hnode =>
      refine ⟨.read text, m, entries, ?_, (Option.some.inj h).symm⟩
      simp only [parse, hblank, Bool.false_eq_true, if_false]
      exact ofDocument_of_mapping hnode hfault hmore
    next => cases h

theorem toOption_parse_eq_some_iff {text : String} {es : List Entry} (h : entries? text = some es)
    (o : Options) :
    (parse text).toOption = some o ↔
      (∀ e ∈ es, e.key.isSome) ∧
        ∀ f, settleAll f (valueOf {} f) (valuesFor f es) = some (valueOf o f) := by
  obtain ⟨d, m, entries, hparse, rfl⟩ := exists_of_entries? h
  rw [hparse, toOption_ofEntries_eq_some_iff]
  simp [Settles]

end CatalogRspec.Config

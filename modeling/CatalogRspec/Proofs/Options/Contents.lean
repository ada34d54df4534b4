import CatalogRspec.Options.Config
import CatalogRspec.Proofs.Log.Except

namespace CatalogRspec.Config

open Yaml

def Field.Value : Field → Type
  | .excludes | .onlyInclude => List String
  | .md5sums | .strictContent => Bool

def valueOf (o : Options) : (f : Field) → f.Value
  | .excludes => o.excludes
  | .onlyInclude => o.onlyInclude
  | .md5sums => o.md5sums
  | .strictContent => o.strictContent

def withValue (o : Options) : (f : Field) → f.Value → Options
  | .excludes, x => { o with excludes := x }
  | .onlyInclude, x => { o with onlyInclude := x }
  | .md5sums, x => { o with md5sums := x }
  | .strictContent, x => { o with strictContent := x }

theorem valueOf_withValue (o : Options) (f : Field) (x : f.Value) :
    valueOf (withValue o f x) f = x := by
  cases f <;> rfl

theorem valueOf_withValue_of_ne (o : Options) {f g : Field} (h : g ≠ f) (x : f.Value) :
    valueOf (withValue o f x) g = valueOf o g := by
  cases f <;> cases g <;> first | rfl | exact absurd rfl h

theorem withValue_valueOf (o : Options) (f : Field) : withValue o f (valueOf o f) = o := by
  cases f <;> rfl

theorem ext_valueOf {o o' : Options} (h : ∀ f, valueOf o f = valueOf o' f) : o = o' := by
  have hexcludes : o.excludes = o'.excludes := h .excludes
  have honly : o.onlyInclude = o'.onlyInclude := h .onlyInclude
  have hmd5 : o.md5sums = o'.md5sums := h .md5sums
  have hstrict : o.strictContent = o'.strictContent := h .strictContent
  cases o
  cases o'
  simp only [Options.mk.injEq]
  exact ⟨hexcludes, honly, hmd5, hstrict⟩

/-- The two ways to write the key of a field. -/
def Field.spellings (f : Field) : List String := [f.name, ":" ++ f.name]

theorem Field.ofKey?_eq_some_iff {key : String} {f : Field} :
    ofKey? key = some f ↔ key ∈ f.spellings := by
  constructor
  · intro h
    have hkey := List.find?_some h
    simpa [spellings] using hkey
  · intro h
    have hkey : key = f.name ∨ key = ":" ++ f.name := by simpa [spellings] using h
    obtain rfl | rfl := hkey
    · cases f <;> decide
    · cases f <;> decide

/-- What a value holds, as far as a config can tell. -/
inductive Content where
  | null
  | truth (b : Bool)
  /-- The texts in a sequence, where what is no scalar has none. -/
  | texts (items : List (Option String))
  /-- An empty text that a tag makes more than nothing. -/
  | empty
  | other
deriving Repr, DecidableEq

/-- Whether a tag says that a plain scalar is null. -/
def saysNull (s : Scalar) : Bool :=
  s.style = .plain && s.tag.bind ScalarType.ofTag? = some .null

/-- Nothing at all or a word for it, and not quoted. With a tag for null the word has to be there, since
the tag alone is refused. -/
def isNullScalar (s : Scalar) : Bool :=
  (s.style = .plain && s.tag.isNone && s.text.isEmpty) ||
    (s.style = .plain && (s.tag.isNone || saysNull s) && isNull s.text)

def Content.ofScalar (s : Scalar) : Content :=
  if isNullScalar s then .null
  else if saysNull s then .other
  else
    match (if mayBeBool s then bool? s.text else none) with
    | some b => .truth b
    | none => if s.style = .plain && s.text.isEmpty then .empty else .other

def text? (events : List Yaml.Event) (n : Node) : Option String :=
  match n.resolve events with
  | .scalar _ s => some s.text
  | _ => none

def Content.ofResolved (events : List Yaml.Event) : Node → Content
  | .scalar _ s => .ofScalar s
  | .sequence _ items => .texts (items.map (text? events))
  | _ => .other

/-- A list of texts, for which an empty text may stand. -/
def Content.texts? : Content → Option (List String)
  | .texts items => items.mapM id
  | .empty => some []
  | _ => none

def Content.truth? : Content → Option Bool
  | .truth b => some b
  | _ => none

def Content.valueFor (c : Content) : (f : Field) → Option f.Value
  | .excludes | .onlyInclude => c.texts?
  | .md5sums | .strictContent => c.truth?

/-- What a field is set to by a value, where a null leaves what is there. -/
def Content.settle (f : Field) (now : f.Value) (c : Content) : Option f.Value :=
  if c = .null then some now else c.valueFor f

section Readers

variable (d : Document) (key : String) (since : Mark)

theorem toOption_mismatch {α : Type} (place : Place) (wanted : Wanted) (n : Node) :
    (mismatch d place wanted n : Except Error α).toOption = none := by
  cases n with
  | scalar m s =>
    rw [mismatch]
    cases Found.ofScalar s with
    | ok found => rfl
    | error type => rfl
  | _ => rfl

theorem toOption_string (place : Place) (wanted : Wanted) (n : Node) :
    (string d place wanted n).toOption = text? d.events n := by
  unfold string text?
  cases n.resolve d.events with
  | scalar m s => rfl
  | _ => exact toOption_mismatch d place wanted _

theorem toOption_strings (index : Nat) (items : List Node) :
    (strings d key index items).toOption = (items.map (text? d.events)).mapM id := by
  induction items generalizing index with
  | nil => rfl
  | cons n rest ih =>
    rw [strings, Except.toOption_bind, toOption_string, List.map_cons, List.mapM_cons]
    refine congrArg (Option.bind _) (funext fun s => ?_)
    rw [Except.toOption_bind, ih]
    rfl

theorem toOption_isAbsent_scalar (m : Mark) (s : Scalar) :
    (isAbsent since (.scalar m s)).toOption =
      if isNullScalar s then some true else if saysNull s then none else some false := by
  obtain ⟨text, style, tag⟩ := s
  unfold isAbsent isNullScalar saysNull
  by_cases hstyle : style = .plain
  · subst hstyle
    cases tag with
    | none => cases htext : text.isEmpty <;> cases hnull : isNull text <;> simp [htext, hnull]
    | some tag =>
      by_cases htag : ScalarType.ofTag? tag = some .null
      · cases hnull : isNull text <;> simp [htag, hnull]
      · simp [htag]
  · simp [hstyle]

theorem toOption_isAbsent_scalar_eq_false {m : Mark} {s : Scalar}
    (h : (isAbsent since (.scalar m s)).toOption = some false) :
    isNullScalar s = false ∧ saysNull s = false := by
  rw [toOption_isAbsent_scalar] at h
  cases hnull : isNullScalar s with
  | true => simp [hnull] at h
  | false =>
    cases hclaim : saysNull s with
    | true => simp [hnull, hclaim] at h
    | false => exact ⟨rfl, rfl⟩

theorem truth?_ofScalar {s : Scalar} (hnull : isNullScalar s = false)
    (hclaim : saysNull s = false) :
    (Content.ofScalar s).truth? = if mayBeBool s then bool? s.text else none := by
  unfold Content.ofScalar
  rw [hnull, hclaim]
  simp only [Bool.false_eq_true, if_false]
  split
  next b h => rw [h]; rfl
  next h =>
    rw [h]
    split <;> rfl

theorem texts?_ofScalar {s : Scalar} (hnull : isNullScalar s = false)
    (hclaim : saysNull s = false) :
    (Content.ofScalar s).texts? = if s.style = .plain && s.text.isEmpty then some [] else none := by
  unfold Content.ofScalar
  rw [hnull, hclaim]
  simp only [Bool.false_eq_true, if_false]
  split
  next b h =>
    -- A text for a truth value is not empty.
    have htext : s.text.isEmpty = false := by
      rw [Bool.eq_false_iff]
      intro hempty
      rw [String.isEmpty_iff] at hempty
      rw [hempty] at h
      split at h <;> cases h
    simp [htext, Content.texts?]
  next h => split <;> rfl

theorem toOption_stringList {n : Node} (h : (isAbsent since n).toOption = some false) :
    (stringList d key n).toOption = (Content.ofResolved d.events n).texts? := by
  cases n with
  | scalar m s =>
    obtain ⟨hnull, hclaim⟩ := toOption_isAbsent_scalar_eq_false since h
    rw [Content.ofResolved, texts?_ofScalar hnull hclaim, stringList, isEmptyScalar]
    · split
      · rfl
      · exact toOption_mismatch d _ _ _
    · nofun
  | sequence m items => exact toOption_strings d key 0 items
  | _ => rfl

theorem toOption_boolean {n : Node} (h : (isAbsent since n).toOption = some false) :
    (boolean d key n).toOption = (Content.ofResolved d.events n).truth? := by
  cases n with
  | scalar m s =>
    obtain ⟨hnull, hclaim⟩ := toOption_isAbsent_scalar_eq_false since h
    rw [Content.ofResolved, truth?_ofScalar hnull hclaim, boolean]
    split
    next b hb => rw [hb]; rfl
    next hb => rw [hb, toOption_mismatch]
  | _ => rfl

theorem toOption_setField (o : Options) (f : Field) {n : Node}
    (h : (isAbsent since n).toOption = some false) :
    (setField d o f key n).toOption =
      ((Content.ofResolved d.events n).valueFor f).map (withValue o f) := by
  cases f with
  | excludes | onlyInclude =>
    rw [setField, Except.toOption_map, toOption_stringList d key since h]
    rfl
  | md5sums | strictContent =>
    rw [setField, Except.toOption_map, toOption_boolean d key since h]
    rfl

theorem ofScalar_eq_null_iff (s : Scalar) : Content.ofScalar s = .null ↔ isNullScalar s := by
  unfold Content.ofScalar
  cases isNullScalar s with
  | true => simp
  | false =>
    simp only [Bool.false_eq_true, if_false, iff_false]
    split
    · nofun
    · split
      · nofun
      · split <;> nofun

theorem isAbsent_cases (n : Node) :
    ((isAbsent since n).toOption = some true ∧ Content.ofResolved d.events n = .null) ∨
    ((isAbsent since n).toOption = some false ∧ Content.ofResolved d.events n ≠ .null) ∨
    ((isAbsent since n).toOption = none ∧ Content.ofResolved d.events n = .other) := by
  cases n with
  | scalar m s =>
    rw [toOption_isAbsent_scalar, Content.ofResolved, ne_eq, ofScalar_eq_null_iff]
    cases hnull : isNullScalar s with
    | true => simp
    | false =>
      cases hclaim : saysNull s with
      | true => simp [Content.ofScalar, hnull, hclaim]
      | false => simp
  | _ => exact .inr (.inl ⟨rfl, nofun⟩)

theorem toOption_entry (o : Options) (f : Field) (n : Node) :
    (do
      let absent ← isAbsent since n
      if absent then pure o else setField d o f key n).toOption =
      ((Content.ofResolved d.events n).settle f (valueOf o f)).map (withValue o f) := by
  rw [Except.toOption_bind]
  rcases isAbsent_cases d since n with ⟨h, hnull⟩ | ⟨h, hpresent⟩ | ⟨h, hother⟩
  · rw [h, hnull, Content.settle, if_pos rfl, Option.map_some, withValue_valueOf]
    rfl
  · rw [h, Content.settle, if_neg hpresent, Option.bind_some, if_neg Bool.false_ne_true,
      toOption_setField d key since o f h]
  · rw [h, hother]
    cases f <;> rfl

end Readers

end CatalogRspec.Config

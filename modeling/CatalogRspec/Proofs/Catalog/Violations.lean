import CatalogRspec.Proofs.Catalog.Acceptance
import CatalogRspec.Proofs.Catalog.Layouts
import Mathlib.Data.List.Basic
import Mathlib.Data.List.Nodup

namespace CatalogRspec

open Json

namespace Shape

inductive Field where
  | type
  | title
  | parameters
deriving Repr, DecidableEq

namespace Field

def name : Field → String
  | .type => "type"
  | .title => "title"
  | .parameters => "parameters"

theorem name_injective : Function.Injective name := by
  intro f g h
  cases f <;> cases g <;> first | rfl | exact absurd h (by decide)

/-- Only parameters may be left out, and only a type has to hold something. -/
def accepts : Field → Option Value → Bool
  | .type, some (.string s) => !s.isEmpty
  | .title, some (.string _) => true
  | .parameters, none => true
  | .parameters, some (.object _) => true
  | _, _ => false

def bad (ms : Members) : List Field :=
  [.type, .title, .parameters].filter fun f => !f.accepts (Members.get? ms f.name)

end Field

/-- The same place in a document that has `n` more resources in front. -/
def Place.behind (n : Nat) : Place → Place
  | .resource i => .resource (n + i)
  | .member i name => .member (n + i) name
  | p => p

def Violation.behind (n : Nat) (v : Violation) : Violation := { v with place := v.place.behind n }

/-- What a violation is about. A field that is missing has no place of its own, so that the violation
stands at its resource. -/
def Violation.subject (v : Violation) : Place :=
  match v.place, v.problem with
  | .resource i, .missing name => .member i name
  | p, _ => p

section Behind

variable (n i : Nat)

theorem checkType_behind (p : Place) (expected : Expected) (v : Option Value) :
    checkType (p.behind n) expected v = (checkType p expected v).map (Violation.behind n) := by
  cases v with
  | none => rfl
  | some w =>
    simp only [checkType]
    split <;> rfl

theorem checkPresent_behind (p : Place) (ms : Members) (name : String) :
    checkPresent (p.behind n) ms name = (checkPresent p ms name).map (Violation.behind n) := by
  unfold checkPresent
  split <;> rfl

theorem checkResourceType_behind (ms : Members) :
    checkResourceType (n + i) ms = (checkResourceType i ms).map (Violation.behind n) := by
  have htype := checkType_behind n (.member i "type") .string (Members.get? ms "type")
  unfold checkResourceType
  split
  · split <;> rfl
  · exact htype

theorem checkResource_behind (v : Value) :
    checkResource (n + i) v = (checkResource i v).map (Violation.behind n) := by
  cases v with
  | object ms =>
    have hresource := checkPresent_behind n (.resource i) ms
    have hmember (name : String) := checkType_behind n (.member i name)
    simp only [Place.behind] at hresource hmember
    simp only [checkResource, hresource, hmember, checkResourceType_behind, List.map_append]
  | _ => rfl

theorem checkResources_behind (items : List Value) :
    checkResources (n + i) items = (checkResources i items).map (Violation.behind n) := by
  induction items generalizing i with
  | nil => rfl
  | cons v rest ih =>
    rw [checkResources, checkResources, List.map_append, checkResource_behind, Nat.add_assoc, ih]

end Behind

theorem checkResources_append (start : Nat) (as bs : List Value) :
    checkResources start (as ++ bs) =
      checkResources start as ++ checkResources (start + as.length) bs := by
  induction as generalizing start with
  | nil => rfl
  | cons v rest ih =>
    have hlength : start + (v :: rest).length = start + 1 + rest.length := by
      rw [List.length_cons]
      omega
    rw [List.cons_append, checkResources, checkResources, ih, List.append_assoc, hlength]

theorem violations_of_items {ms : Members} {items : List Value}
    (h : Members.get? ms "resources" = some (.array items)) :
    violations (.object ms) = checkResources 0 items := by
  simp only [violations, h]

section Subjects

variable (i : Nat) (ms : Members)

theorem subject_type :
    (checkPresent (.resource i) ms "type" ++ checkResourceType i ms).map Violation.subject =
      if Field.type.accepts (Members.get? ms "type") then [] else [.member i "type"] := by
  unfold checkPresent checkResourceType
  rw [Members.contains_eq_isSome]
  cases Members.get? ms "type" with
  | none => rfl
  | some v =>
    cases v with
    | string s => cases hs : s.isEmpty <;> simp [hs, Field.accepts, Violation.subject]
    | _ => rfl

theorem subject_title :
    (checkPresent (.resource i) ms "title" ++
      checkType (.member i "title") .string (Members.get? ms "title")).map Violation.subject =
      if Field.title.accepts (Members.get? ms "title") then [] else [.member i "title"] := by
  unfold checkPresent
  rw [Members.contains_eq_isSome]
  cases Members.get? ms "title" with
  | none => rfl
  | some v => cases v <;> rfl

theorem subject_parameters :
    (checkType (.member i "parameters") .object (Members.get? ms "parameters")).map
        Violation.subject =
      if Field.parameters.accepts (Members.get? ms "parameters") then []
      else [.member i "parameters"] := by
  cases Members.get? ms "parameters" with
  | none => rfl
  | some v => cases v <;> rfl

theorem subjects_checkResource :
    ((checkResource i (.object ms)).map Violation.subject).Perm
      ((Field.bad ms).map fun f => .member i f.name) := by
  -- What is missing is told before what is bad, so the fields are not told of in their order.
  have horder (a b c d e : List Violation) :
      (a ++ b ++ c ++ d ++ e).Perm ((a ++ c) ++ (b ++ d) ++ e) := by
    have hswap : (b ++ c).Perm (c ++ b) := List.perm_append_comm
    have h := ((hswap.append_left a).append_right d).append_right e
    simpa only [List.append_assoc] using h
  have hbad : (Field.bad ms).map (fun f => Place.member i f.name) =
      (if Field.type.accepts (Members.get? ms "type") then [] else [.member i "type"]) ++
      (if Field.title.accepts (Members.get? ms "title") then [] else [.member i "title"]) ++
      (if Field.parameters.accepts (Members.get? ms "parameters") then []
        else [.member i "parameters"]) := by
    unfold Field.bad
    simp only [List.filter_cons, List.filter_nil, Field.name]
    cases Field.type.accepts (Members.get? ms "type") <;>
      cases Field.title.accepts (Members.get? ms "title") <;>
      cases Field.parameters.accepts (Members.get? ms "parameters") <;> rfl
  rw [hbad, ← subject_type, ← subject_title, ← subject_parameters, ← List.map_append,
    ← List.map_append]
  exact (horder _ _ _ _ _).map _

end Subjects

def Violation.IsOf (i : Nat) (v : Violation) : Prop :=
  v.place = .resource i ∨ ∃ f : Field, v.place = .member i f.name

section Messages

variable {i j : Nat} {v w : Violation} {ms : Members}

theorem place_of_subject {f : Field} (h : v.subject = .member i f.name) :
    v.place = .member i f.name ∨ v.place = .resource i ∧ v.problem = .missing f.name := by
  unfold Violation.subject at h
  split at h
  next k name hplace hproblem =>
    obtain ⟨hk, hname⟩ := Place.member.inj h
    rw [hplace, hproblem, hk, hname]
    exact .inr ⟨rfl, rfl⟩
  next => exact .inl h

theorem exists_subject_of_mem (h : v ∈ checkResource i (.object ms)) :
    ∃ f : Field, v.subject = .member i f.name := by
  have hmem := (subjects_checkResource i ms).mem_iff.mp (List.mem_map_of_mem h)
  obtain ⟨f, -, hf⟩ := List.mem_map.mp hmem
  exact ⟨f, hf.symm⟩

theorem isOf_of_mem {value : Value} (h : v ∈ checkResource i value) : v.IsOf i := by
  cases value with
  | object ms =>
    obtain ⟨f, hf⟩ := exists_subject_of_mem h
    rcases place_of_subject hf with hplace | ⟨hplace, -⟩
    · exact .inr ⟨f, hplace⟩
    · exact .inl hplace
  | _ =>
    cases List.mem_singleton.mp h
    exact .inl rfl

theorem exists_isOf_of_mem {start : Nat} {items : List Value}
    (h : v ∈ checkResources start items) : ∃ i, start ≤ i ∧ v.IsOf i := by
  induction items generalizing start with
  | nil => cases h
  | cons item rest ih =>
    rw [checkResources, List.mem_append] at h
    rcases h with h | h
    · exact ⟨start, Nat.le_refl start, isOf_of_mem h⟩
    · obtain ⟨i, hi, hv⟩ := ih h
      exact ⟨i, by omega, hv⟩

theorem not_mem_digits {c : Char} (hc : c.isDigit = false) (n : Nat) : c ∉ Nat.toDigits 10 n := by
  intro h
  have hdigit := Nat.isDigit_of_mem_toDigits (by decide) (by decide) h
  rw [hc] at hdigit
  cases hdigit

theorem colon_not_mem_pointer (hv : v.IsOf i) : ':' ∉ v.place.pointer.toList := by
  have hindex : ':' ∉ Nat.toDigits 10 i := not_mem_digits (by decide) i
  rcases hv with h | ⟨f, h⟩
  · simp [h, Place.pointer, hindex]
  · cases f <;> simp [h, Place.pointer, hindex, Field.name]

/-- A mark that is in neither of two texts tells where they end. -/
theorem append_mark_inj {c : Char} {a b x y : List Char} (ha : c ∉ a) (hb : c ∉ b)
    (h : a ++ c :: x = b ++ c :: y) : a = b ∧ x = y := by
  induction a generalizing b with
  | nil =>
    cases b with
    | nil => exact ⟨rfl, (List.cons.inj h).2⟩
    | cons e b => exact absurd ((List.cons.inj h).1 ▸ List.mem_cons_self) hb
  | cons d a ih =>
    cases b with
    | nil => exact absurd ((List.cons.inj h).1 ▸ List.mem_cons_self) ha
    | cons e b =>
      obtain ⟨hhead, htail⟩ := List.cons.inj h
      have hrest := ih (fun hm => ha (List.mem_cons_of_mem d hm))
        (fun hm => hb (List.mem_cons_of_mem e hm)) htail
      exact ⟨by rw [hhead, hrest.1], hrest.2⟩

theorem place_eq_of_pointer_eq (hv : v.IsOf i) (hw : w.IsOf j)
    (h : v.place.pointer.toList = w.place.pointer.toList) : i = j ∧ v.place = w.place := by
  have hslash (n : Nat) : '/' ∉ Nat.toDigits 10 n := not_mem_digits (by decide) n
  have hindex (hdigits : Nat.toDigits 10 i = Nat.toDigits 10 j) : i = j := by
    have hvalue := congrArg (Nat.ofDigitChars 10 · 0) hdigits
    simpa only [Nat.ofDigitChars_ten_toDigits] using hvalue
  rcases hv with hv | ⟨f, hv⟩ <;> rcases hw with hw | ⟨g, hw⟩ <;>
    simp [hv, hw, Place.pointer] at h
  · obtain rfl := hindex h
    exact ⟨rfl, hv.trans hw.symm⟩
  · exact absurd (h ▸ List.mem_append_right _ List.mem_cons_self) (hslash i)
  · exact absurd (h ▸ List.mem_append_right _ List.mem_cons_self) (hslash j)
  · obtain ⟨hdigits, hname⟩ := append_mark_inj (hslash i) (hslash j) h
    obtain rfl := hindex hdigits
    exact ⟨rfl, by rw [hv, hw, String.toList_inj.mp hname]⟩

/-- A message starts with a pointer, which ends at the first colon. -/
theorem eq_of_message_eq (hv : v.IsOf i) (hw : w.IsOf j) (h : v.message = w.message) :
    i = j ∧ v.place = w.place ∧ v.problem.message = w.problem.message := by
  have hmessage {k : Nat} {u : Violation} (hu : u.IsOf k) : u.message.toList =
      u.place.pointer.toList ++ ':' :: ' ' :: u.problem.message.toList := by
    obtain ⟨place, problem⟩ := u
    rcases hu with rfl | ⟨f, rfl⟩ <;> simp [Violation.message]
  have hchars : v.message.toList = w.message.toList := congrArg String.toList h
  rw [hmessage hv, hmessage hw] at hchars
  obtain ⟨hpointer, hproblem⟩ :=
    append_mark_inj (colon_not_mem_pointer hv) (colon_not_mem_pointer hw) hchars
  obtain ⟨hindex, hplace⟩ := place_eq_of_pointer_eq hv hw hpointer
  exact ⟨hindex, hplace, String.toList_inj.mp (List.cons.inj hproblem).2⟩

theorem missing_message_inj {f g : Field}
    (h : (Problem.missing f.name).message = (Problem.missing g.name).message) : f = g := by
  cases f <;> cases g <;> first | rfl | exact absurd h (by decide)

/-- The messages about one resource tell its fields apart. -/
theorem subject_eq_of_message_eq (hv : v ∈ checkResource i (.object ms))
    (hw : w ∈ checkResource i (.object ms)) (h : v.message = w.message) :
    v.subject = w.subject := by
  obtain ⟨-, hplace, hproblem⟩ := eq_of_message_eq (isOf_of_mem hv) (isOf_of_mem hw) h
  obtain ⟨f, hf⟩ := exists_subject_of_mem hv
  obtain ⟨g, hg⟩ := exists_subject_of_mem hw
  rw [hf, hg]
  rcases place_of_subject hf with hvplace | ⟨hvplace, hvmissing⟩ <;>
    rcases place_of_subject hg with hwplace | ⟨hwplace, hwmissing⟩
  · exact hvplace.symm.trans (hplace.trans hwplace)
  · cases hvplace.symm.trans (hplace.trans hwplace)
  · cases hvplace.symm.trans (hplace.trans hwplace)
  · rw [hvmissing, hwmissing] at hproblem
    rw [missing_message_inj hproblem]

theorem nodup_messages_checkResource (i : Nat) (value : Value) :
    ((checkResource i value).map Violation.message).Nodup := by
  cases value with
  | object ms =>
    have hname : Function.Injective fun f : Field => Place.member i f.name :=
      fun f g h => Field.name_injective (Place.member.inj h).2
    have hfields : ((Field.bad ms).map fun f => Place.member i f.name).Nodup :=
      (List.Nodup.filter _ (by decide)).map hname
    have hsubjects := (subjects_checkResource i ms).nodup_iff.mpr hfields
    refine List.Nodup.map_on (fun v hv w hw h => ?_) (List.Nodup.of_map _ hsubjects)
    exact List.inj_on_of_nodup_map hsubjects hv hw (subject_eq_of_message_eq hv hw h)
  | _ => exact List.nodup_singleton _

theorem nodup_messages_checkResources (start : Nat) (items : List Value) :
    ((checkResources start items).map Violation.message).Nodup := by
  induction items generalizing start with
  | nil => exact List.nodup_nil
  | cons item rest ih =>
    rw [checkResources, List.map_append, List.nodup_append]
    refine ⟨nodup_messages_checkResource start item, ih (start + 1), ?_⟩
    intro a ha b hb hab
    obtain ⟨v, hv, rfl⟩ := List.mem_map.mp ha
    obtain ⟨w, hw, rfl⟩ := List.mem_map.mp hb
    obtain ⟨j, hj, hwof⟩ := exists_isOf_of_mem hw
    have hindex := (eq_of_message_eq (isOf_of_mem hv) hwof hab).1
    omega

end Messages

theorem nodup_messages (v : Value) : ((violations v).map Violation.message).Nodup := by
  unfold violations
  split
  · split
    · exact List.nodup_singleton _
    · exact nodup_messages_checkResources 0 _
    · exact List.nodup_singleton _
  · exact List.nodup_singleton _

/-- The same value, or two resources whose fields are the same. -/
def SameFields (v w : Value) : Prop :=
  v = w ∨ ∃ ms ns, v = .object ms ∧ w = .object ns ∧
    ∀ f : Field, Members.get? ms f.name = Members.get? ns f.name

theorem checkResource_congr {v w : Value} (h : SameFields v w) (i : Nat) :
    checkResource i v = checkResource i w := by
  obtain rfl | ⟨ms, ns, rfl, rfl, hfields⟩ := h
  · rfl
  · have htype : Members.get? ms "type" = Members.get? ns "type" := hfields .type
    have htitle : Members.get? ms "title" = Members.get? ns "title" := hfields .title
    have hparameters : Members.get? ms "parameters" = Members.get? ns "parameters" :=
      hfields .parameters
    simp only [checkResource, checkPresent, checkResourceType, Members.contains_eq_isSome, htype,
      htitle, hparameters]

theorem checkResources_congr {as bs : List Value} (h : List.Forall₂ SameFields as bs)
    (start : Nat) : checkResources start as = checkResources start bs := by
  induction h generalizing start with
  | nil => rfl
  | cons hv _ ih => rw [checkResources, checkResources, checkResource_congr hv, ih]

theorem violations_append {whole first second : Members} {as bs : List Value}
    (hwhole : Members.get? whole "resources" = some (.array (as ++ bs)))
    (hfirst : Members.get? first "resources" = some (.array as))
    (hsecond : Members.get? second "resources" = some (.array bs)) :
    violations (.object whole) =
      violations (.object first) ++ (violations (.object second)).map (.behind as.length) := by
  rw [violations_of_items hwhole, violations_of_items hfirst, violations_of_items hsecond,
    checkResources_append, ← checkResources_behind, Nat.zero_add, Nat.add_zero]

end Shape

theorem Catalog.ofDocument_eq_shape_iff (document : Value) (vs : List Shape.Violation) :
    ofDocument document = .error (.shape vs) ↔
      vs = Shape.violations (Envelope.unwrap document) ∧ vs ≠ [] := by
  unfold ofDocument
  split
  next hnone =>
    obtain ⟨c, hc⟩ := ofJson?_of_no_violation hnone
    simp [hc, hnone]
  next hne =>
    constructor
    · intro h
      cases h
      exact ⟨rfl, hne⟩
    · rintro ⟨rfl, -⟩
      rfl

namespace Shape

/-- Resources behind others add their violations to those of the others, at places further on. No two
messages of a list are the same. A resource adds nothing if it has the shape of one, and otherwise one
violation for each field that is missing or bad, or a single one if it is no object. Other members of
the document or of its resources do not matter, and the whole list is what a document is refused for. -/
theorem violations_of_resources :
    (∀ (whole first second : Members) (as bs : List Value),
      Members.get? whole "resources" = some (.array (as ++ bs)) →
      Members.get? first "resources" = some (.array as) →
      Members.get? second "resources" = some (.array bs) →
      violations (.object whole) =
        violations (.object first) ++ (violations (.object second)).map (.behind as.length)) ∧
    (∀ v, ((violations v).map Violation.message).Nodup) ∧
    (∀ (ms : Members) (v : Value), Members.get? ms "resources" = some (.array [v]) →
      (violations (.object ms) = [] ↔ v.HasResourceShape) ∧
      (∀ fields, v = .object fields →
        ((violations (.object ms)).map Violation.subject).Perm
          ((Field.bad fields).map fun f => .member 0 f.name)) ∧
      ((∀ fields, v ≠ .object fields) →
        (violations (.object ms)).map Violation.subject = [.resource 0])) ∧
    (∀ (ms ns : Members) (as bs : List Value),
      Members.get? ms "resources" = some (.array as) →
      Members.get? ns "resources" = some (.array bs) → List.Forall₂ SameFields as bs →
      violations (.object ms) = violations (.object ns)) ∧
    (∀ ms ns : Members, Members.get? ms "resources" = Members.get? ns "resources" →
      violations (.object ms) = violations (.object ns)) ∧
    ∀ document vs, Catalog.ofDocument document = .error (.shape vs) ↔
      vs = violations (Envelope.unwrap document) ∧ vs ≠ [] := by
  refine ⟨fun _ _ _ _ _ => violations_append, nodup_messages, fun ms v h => ?_,
    fun ms ns as bs has hbs h => ?_, fun _ _ => violations_object_congr,
    Catalog.ofDocument_eq_shape_iff⟩
  · have hone : violations (.object ms) = checkResource 0 v := by
      rw [violations_of_items h, checkResources, checkResources, List.append_nil]
    rw [hone]
    refine ⟨?_, ?_, fun hv => ?_⟩
    · rw [checkResource_eq_nil_iff, Schema.admits_resource_iff]
    · rintro fields rfl
      exact subjects_checkResource 0 fields
    · cases v with
      | object fields => exact absurd rfl (hv fields)
      | _ => rfl
  · rw [violations_of_items has, violations_of_items hbs, checkResources_congr h]

theorem violations_of_resources_with_faults :
    let untyped : Value := .object [("file", .null), ("title", .string "a")]
    let bad : Value := .object [("type", .string ""), ("parameters", .null)]
    let ms (items : List Value) : Members := [("version", .null), ("resources", .array items)]
    violations (.object (ms [untyped, bad, .null])) =
        [⟨.resource 0, .missing "type"⟩, ⟨.resource 1, .missing "title"⟩,
          ⟨.member 1 "type", .empty⟩, ⟨.member 1 "parameters", .mismatch .null .object⟩,
          ⟨.resource 2, .mismatch .null .object⟩] ∧
      ((violations (.object (ms [bad]))).map Violation.subject).Perm
        [.member 0 "type", .member 0 "title", .member 0 "parameters"] ∧
      (violations (.object (ms [.null]))).map Violation.subject = [.resource 0] ∧
      violations (.object (ms [untyped])) =
        violations (.object (ms [.object [("title", .string "a")]])) ∧
      violations (.object (ms [.null])) = violations (.object [("resources", .array [.null])]) := by
  intro untyped bad ms
  obtain ⟨happend, -, hone, hfields, hmembers, -⟩ := violations_of_resources
  refine ⟨?_, ?_, ?_, ?_, ?_⟩
  · exact happend (ms [untyped, bad, .null]) (ms [untyped]) (ms [bad, .null]) [untyped]
      [bad, .null] rfl rfl rfl
  · exact (hone (ms [bad]) bad rfl).2.1 _ rfl
  · exact (hone (ms [.null]) .null rfl).2.2 nofun
  · refine hfields _ _ _ _ rfl rfl (.cons (.inr ⟨_, _, rfl, rfl, fun f => ?_⟩) .nil)
    cases f <;> rfl
  · exact hmembers _ _ rfl

end Shape

end CatalogRspec

import CatalogRspec.Proofs.Json.Erasure
import CatalogRspec.Proofs.Literal.Skeleton
import CatalogRspec.Proofs.Spec.Assembly

namespace CatalogRspec

open Json Literal

/-- The class without its name, and with the strings in its parameters emptied. -/
def RootClass.erase (root : RootClass) : RootClass :=
  ⟨none, root.params.map (Value.eraseMembers id)⟩

namespace Resource

/-- No name is left but those of the content and of the state of a file. -/
def eraseName (type name : String) : String :=
  if type == fileType && (name == contentParam || name == ensureParam) then name else ""

/-- No string and no key is left but in the state of a file. -/
def eraseValue (type name : String) (v : Value) : Value :=
  if type == fileType && name == ensureParam then v else v.erase fun _ => ""

def eraseParameters (type : String) (ms : Members) : Members :=
  ms.map fun m => (eraseName type m.1, eraseValue type m.1 m.2)

/-- The resource without its title and without the characters of names and strings. -/
def erase (r : Resource) : Resource := ⟨r.type, "", eraseParameters r.type r.parameters⟩

theorem beq_eraseName {key : String} (hkey : key = contentParam ∨ key = ensureParam)
    (name : String) : (key == eraseName fileType name) = (key == name) := by
  have hne : (key == "") = false := by rcases hkey with rfl | rfl <;> rfl
  unfold eraseName
  split
  · rfl
  · next h =>
    have hname : (key == name) = false := by
      rw [beq_eq_false_iff_ne]
      rintro rfl
      exact h (by rcases hkey with rfl | rfl <;> decide)
    rw [hne, hname]

theorem isExpected_eraseName (type title title' : String) (ms ms' : Members) (name : String) :
    isExpected ⟨type, title', ms'⟩ (eraseName type name) = isExpected ⟨type, title, ms⟩ name := by
  unfold isExpected isType
  by_cases h : type = fileType
  · have hname : (eraseName fileType name == contentParam) = (name == contentParam) := by
      rw [Bool.beq_comm, beq_eraseName (.inl rfl), Bool.beq_comm]
    rw [h, hname]
  · rw [beq_false_of_ne h]
    rfl

theorem lookup_eraseParameters {key : String} (hkey : key = contentParam ∨ key = ensureParam)
    (ms : Members) :
    (eraseParameters fileType ms).lookup key = (ms.lookup key).map (eraseValue fileType key) := by
  induction ms with
  | nil => rfl
  | cons m ms ih =>
    obtain ⟨name, v⟩ := m
    have hcons : eraseParameters fileType ((name, v) :: ms) =
        (eraseName fileType name, eraseValue fileType name v) :: eraseParameters fileType ms := rfl
    rw [hcons, List.lookup_cons, List.lookup_cons, beq_eraseName hkey, ih]
    cases hname : key == name
    · rfl
    · rw [beq_iff_eq.mp hname]
      rfl

theorem ensuresPlainFile_erase {r : Resource} (h : r.type = fileType) :
    r.erase.ensuresPlainFile = r.ensuresPlainFile := by
  have hensure : r.erase.parameter? ensureParam = r.parameter? ensureParam := by
    have hlookup := lookup_eraseParameters (.inr rfl) r.parameters
    have hkept : eraseValue fileType ensureParam = id := by
      funext v
      rfl
    rw [hkept, Option.map_id] at hlookup
    rw [parameter?, parameter?, erase, h]
    exact hlookup
  rw [ensuresPlainFile, ensuresPlainFile, hensure]

theorem content_erase (r : Resource) :
    r.erase.content =
      match r.content with
      | .unchecked => .unchecked
      | .text _ => .text ""
      | .unusable v => .unusable (v.erase fun _ => "") := by
  by_cases h : r.type = fileType
  · have hplain := ensuresPlainFile_erase h
    have hcontent : r.erase.parameter? contentParam =
        (r.parameter? contentParam).map (Value.erase fun _ => "") := by
      have hlookup := lookup_eraseParameters (.inl rfl) r.parameters
      have herased : eraseValue fileType contentParam = Value.erase fun _ => "" := by
        funext v
        rfl
      rw [herased] at hlookup
      rw [parameter?, parameter?, erase, h]
      exact hlookup
    have htype : r.erase.isType fileType = r.isType fileType := rfl
    unfold content
    rw [htype, hplain, hcontent]
    split
    · cases r.parameter? contentParam with
      | none => rfl
      | some v => cases v <;> rfl
    · rfl
  -- Only files have content that is checked.
  · have hother (s : Resource) (hs : s.type = r.type) : s.content = .unchecked := by
      simp [content, isType, hs, h]
    rw [hother r.erase rfl, hother r rfl]

end Resource

theorem alike_expectedLiteral? (key : String → String) (v : Value) :
    (expectedLiteral? v = none ∧ expectedLiteral? (v.erase key) = none) ∨
    ∃ l l', expectedLiteral? v = some l ∧ expectedLiteral? (v.erase key) = some l' ∧
      Alike l.toList l'.toList := by
  cases v with
  | null => exact .inl ⟨rfl, rfl⟩
  | bool b => exact .inr ⟨_, _, rfl, rfl, alike_singleQuoted _ _⟩
  | number n => exact .inr ⟨_, _, rfl, rfl, alike_singleQuoted _ _⟩
  | string s => exact .inr ⟨_, _, rfl, rfl, alike_singleQuoted _ _⟩
  | array items => exact .inr ⟨_, _, rfl, rfl, alike_inspect_erase key (.array items)⟩
  | object ms => exact .inr ⟨_, _, rfl, rfl, alike_inspect_erase key (.object ms)⟩

theorem alike_expectedLiteral?_eraseValue (type name : String) (v : Value) :
    (expectedLiteral? v = none ∧ expectedLiteral? (Resource.eraseValue type name v) = none) ∨
    ∃ l l', expectedLiteral? v = some l ∧
      expectedLiteral? (Resource.eraseValue type name v) = some l' ∧ Alike l.toList l'.toList := by
  unfold Resource.eraseValue
  have h := alike_expectedLiteral? (fun _ => "") v
  split
  · rcases h with ⟨hv, -⟩ | ⟨l, l', hv, -, hl⟩
    · exact .inl ⟨hv, hv⟩
    · exact .inr ⟨l, l, hv, hv, hl.trans hl.symm⟩
  · exact h

end CatalogRspec

import CatalogRspec.Literal.Pretty
import CatalogRspec.Proofs.Json.Induction

namespace CatalogRspec.Literal

open Json

/-- The value is the other one, or stands in it at whatever depth. -/
inductive Within (v : Value) : Value → Prop
  | here : Within v v
  | item {items : List Value} {w : Value} (hitem : w ∈ items) (h : Within v w) :
    Within v (.array items)
  | member {ms : Members} {m : String × Value} (hmember : m ∈ ms) (h : Within v m.2) :
    Within v (.object ms)

/-- A hash in the value has a key that takes more than 65535 characters. -/
def HasWideKey (v : Value) : Prop :=
  ∃ ms m, Within (.object ms) v ∧ m ∈ ms ∧ 65535 < (hashKey m.1).length

section Widths

variable {ms : Members}

theorem max?_lengths (h : ms ≠ []) :
    (ms.map fun m => (hashKey m.1).length).max? = some (keyWidth ms) := by
  obtain ⟨m, rest, rfl⟩ := List.exists_cons_of_ne_nil h
  rw [List.map_cons, List.max?_cons', keyWidth, List.map_cons, List.foldl_cons, Nat.zero_max]

theorem length_le_keyWidth {m : String × Value} (h : m ∈ ms) :
    (hashKey m.1).length ≤ keyWidth ms := by
  have hmax := max?_lengths (List.ne_nil_of_mem h)
  exact (List.max?_eq_some_iff.mp hmax).2 _ (List.mem_map_of_mem h)

theorem exists_length_eq_keyWidth (h : ms ≠ []) : ∃ m ∈ ms, (hashKey m.1).length = keyWidth ms :=
  List.mem_map.mp (List.max?_eq_some_iff.mp (max?_lengths h)).1

theorem keyWidth_le_iff {width : Nat} :
    keyWidth ms ≤ width ↔ ∀ m ∈ ms, (hashKey m.1).length ≤ width := by
  refine ⟨fun h m hm => Nat.le_trans (length_le_keyWidth hm) h, fun h => ?_⟩
  by_cases hne : ms = []
  · subst hne
    exact Nat.zero_le width
  · obtain ⟨m, hm, hwidest⟩ := exists_length_eq_keyWidth hne
    exact hwidest ▸ h m hm

end Widths

theorem hasWideKey_array {items : List Value} :
    HasWideKey (.array items) ↔ ∃ v ∈ items, HasWideKey v := by
  constructor
  · rintro ⟨ms, m, hwithin, hm, hwide⟩
    cases hwithin with
    | item hitem h => exact ⟨_, hitem, ms, m, h, hm, hwide⟩
  · rintro ⟨v, hv, ms, m, hwithin, hm, hwide⟩
    exact ⟨ms, m, .item hv hwithin, hm, hwide⟩

theorem hasWideKey_object {ms : Members} :
    HasWideKey (.object ms) ↔
      (∃ m ∈ ms, 65535 < (hashKey m.1).length) ∨ ∃ m ∈ ms, HasWideKey m.2 := by
  constructor
  · rintro ⟨inner, m, hwithin, hm, hwide⟩
    cases hwithin with
    | here => exact .inl ⟨m, hm, hwide⟩
    | member hmember h => exact .inr ⟨_, hmember, inner, m, h, hm, hwide⟩
  · rintro (⟨m, hm, hwide⟩ | ⟨m, hm, inner, n, hwithin, hn, hwide⟩)
    · exact ⟨ms, m, .here, hm, hwide⟩
    · exact ⟨inner, n, .member hm hwithin, hn, hwide⟩

theorem areItemsPaddable_iff (items : List Value) :
    areItemsPaddable items = true ↔ ∀ v ∈ items, isPaddable v = true := by
  induction items with
  | nil => simp [areItemsPaddable]
  | cons v rest ih => simp [areItemsPaddable, ih]

theorem areMembersPaddable_iff (ms : Members) :
    areMembersPaddable ms = true ↔ ∀ m ∈ ms, isPaddable m.2 = true := by
  induction ms with
  | nil => simp [areMembersPaddable]
  | cons m rest ih => simp [areMembersPaddable, ih]

theorem isPaddable_iff (v : Value) : isPaddable v = true ↔ ¬HasWideKey v := by
  have hatom {v : Value} (h : ∀ ms, ¬Within (.object ms) v) : ¬HasWideKey v :=
    fun ⟨ms, _, hwithin, _⟩ => h ms hwithin
  -- A container is fit for padding if its own keys are and all that it holds is.
  induction v using Value.induction with
  | null | bool b | number n | string s => exact iff_of_true rfl (hatom fun _ => nofun)
  | array items ih =>
    rw [isPaddable, areItemsPaddable_iff, hasWideKey_array]
    simp only [not_exists, not_and]
    exact forall₂_congr ih
  | object ms ih =>
    have hkeys : keyWidth ms ≤ maxWidth ↔ ¬∃ m ∈ ms, 65535 < (hashKey m.1).length := by
      simp only [keyWidth_le_iff, not_exists, not_and, Nat.not_lt]
      rfl
    have hvalues : (∀ m ∈ ms, isPaddable m.2 = true) ↔ ¬∃ m ∈ ms, HasWideKey m.2 := by
      simp only [not_exists, not_and]
      exact forall₂_congr ih
    rw [isPaddable, Bool.and_eq_true, decide_eq_true_eq, areMembersPaddable_iff, hasWideKey_object,
      not_or, hkeys, hvalues]

theorem prettyHash?_eq_none_iff {ms : Members} :
    prettyHash? ms = none ↔ HasWideKey (.object ms) := by
  rw [prettyHash?, ite_eq_right_iff, isPaddable_iff]
  simp

def letters (n : Nat) : String := String.ofList (List.replicate n 'a')

theorem length_hashKey_letters (n : Nat) : (hashKey (letters (n + 1))).length = n + 2 := by
  have hname : isSymbolName (letters (n + 1)).toList = true := by
    rw [letters, String.toList_ofList, List.replicate_succ, isSymbolName, List.all_replicate]
    split <;> rfl
  have hlength : (letters (n + 1)).length = n + 1 := by
    rw [letters, String.length_ofList, List.length_replicate]
  rw [hashKey, if_pos hname, String.length_append, hlength]
  exact Nat.add_comm 1 (n + 1)

/-- The shortest symbol that is too wide. -/
theorem hasWideKey_letters (v : Value) : HasWideKey (.object [(letters 65535, v)]) := by
  have hlength : (hashKey (letters 65535)).length = 65536 := length_hashKey_letters 65534
  exact hasWideKey_object.mpr (.inl ⟨_, List.mem_singleton_self _, by rw [hlength]; decide⟩)

end CatalogRspec.Literal

import CatalogRspec.Json.Value

namespace CatalogRspec.Json

def Value.isNull : Value → Bool
  | .null => true
  | _ => false

namespace Members

def HasDistinctKeys (ms : Members) : Prop := (ms.map Prod.fst).Nodup

instance (ms : Members) : Decidable ms.HasDistinctKeys :=
  inferInstanceAs (Decidable (ms.map Prod.fst).Nodup)

theorem get?_cons (m : String × Value) (ms : Members) (key : String) :
    get? (m :: ms) key = if m.1 = key then some m.2 else get? ms key := by
  obtain ⟨name, v⟩ := m
  unfold get?
  rw [List.lookup_cons]
  by_cases h : key = name
  · simp [h]
  · simp [Ne.symm h, beq_false_of_ne h]

theorem get?_append (ms ns : Members) (key : String) :
    get? (ms ++ ns) key = (get? ms key).or (get? ns key) := List.lookup_append

theorem get?_eq_none_iff (ms : Members) (key : String) :
    get? ms key = none ↔ key ∉ ms.map Prod.fst := by
  induction ms with
  | nil => simp [get?]
  | cons m ms ih =>
    rw [get?_cons, List.map_cons, List.mem_cons]
    by_cases h : m.1 = key
    · simp [h]
    · simp [h, Ne.symm h, ih]

theorem HasDistinctKeys.get?_eq_some_iff {ms : Members} (h : ms.HasDistinctKeys) (key : String)
    (v : Value) : get? ms key = some v ↔ (key, v) ∈ ms := by
  induction ms with
  | nil => simp [get?]
  | cons m ms ih =>
    obtain ⟨hm, hms⟩ := List.nodup_cons.mp h
    rw [get?_cons, List.mem_cons]
    split
    · next hkey =>
      have habsent : (key, v) ∉ ms := fun hmem => hm (hkey ▸ List.mem_map_of_mem hmem)
      simp [habsent, Prod.ext_iff, hkey, eq_comm]
    · next hkey =>
      rw [ih hms]
      simp [Prod.ext_iff, Ne.symm hkey]

theorem contains_cons (m : String × Value) (ms : Members) (key : String) :
    contains (m :: ms) key = (m.1 == key || contains ms key) := rfl

theorem contains_eq_isSome (ms : Members) (key : String) :
    contains ms key = (get? ms key).isSome := by
  induction ms with
  | nil => rfl
  | cons m ms ih =>
    rw [get?_cons, contains_cons, ih]
    by_cases h : m.1 = key <;> simp [h]

theorem get?_replaced (ms : Members) (key : String) (v : Value) :
    get? (ms.map fun m => if m.1 == key then (key, v) else m) key =
      if contains ms key then some v else none := by
  induction ms with
  | nil => rfl
  | cons m ms ih =>
    rw [List.map_cons, get?_cons, ih, contains_cons]
    by_cases h : m.1 = key <;> simp [h]

theorem get?_replaced_of_ne (ms : Members) {key other : String} (v : Value) (h : other ≠ key) :
    get? (ms.map fun m => if m.1 == key then (key, v) else m) other = get? ms other := by
  induction ms with
  | nil => rfl
  | cons m ms ih =>
    rw [List.map_cons, get?_cons, get?_cons, ih]
    by_cases hkey : m.1 = key
    · simp [hkey, h.symm]
    · simp [hkey]

theorem get?_insert_self (ms : Members) (key : String) (v : Value) :
    get? (insert ms key v) key = some v := by
  unfold insert
  by_cases h : contains ms key = true
  · rw [if_pos h, get?_replaced, if_pos h]
  · rw [if_neg h]
    have hnone : get? ms key = none := by
      rw [contains_eq_isSome] at h
      exact Option.not_isSome_iff_eq_none.mp h
    simp [get?_append, get?_cons, hnone]

theorem get?_insert_of_ne (ms : Members) {key other : String} (v : Value) (h : other ≠ key) :
    get? (insert ms key v) other = get? ms other := by
  unfold insert
  split
  · exact get?_replaced_of_ne ms v h
  · rw [get?_append, get?_cons, if_neg h.symm]
    exact Option.or_none

theorem get?_filter {ms : Members} (hdistinct : ms.HasDistinctKeys)
    (keeps : String × Value → Bool) (key : String) :
    get? (ms.filter keeps) key = (get? ms key).filter fun v => keeps (key, v) := by
  induction ms with
  | nil => rfl
  | cons m ms ih =>
    obtain ⟨hhead, htail⟩ := List.nodup_cons.mp hdistinct
    have hrest := ih htail
    rw [get?_cons]
    by_cases hkey : m.1 = key
    · have habsent : get? ms key = none := (get?_eq_none_iff ms key).mpr (hkey ▸ hhead)
      subst hkey
      rw [habsent] at hrest
      by_cases hkept : keeps m = true
      · simp [hkept, get?_cons, Option.filter]
      · simp [hkept, hrest, Option.filter]
    · rw [if_neg hkey, ← hrest]
      by_cases hkept : keeps m = true
      · rw [List.filter_cons_of_pos hkept, get?_cons, if_neg hkey]
      · rw [List.filter_cons_of_neg hkept]

end Members

end CatalogRspec.Json

import CatalogRspec.Proofs.Catalog.Layouts
import CatalogRspec.Proofs.Json.Members
import Mathlib.Data.List.Nodup

namespace CatalogRspec

namespace Json

namespace Members

variable {ms ns before after : Members} {key : String} {v : Value}

theorem map_fst_insert (ms : Members) (key : String) (v : Value) :
    (insert ms key v).map Prod.fst =
      if ms.contains key then ms.map Prod.fst else ms.map Prod.fst ++ [key] := by
  unfold insert
  split
  · rw [List.map_map]
    refine List.map_congr_left fun m _ => ?_
    by_cases hkey : m.1 = key <;> simp [hkey]
  · simp

namespace HasDistinctKeys

theorem insert (h : ms.HasDistinctKeys) (key : String) (v : Value) :
    (ms.insert key v).HasDistinctKeys := by
  unfold HasDistinctKeys
  rw [map_fst_insert]
  split
  · exact h
  · next hnew =>
    refine List.nodup_append.mpr ⟨h, List.nodup_singleton key, ?_⟩
    rintro a ha b hb rfl
    obtain ⟨m, hm, hkey⟩ := List.mem_map.mp ha
    rw [List.mem_singleton] at hb
    exact hnew (List.any_eq_true.mpr ⟨m, hm, by simp [hkey, hb]⟩)

theorem perm (h : ms.HasDistinctKeys) (hperm : ms.Perm ns) : ns.HasDistinctKeys :=
  (hperm.map Prod.fst).nodup_iff.mp h

theorem get?_perm (h : ms.HasDistinctKeys) (hperm : ms.Perm ns) (key : String) :
    get? ms key = get? ns key := by
  refine Option.ext fun v => ?_
  rw [h.get?_eq_some_iff, (h.perm hperm).get?_eq_some_iff, hperm.mem_iff]

theorem of_middle (h : HasDistinctKeys (before ++ (key, v) :: after)) :
    HasDistinctKeys (before ++ after) ∧ key ∉ before.map Prod.fst ∧ key ∉ after.map Prod.fst := by
  rw [HasDistinctKeys, List.map_append, List.map_cons, List.nodup_middle, List.nodup_cons,
    List.mem_append, not_or, ← List.map_append] at h
  exact ⟨h.2, h.1⟩

end HasDistinctKeys

theorem map_replace_middle (hbefore : key ∉ before.map Prod.fst) (hafter : key ∉ after.map Prod.fst)
    (v : Value) (m : String × Value) :
    (before ++ (key, v) :: after).map (fun n => if n.1 == key then m else n) =
      before ++ m :: after := by
  have hkept {ns : Members} (h : key ∉ ns.map Prod.fst) :
      ns.map (fun n => if n.1 == key then m else n) = ns := by
    refine (List.map_congr_left fun n hn => ?_).trans (List.map_id' ns)
    have hne : n.1 ≠ key := fun heq => h (heq ▸ List.mem_map_of_mem hn)
    rw [if_neg (by simpa using hne)]
  rw [List.map_append, List.map_cons, hkept hbefore, hkept hafter]
  simp

theorem insert_middle (hbefore : key ∉ before.map Prod.fst) (hafter : key ∉ after.map Prod.fst)
    (v w : Value) : insert (before ++ (key, v) :: after) key w = before ++ (key, w) :: after := by
  rw [insert, if_pos (by simp [contains]), map_replace_middle hbefore hafter]

theorem insert_of_get?_eq_none (h : get? ms key = none) (v : Value) :
    insert ms key v = ms ++ [(key, v)] := by
  rw [insert, contains_eq_isSome, h]
  rfl

theorem swapErase_concat (before : Members) (key : String) (v : Value) :
    swapErase (before ++ [(key, v)]) key = before := by
  simp [swapErase]

theorem swapErase_middle {last : String × Value}
    (h : HasDistinctKeys (before ++ (key, v) :: (after ++ [last]))) :
    swapErase (before ++ (key, v) :: (after ++ [last])) key = before ++ last :: after := by
  obtain ⟨-, hbefore, hafter⟩ := h.of_middle
  rw [List.map_append, List.mem_append, not_or] at hafter
  have hne : last.1 ≠ key := by simpa [eq_comm] using hafter.2
  have hsplit : before ++ (key, v) :: (after ++ [last]) = (before ++ (key, v) :: after) ++ [last] := by
    simp
  rw [swapErase, hsplit, List.getLast?_concat, List.dropLast_concat]
  dsimp only
  rw [if_neg (by simpa using hne), map_replace_middle hbefore hafter.1]

/-- Where the members stand once one is removed: the last takes its place, if it is not the last. -/
theorem swapErase_cases (h : HasDistinctKeys (before ++ (key, v) :: after)) :
    after = [] ∧ swapErase (before ++ (key, v) :: after) key = before ∨
      ∃ rest last, after = rest ++ [last] ∧
        swapErase (before ++ (key, v) :: after) key = before ++ last :: rest := by
  rcases List.eq_nil_or_concat after with rfl | ⟨rest, last, rfl⟩
  · exact .inl ⟨rfl, swapErase_concat before key v⟩
  · rw [List.concat_eq_append] at h ⊢
    exact .inr ⟨rest, last, rfl, swapErase_middle h⟩

/-- Where a member goes: to its place if it is there, and else to the end. -/
theorem insert_cases (h : ms.HasDistinctKeys) (key : String) (v : Value) :
    get? ms key = none ∧ insert ms key v = ms ++ [(key, v)] ∨
      ∃ left old right, ms = left ++ (key, old) :: right ∧
        insert ms key v = left ++ (key, v) :: right := by
  cases hget : get? ms key with
  | none => exact .inl ⟨rfl, insert_of_get?_eq_none hget v⟩
  | some old =>
    obtain ⟨left, right, rfl⟩ := List.append_of_mem ((h.get?_eq_some_iff key old).mp hget)
    obtain ⟨-, hleft, hright⟩ := h.of_middle
    exact .inr ⟨left, old, right, rfl, insert_middle hleft hright old v⟩

theorem swapErase_perm (h : HasDistinctKeys (before ++ (key, v) :: after)) :
    (swapErase (before ++ (key, v) :: after) key).Perm (before ++ after) := by
  rcases swapErase_cases h with ⟨rfl, hkept⟩ | ⟨rest, last, rfl, hmoved⟩
  · rw [hkept, List.append_nil]
  · rw [hmoved]
    exact List.Perm.append_left before (List.perm_append_singleton last rest).symm

section SwapErase

variable (h : HasDistinctKeys (before ++ (key, v) :: after))
include h

theorem hasDistinctKeys_swapErase :
    HasDistinctKeys (swapErase (before ++ (key, v) :: after) key) :=
  h.of_middle.1.perm (swapErase_perm h).symm

theorem get?_swapErase (other : String) :
    get? (swapErase (before ++ (key, v) :: after) key) other =
      if other = key then none else get? (before ++ (key, v) :: after) other := by
  obtain ⟨hdistinct, hbefore, hafter⟩ := h.of_middle
  rw [← hdistinct.get?_perm (swapErase_perm h).symm, get?_append, get?_append, get?_cons]
  split
  · next heq =>
    rw [heq, (get?_eq_none_iff before key).mpr hbefore, (get?_eq_none_iff after key).mpr hafter]
    rfl
  · next hne => rw [if_neg (Ne.symm hne)]

end SwapErase

end Members

def Value.RepeatsNoMember : Value → Prop
  | .object ms => Members.HasDistinctKeys ms
  | _ => True

end Json

namespace Envelope

open Json Members

theorem unwrap_of_not_wrapped {v : Value} (h : v.member? "data" = none) : unwrap v = v := by
  cases v with
  | object ms => exact unwrap_eq_self h
  | _ => rfl

section Wrapped

variable {before after : Members} {data : Value}

theorem unwrap_middle (h : HasDistinctKeys (before ++ ("data", data) :: after)) :
    unwrap (.object (before ++ ("data", data) :: after)) =
      .object (insert (swapErase (before ++ ("data", data) :: after) "data") "resources"
        (resourcesOf data)) := by
  have hdata : get? (before ++ ("data", data) :: after) "data" = some data :=
    (h.get?_eq_some_iff "data" data).mpr (List.mem_append_right before List.mem_cons_self)
  simp only [unwrap, hdata]

theorem get?_data_unwrapped (h : HasDistinctKeys (before ++ ("data", data) :: after))
    (resources : Value) :
    get? (insert (swapErase (before ++ ("data", data) :: after) "data") "resources" resources)
      "data" = none := by
  rw [get?_insert_of_ne _ _ (by decide), get?_swapErase h, if_pos rfl]

end Wrapped

/-- A document without an envelope stays as it is. Of one in an envelope the last member moves to where
`data` stood, and the resources of the data go to where resources stand then, or to the end; all other
members are the same and there are no more of them. A second time nothing is left to unwrap. -/
theorem unwrap_members (v : Value) (h : v.RepeatsNoMember) :
    unwrap (unwrap v) = unwrap v ∧
    (v.member? "data" = none → unwrap v = v) ∧
    ∀ data, v.member? "data" = some data →
      let resources := (data.member? "resources").getD .null
      ∃ before after swapped ms, v = .object (before ++ ("data", data) :: after) ∧
        unwrap v = .object ms ∧
        (after = [] ∧ swapped = before ∨
          ∃ rest last, after = rest ++ [last] ∧ swapped = before ++ last :: rest) ∧
        (get? swapped "resources" = none ∧ ms = swapped ++ [("resources", resources)] ∨
          ∃ left old right, swapped = left ++ ("resources", old) :: right ∧
            ms = left ++ ("resources", resources) :: right) ∧
        HasDistinctKeys ms ∧ get? ms "data" = none ∧ get? ms "resources" = some resources ∧
        ∀ key, key ≠ "data" → key ≠ "resources" → get? ms key = v.member? key := by
  cases hdata : v.member? "data" with
  | none =>
    have hself := unwrap_of_not_wrapped hdata
    exact ⟨by rw [hself, hself], fun _ => hself, nofun⟩
  | some data =>
    obtain ⟨all, rfl⟩ : ∃ all, v = .object all := by
      cases v with
      | object all => exact ⟨all, rfl⟩
      | _ => cases hdata
    -- No key is repeated, so the envelope stands at one place, and everything is told from there.
    have hmem := (HasDistinctKeys.get?_eq_some_iff h "data" data).mp hdata
    obtain ⟨before, after, rfl⟩ := List.append_of_mem hmem
    have hunwrap := unwrap_middle h
    have hnone := get?_data_unwrapped h (resourcesOf data)
    have hdistinct := hasDistinctKeys_swapErase h
    refine ⟨by rw [hunwrap, unwrap_eq_self hnone], nofun, fun d hd => ?_⟩
    obtain rfl := Option.some.inj hd
    refine ⟨before, after, _, _, rfl, hunwrap, swapErase_cases h, insert_cases hdistinct _ _,
      hdistinct.insert _ _, hnone, get?_insert_self _ _ _, fun key hkey hkey' => ?_⟩
    rw [get?_insert_of_ne _ _ hkey', get?_swapErase h, if_neg hkey]
    rfl

theorem unwrap_members_of_resources_moved :
    let v : Value := .object [("data", .object [("resources", .array [])]), ("version", .null),
      ("resources", .string "old")]
    v.RepeatsNoMember ∧ unwrap (unwrap v) = unwrap v ∧
      unwrap v = .object [("resources", .array []), ("version", .null)] := by
  intro v
  have h : v.RepeatsNoMember := by
    show HasDistinctKeys _
    decide
  exact ⟨h, (unwrap_members v h).1, rfl⟩

end Envelope

end CatalogRspec

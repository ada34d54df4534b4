import CatalogRspec.Files.Tree
import CatalogRspec.Proofs.Files.Paths
import CatalogRspec.Proofs.Log.Except

namespace CatalogRspec.Files

namespace Entries

theorem get?_put_self (es : Entries) (l : Location) (e : Entry) : (es.put l e).get? l = some e := by
  induction es with
  | nil => simp [put, get?]
  | cons entry rest ih =>
    obtain ⟨k, old⟩ := entry
    rw [put]
    by_cases hk : k = l
    · simp [get?, hk]
    · rw [if_neg hk, get?, List.lookup_cons, beq_false_of_ne (Ne.symm hk)]
      exact ih

theorem get?_put_other (es : Entries) {l l' : Location} (e : Entry) (h : l' ≠ l) :
    (es.put l e).get? l' = es.get? l' := by
  induction es with
  | nil => simp [put, get?, List.lookup_cons, beq_false_of_ne h]
  | cons entry rest ih =>
    obtain ⟨k, old⟩ := entry
    rw [put]
    by_cases hk : k = l
    · subst hk
      simp [get?, List.lookup_cons, beq_false_of_ne h]
    · rw [if_neg hk, get?, get?, List.lookup_cons, List.lookup_cons]
      cases l' == k with
      | true => rfl
      | false => exact ih

end Entries

namespace Tree

variable {t t' t'' : Tree} {l l' : Location} {p : Path}

theorem entry?_put_self (t : Tree) (e : Entry) (h : l ≠ []) :
    Tree.entry? (t.put l e) l = some e := by
  unfold entry?
  rw [if_neg h]
  exact t.entries.get?_put_self l e

theorem entry?_put_other (t : Tree) (e : Entry) (h : l' ≠ l) :
    Tree.entry? (t.put l e) l' = t.entry? l' := by
  unfold entry?
  congr 1
  exact t.entries.get?_put_other e h

theorem ne_nil_of_not_directory (h : t.entry? l ≠ some .directory) : l ≠ [] := by
  rintro rfl
  exact h rfl

theorem step_eq_ok {segment : String} (h : t.step l segment = .ok l') :
    t.entry? l = some .directory := by
  unfold step at h
  split at h
  · cases h
  · cases h
  · assumption

theorem follow_cons (t : Tree) (l : Location) (segment : String) (segments : List String) :
    t.follow l (segment :: segments) = t.step l segment >>= (t.follow · segments) := rfl

theorem follow_append (t : Tree) (l : Location) (xs ys : List String) :
    t.follow l (xs ++ ys) = t.follow l xs >>= (t.follow · ys) :=
  List.foldlM_append

theorem locate_eq_ok_iff (t : Tree) (p : Path) (l : Location) :
    t.locate p = .ok l ↔ checkPath p = .ok () ∧ t.follow (t.start p) p.segments = .ok l := by
  unfold locate
  rw [Except.bind_eq_ok_iff]
  constructor
  · rintro ⟨_, hcheck, hfollow⟩
    exact ⟨hcheck, hfollow⟩
  · rintro ⟨hcheck, hfollow⟩
    exact ⟨_, hcheck, hfollow⟩

theorem prefix_of_follow {segments : List String} (hup : ".." ∉ segments)
    (h : t.follow l segments = .ok l') : l <+: l' := by
  induction segments generalizing l with
  | nil =>
    have hl : l = l' := Except.ok.inj h
    exact hl ▸ List.prefix_refl l
  | cons segment segments ih =>
    rw [follow_cons] at h
    obtain ⟨m, hstep, hrest⟩ := Except.bind_eq_ok_iff.mp h
    have hbelow : m <+: l' := ih (fun hm => hup (List.mem_cons_of_mem _ hm)) hrest
    have hsegment : segment ≠ ".." := fun e => hup (e ▸ List.mem_cons_self)
    -- A step that is not upwards stays or goes one name down.
    have hfirst : l <+: m := by
      rw [step, step_eq_ok hstep] at hstep
      by_cases hidle : isIdle segment = true
      · simp only [hidle, if_true, Except.ok.injEq] at hstep
        exact hstep ▸ List.prefix_refl l
      · simp only [hidle, Bool.false_eq_true, if_false, beq_iff_eq, hsegment] at hstep
        split at hstep
        · cases hstep
        · cases hstep
          exact List.prefix_append l [segment]
    exact hfirst.trans hbelow

/-- What is a directory in the first tree is one in the second. -/
structure KeepsDirectories (t t' : Tree) : Prop where
  workingDirectory : t'.workingDirectory = t.workingDirectory
  directory : ∀ l, t.entry? l = some .directory → t'.entry? l = some .directory

namespace KeepsDirectories

theorem put (h : t.entry? l ≠ some .directory) (e : Entry) : KeepsDirectories t (t.put l e) where
  workingDirectory := rfl
  directory l' hl' := by
    have hne : l' ≠ l := fun hl => h (hl ▸ hl')
    rw [entry?_put_other t e hne]
    exact hl'

theorem step (h : KeepsDirectories t t') {segment : String} (hstep : t.step l segment = .ok l') :
    t'.step l segment = .ok l' := by
  have hl : t.entry? l = some .directory := step_eq_ok hstep
  rw [Tree.step, hl] at hstep
  rw [Tree.step, h.directory l hl]
  exact hstep

theorem follow (h : KeepsDirectories t t') {segments : List String}
    (hfollow : t.follow l segments = .ok l') : t'.follow l segments = .ok l' := by
  induction segments generalizing l with
  | nil => exact hfollow
  | cons segment segments ih =>
    rw [follow_cons] at hfollow ⊢
    obtain ⟨m, hstep, hrest⟩ := Except.bind_eq_ok_iff.mp hfollow
    exact Except.bind_eq_ok_iff.mpr ⟨m, h.step hstep, ih hrest⟩

theorem locate (h : KeepsDirectories t t') (hlocate : t.locate p = .ok l) :
    t'.locate p = .ok l := by
  rw [locate_eq_ok_iff] at hlocate ⊢
  have hstart : t'.start p = t.start p := by rw [start, start, h.workingDirectory]
  rw [hstart]
  exact ⟨hlocate.1, h.follow hlocate.2⟩

end KeepsDirectories

/-- A place where the second tree has one of the directories, and the first has nothing. -/
def IsNewDirectory (paths : List Path) (t t' : Tree) (l : Location) : Prop :=
  t.entry? l = none ∧ t'.entry? l = some .directory ∧ ∃ p ∈ paths, t'.locate p = .ok l

/-- The second tree has nothing more than some of the directories. -/
structure GrownAlong (paths : List Path) (t t' : Tree) : Prop where
  workingDirectory : t'.workingDirectory = t.workingDirectory
  location : ∀ l, t'.entry? l = t.entry? l ∨ IsNewDirectory paths t t' l

namespace GrownAlong

variable {paths more : List Path}

theorem refl (paths : List Path) (t : Tree) : GrownAlong paths t t := ⟨rfl, fun _ => .inl rfl⟩

theorem mono (h : GrownAlong paths t t') (hmore : ∀ p ∈ paths, p ∈ more) :
    GrownAlong more t t' where
  workingDirectory := h.workingDirectory
  location l := by
    rcases h.location l with hl | ⟨hnone, hdirectory, p, hp, hlocate⟩
    · exact .inl hl
    · exact .inr ⟨hnone, hdirectory, p, hmore p hp, hlocate⟩

theorem keepsDirectories (h : GrownAlong paths t t') : KeepsDirectories t t' where
  workingDirectory := h.workingDirectory
  directory l hl := by
    rcases h.location l with hsame | ⟨-, hdirectory, -⟩
    · rw [hsame]
      exact hl
    · exact hdirectory

theorem trans (h : GrownAlong paths t t') (h' : GrownAlong paths t' t'') :
    GrownAlong paths t t'' where
  workingDirectory := h'.workingDirectory.trans h.workingDirectory
  location l := by
    rcases h.location l with hsame | ⟨hnone, hdirectory, p, hp, hlocate⟩
    · rcases h'.location l with hsame' | ⟨hnone', hdirectory', hpath'⟩
      · exact .inl (hsame'.trans hsame)
      · exact .inr ⟨hsame ▸ hnone', hdirectory', hpath'⟩
    -- The path leads there in the middle tree, and the second change keeps that.
    · exact .inr ⟨hnone, h'.keepsDirectories.directory l hdirectory, p, hp,
        h'.keepsDirectories.locate hlocate⟩

end GrownAlong

theorem createDirectory_eq_ok (h : t.createDirectory p = .ok t') :
    ∃ l, t.locate p = .ok l ∧ t.entry? l = none ∧ t' = t.put l .directory := by
  unfold createDirectory at h
  obtain ⟨l, hlocate, h⟩ := Except.bind_eq_ok_iff.mp h
  split at h
  next => cases h
  next hnone => exact ⟨l, hlocate, hnone, (Except.ok.inj h).symm⟩

theorem grownAlong_createDirectory (h : t.createDirectory p = .ok t') :
    GrownAlong [p] t t' := by
  obtain ⟨l, hlocate, hnone, rfl⟩ := createDirectory_eq_ok h
  have hentry : t.entry? l ≠ some .directory := by simp [hnone]
  refine ⟨rfl, fun l' => ?_⟩
  by_cases hl : l' = l
  · subst hl
    have hput := entry?_put_self t .directory (ne_nil_of_not_directory hentry)
    exact .inr ⟨hnone, hput, p, List.mem_singleton_self p,
      (KeepsDirectories.put hentry _).locate hlocate⟩
  · exact .inl (entry?_put_other t _ hl)

/-- Whatever tree it starts from, the run adds nothing but some of the directories. -/
def Grows {α : Type} (paths : List Path) (x : StateM Tree α) : Prop :=
  ∀ t, GrownAlong paths t (x t).2

namespace Grows

variable {α β : Type} {paths : List Path}

theorem pure (a : α) : Grows paths (Pure.pure a) := fun t => .refl paths t

theorem bind {x : StateM Tree α} {f : α → StateM Tree β} (hx : Grows paths x)
    (hf : ∀ a, Grows paths (f a)) : Grows paths (x >>= f) := fun t =>
  (hx t).trans (hf (x t).1 (x t).2)

theorem createDirectory (hp : p ∈ paths) : Grows paths (access.createDirectory p) := by
  intro t
  show GrownAlong paths t (change (·.createDirectory p) t).2
  unfold change
  cases h : t.createDirectory p with
  | error e =>
    simp only [h]
    exact .refl paths t
  | ok t' =>
    simp only [h]
    exact (grownAlong_createDirectory h).mono fun q hq => List.mem_singleton.mp hq ▸ hp

theorem acceptDirectory (p : Path) (fault : Fault) :
    Grows paths (access.acceptDirectory p fault) := by
  have hlook : Grows paths (access.isDirectory p) := fun t => .refl paths t
  refine hlook.bind fun b => ?_
  cases b <;> exact .pure _

/-- Whether or not all directories come to be there, nothing else does. -/
theorem createDirectories (paths : List Path) : Grows paths (access.createDirectories paths) := by
  induction paths with
  | nil => exact .pure _
  | cons p above ih =>
    have hp : p ∈ p :: above := List.mem_cons_self
    have habove : Grows (p :: above) (access.createDirectories above) := fun t =>
      (ih t).mono fun q hq => List.mem_cons_of_mem p hq
    have hfirst : Grows (p :: above) (access.createDirectory p) := .createDirectory hp
    refine hfirst.bind fun r => ?_
    cases r with
    | ok u => exact .pure _
    | error fault =>
      cases fault with
      | notFound =>
        -- Only here are the directories above created, and after them the first one again.
        refine habove.bind fun r => ?_
        cases r with
        | error e => exact .pure _
        | ok u =>
          refine hfirst.bind fun r => ?_
          cases r with
          | ok u => exact .pure _
          | error e => exact .acceptDirectory p e
      | _ => exact .acceptDirectory p _

end Grows

end Tree

end CatalogRspec.Files

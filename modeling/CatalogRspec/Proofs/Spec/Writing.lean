import CatalogRspec.Proofs.Files.Growth
import CatalogRspec.Proofs.Log.Effects
import CatalogRspec.Spec.Write

namespace CatalogRspec

open Files

namespace Files.Tree

variable {t t' t'' : Tree} {p : Path} {l : Location} {bytes : List UInt8}

theorem locateFile_eq_ok_iff :
    t.locateFile p = .ok l ↔ p.endsInSlash = false ∧ t.locate p = .ok l := by
  cases hslash : p.endsInSlash with
  | true =>
    -- A path with a slash at its end is refused whatever stands there.
    simp only [locateFile, hslash, if_true, Bool.true_eq_false, false_and, iff_false]
    intro h
    obtain ⟨_, -, h⟩ := Except.bind_eq_ok_iff.mp h
    obtain ⟨_, -, h⟩ := Except.bind_eq_ok_iff.mp h
    obtain ⟨_, -, h⟩ := Except.bind_eq_ok_iff.mp h
    cases h
  | false => simp [locateFile, hslash]

theorem write_eq_ok_iff : t.write p bytes = .ok t' ↔
    ∃ l, t.locateFile p = .ok l ∧ t.entry? l ≠ some .directory ∧ t' = t.put l (.file bytes) := by
  unfold write
  rw [Except.bind_eq_ok_iff]
  refine exists_congr fun l => and_congr_right fun _ => ?_
  split
  next hentry => simp [hentry]
  next hentry =>
    have hfree : t.entry? l ≠ some .directory := hentry
    constructor
    · intro h
      exact ⟨hfree, (Except.ok.inj h).symm⟩
    · rintro ⟨-, rfl⟩
      rfl

theorem change_eq_ok {f : Tree → Except Fault Tree} (h : (change f t).1 = .ok ()) :
    f t = .ok (change f t).2 := by
  unfold change at h ⊢
  cases hf : f t with
  | error e =>
    rw [hf] at h
    cases h
  | ok t' => rfl

/-- The second tree has a file at the path, and maybe directories on the way there that the first
does not have; all else is the same. -/
structure Written (p : Path) (bytes : List UInt8) (t t' : Tree) : Prop where
  workingDirectory : t'.workingDirectory = t.workingDirectory
  file : ∃ l, t'.locate p = .ok l ∧ t'.entry? l = some (.file bytes) ∧
    ∀ l' ≠ l, t'.entry? l' = t.entry? l' ∨
      (IsNewDirectory p.directories t t' l' ∧ (".." ∉ p.segments → l' <+: l))

theorem prefix_of_mem_directories {q : Path} {l' : Location} (hq : q ∈ p.directories)
    (hup : ".." ∉ p.segments) (hl' : t.locate q = .ok l') (hl : t.locate p = .ok l) : l' <+: l := by
  obtain ⟨habsolute, rest, hrest⟩ := Path.of_mem_directories hq
  have hstart : t.start q = t.start p := by rw [start, start, habsolute]
  have hfollow' : t.follow (t.start p) q.segments = .ok l' := by
    rw [← hstart]
    exact ((locate_eq_ok_iff t q l').mp hl').2
  have hfollow : t.follow l' rest = .ok l := by
    have h := ((locate_eq_ok_iff t p l).mp hl).2
    rw [← hrest, follow_append, hfollow'] at h
    exact h
  refine prefix_of_follow (fun hm => hup ?_) hfollow
  rw [← hrest]
  exact List.mem_append_right _ hm

theorem GrownAlong.written (h : GrownAlong p.directories t t')
    (hwrite : t'.write p bytes = .ok t'') : Written p bytes t t'' := by
  obtain ⟨l, hlocateFile, hentry, rfl⟩ := write_eq_ok_iff.mp hwrite
  obtain ⟨-, hlocate⟩ := locateFile_eq_ok_iff.mp hlocateFile
  have hkeeps : KeepsDirectories t' (t'.put l (.file bytes)) := .put hentry _
  have hlocated : (t'.put l (.file bytes)).locate p = .ok l := hkeeps.locate hlocate
  refine ⟨h.workingDirectory, l, hlocated, entry?_put_self t' _ (ne_nil_of_not_directory hentry),
    fun l' hl' => ?_⟩
  rw [entry?_put_other t' _ hl']
  rcases h.location l' with hsame | ⟨hnone, hdirectory, q, hq, hlocate'⟩
  · exact .inl hsame
  · have hlocated' := hkeeps.locate hlocate'
    refine .inr ⟨⟨hnone, hkeeps.directory l' hdirectory, q, hq, hlocated'⟩, fun hup => ?_⟩
    exact prefix_of_mem_directories hq hup hlocated' hlocated

end Files.Tree

theorem grows_ensureDirectory (p : Path) :
    Tree.Grows p.directories (ensureDirectory Tree.access p) := by
  unfold ensureDirectory
  cases p.directories with
  | nil => exact .pure _
  | cons parent above => exact (Tree.Grows.createDirectories _).bind fun r => .pure _

/-- A spec that is written stands in a file at the path, and nothing else is new but directories for
that file. -/
theorem written_of_writeSpec {p : Path} {spec : String} {t : Tree}
    (h : (writeSpec Tree.access p spec t).1.outcome = .ok ()) :
    Tree.Written p (Text.utf8 spec) t (writeSpec Tree.access p spec t).2 := by
  unfold writeSpec at h ⊢
  obtain ⟨_, -, h, hstate⟩ := TracedT.bind_eq_ok h
  obtain ⟨_, hwrite, -, hstate'⟩ := TracedT.bind_eq_ok h
  rw [hstate, hstate']
  have hgrown : Tree.GrownAlong p.directories t (ensureDirectory Tree.access p t).2 :=
    grows_ensureDirectory p t
  exact hgrown.written (Tree.change_eq_ok (TracedT.liftExcept_eq_ok hwrite))

end CatalogRspec

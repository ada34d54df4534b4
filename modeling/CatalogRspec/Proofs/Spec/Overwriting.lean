import CatalogRspec.Proofs.Files.Directories
import CatalogRspec.Proofs.Spec.Writing

namespace CatalogRspec

open Files

namespace Files

theorem Entries.put_put (es : Entries) (l : Location) (a b : Entry) :
    (es.put l a).put l b = es.put l b := by
  induction es with
  | nil => simp [put]
  | cons entry rest ih =>
    obtain ⟨k, old⟩ := entry
    rw [put, put]
    by_cases hk : k = l
    · rw [if_pos hk, if_pos hk, put, if_pos rfl]
    · rw [if_neg hk, if_neg hk, put, if_neg hk, ih]

namespace Tree

variable {t t' t'' : Tree} {p q : Path} {l : Location} {bytes other : List UInt8}

theorem put_put (t : Tree) (l : Location) (a b : Entry) : (t.put l a).put l b = t.put l b := by
  unfold put
  rw [Entries.put_put]

theorem read_of_file (hlocate : t.locate p = .ok l) (hentry : t.entry? l = some (.file bytes)) :
    t.read p = .ok bytes := by
  unfold read
  rw [hlocate, Except.ok_bind, hentry]
  rfl

theorem read_eq_ok (h : t.read p = .ok bytes) :
    ∃ l, t.locate p = .ok l ∧ t.entry? l = some (.file bytes) := by
  unfold read at h
  obtain ⟨l, hlocate, h⟩ := Except.bind_eq_ok_iff.mp h
  split at h
  next => cases h
  next => cases h
  next found hentry =>
    cases h
    exact ⟨l, hlocate, hentry⟩

theorem write_after_write (h : t.write p other = .ok t') (bytes : List UInt8) :
    t'.write p bytes = t.write p bytes := by
  obtain ⟨l, hlocate, hentry, rfl⟩ := write_eq_ok_iff.mp h
  have hfirst : t.write p bytes = .ok (t.put l (.file bytes)) :=
    write_eq_ok_iff.mpr ⟨l, hlocate, hentry, rfl⟩
  obtain ⟨hslash, hplace⟩ := locateFile_eq_ok_iff.mp hlocate
  have hplace' : (t.put l (.file other)).locate p = .ok l :=
    (KeepsDirectories.put hentry _).locate hplace
  have hfile := entry?_put_self t (.file other) (ne_nil_of_not_directory hentry)
  rw [hfirst, write_eq_ok_iff]
  refine ⟨l, locateFile_eq_ok_iff.mpr ⟨hslash, hplace'⟩, ?_, (put_put t l _ _).symm⟩
  rw [hfile]
  exact nofun

theorem exists_write_iff : (∃ t', t.write p bytes = .ok t') ↔ ∃ t', t.write p other = .ok t' := by
  simp only [write_eq_ok_iff]
  constructor
  · rintro ⟨_, l, hlocate, hentry, rfl⟩
    exact ⟨_, l, hlocate, hentry, rfl⟩
  · rintro ⟨_, l, hlocate, hentry, rfl⟩
    exact ⟨_, l, hlocate, hentry, rfl⟩

theorem keepsDirectories_write (h : t.write p bytes = .ok t') : KeepsDirectories t t' := by
  obtain ⟨l, -, hentry, rfl⟩ := write_eq_ok_iff.mp h
  exact .put hentry _

end Tree

end Files

section Directory

variable {t t' t'' : Tree} {p : Path} {r : Except Failure Unit}

theorem ensureDirectory_of_nil (h : p.directories = []) (t : Tree) :
    ensureDirectory Tree.access p t = (.ok (), t) := by
  unfold ensureDirectory
  rw [h]
  rfl

theorem ensureDirectory_of_cons {parent : Path} {above : List Path} {r : Except Fault Unit}
    (h : p.directories = parent :: above)
    (hcreate : Tree.access.createDirectories (parent :: above) t = (r, t')) :
    ensureDirectory Tree.access p t = (r.mapError (.directoryNotCreated parent.text), t') := by
  unfold ensureDirectory
  rw [h]
  exact Tree.bind_run hcreate _

theorem ensureDirectory_of_ok (h : ensureDirectory Tree.access p t = (.ok (), t'))
    (hkeeps : Tree.KeepsDirectories t' t'') :
    ensureDirectory Tree.access p t'' = (.ok (), t'') := by
  cases hp : p.directories with
  | nil => exact ensureDirectory_of_nil hp t''
  | cons parent above =>
    cases hcreate : Tree.access.createDirectories (parent :: above) t with
    | mk r s =>
      rw [ensureDirectory_of_cons hp hcreate] at h
      obtain ⟨hr, rfl⟩ := Prod.mk.inj h
      rw [Except.mapError_eq_ok_iff.mp hr] at hcreate
      have hkind := hkeeps.kind? (Tree.kind?_createDirectories hcreate)
      exact ensureDirectory_of_cons hp (Tree.createDirectories_of_directory hkind)

/-- However the directory was ensured, to do it again ends so too and changes nothing. -/
theorem ensureDirectory_again (h : ensureDirectory Tree.access p t = (r, t')) :
    ∃ r', ensureDirectory Tree.access p t' = (r', t') ∧ (r' = .ok () ↔ r = .ok ()) := by
  cases hp : p.directories with
  | nil =>
    rw [ensureDirectory_of_nil hp] at h
    obtain ⟨rfl, rfl⟩ := Prod.mk.inj h
    exact ⟨_, ensureDirectory_of_nil hp t, Iff.rfl⟩
  | cons parent above =>
    cases hcreate : Tree.access.createDirectories (parent :: above) t with
    | mk s t₁ =>
      rw [ensureDirectory_of_cons hp hcreate] at h
      obtain ⟨rfl, rfl⟩ := Prod.mk.inj h
      have hthrough : (parent :: above).Pairwise Path.GoesThrough := hp ▸ p.pairwise_directories
      obtain ⟨s', hagain, hs⟩ := Tree.createDirectories_again hthrough hcreate
      refine ⟨_, ensureDirectory_of_cons hp hagain, ?_⟩
      rw [Except.mapError_eq_ok_iff, Except.mapError_eq_ok_iff, hs]

end Directory

section Runs

variable {t t' t'' : Tree} {p : Path} {spec : String}

theorem liftExcept_ok {ε δ α σ : Type} {f : δ → ε} {x : StateM σ (Except δ α)} {s s' : σ} {a : α}
    (h : x s = (.ok a, s')) :
    (TracedT.liftExcept f x : TracedT ε (StateM σ) α) s = (⟨[], .ok a⟩, s') := by
  show (Traced.ofExcept ((x s).1.mapError f), (x s).2) = _
  rw [h]
  rfl

theorem liftExcept_error {ε δ α σ : Type} {f : δ → ε} {x : StateM σ (Except δ α)} {s s' : σ} {e : δ}
    (h : x s = (.error e, s')) :
    (TracedT.liftExcept f x : TracedT ε (StateM σ) α) s = (⟨[], .error (f e)⟩, s') := by
  show (Traced.ofExcept ((x s).1.mapError f), (x s).2) = _
  rw [h]
  rfl

theorem writeSpec_of_refused {f : Failure} (h : ensureDirectory Tree.access p t = (.error f, t'))
    (spec : String) : writeSpec Tree.access p spec t = (⟨[], .error f⟩, t') := by
  unfold writeSpec
  rw [TracedT.bind_apply, liftExcept_error h]
  rfl

theorem writeSpec_of_not_written {fault : Fault}
    (h : ensureDirectory Tree.access p t = (.ok (), t'))
    (hwrite : t'.write p (Text.utf8 spec) = .error fault) :
    writeSpec Tree.access p spec t = (⟨[], .error (.specNotWritten p.text fault)⟩, t') := by
  have hfailed : Tree.access.write p (Text.utf8 spec) t' = (.error fault, t') :=
    Tree.change_of_error (f := (·.write p (Text.utf8 spec))) hwrite
  unfold writeSpec
  rw [TracedT.bind_apply, liftExcept_ok h]
  dsimp only
  rw [TracedT.bind_apply, liftExcept_error hfailed]
  rfl

theorem writeSpec_of_written (h : ensureDirectory Tree.access p t = (.ok (), t'))
    (hwrite : t'.write p (Text.utf8 spec) = .ok t'') :
    writeSpec Tree.access p spec t =
      (⟨[.specWritten p.text spec.utf8ByteSize], .ok ()⟩, t'') := by
  have hdone : Tree.access.write p (Text.utf8 spec) t' = (.ok (), t'') :=
    Tree.change_of_ok (f := (·.write p (Text.utf8 spec))) hwrite
  unfold writeSpec
  rw [TracedT.bind_apply, liftExcept_ok h]
  dsimp only
  rw [TracedT.bind_apply, liftExcept_ok hdone]
  rfl

/-- A run is refused a directory or the file, or it writes the file. -/
theorem writeSpec_cases (t : Tree) (p : Path) :
    (∃ f t', ensureDirectory Tree.access p t = (.error f, t')) ∨
    (∃ t', ensureDirectory Tree.access p t = (.ok (), t') ∧
      ((∀ bytes, ∃ fault, t'.write p bytes = .error fault) ∨
        ∀ bytes, ∃ t'', t'.write p bytes = .ok t'')) := by
  cases h : ensureDirectory Tree.access p t with
  | mk r t' =>
    cases r with
    | error f => exact .inl ⟨f, t', rfl⟩
    | ok u =>
      refine .inr ⟨t', rfl, ?_⟩
      by_cases hwrite : ∃ t'', t'.write p [] = .ok t''
      · exact .inr fun bytes => Tree.exists_write_iff.mp hwrite
      · refine .inl fun bytes => ?_
        cases hbytes : t'.write p bytes with
        | error fault => exact ⟨fault, rfl⟩
        | ok t'' => exact absurd (Tree.exists_write_iff.mp ⟨t'', hbytes⟩) hwrite

/-- Whatever was written there before, and whether or not it could be written, the tree is the same in
the end. -/
theorem writeSpec_after_writeSpec (t : Tree) (p : Path) (other spec : String) :
    let again := writeSpec Tree.access p spec (writeSpec Tree.access p other t).2
    let once := writeSpec Tree.access p spec t
    again.2 = once.2 ∧ (again.1.outcome = .ok () ↔ once.1.outcome = .ok ()) := by
  -- Which way a run goes does not depend on the text, so both runs go the same way.
  rcases writeSpec_cases t p with ⟨f, t', h⟩ | ⟨t', h, hrefused | hwritten⟩
  · obtain ⟨r', hagain, hr⟩ := ensureDirectory_again h
    cases r' with
    | ok u => cases hr.mp rfl
    | error f' =>
      rw [writeSpec_of_refused h other, writeSpec_of_refused h spec]
      dsimp only
      rw [writeSpec_of_refused hagain spec]
      exact ⟨rfl, ⟨nofun, nofun⟩⟩
  · have hagain := ensureDirectory_of_ok h (Tree.KeepsDirectories.refl t')
    obtain ⟨fault, hother⟩ := hrefused (Text.utf8 other)
    obtain ⟨fault', hspec⟩ := hrefused (Text.utf8 spec)
    rw [writeSpec_of_not_written h hother, writeSpec_of_not_written h hspec]
    dsimp only
    rw [writeSpec_of_not_written hagain hspec]
    exact ⟨rfl, Iff.rfl⟩
  · obtain ⟨t₁, hother⟩ := hwritten (Text.utf8 other)
    obtain ⟨t₂, hspec⟩ := hwritten (Text.utf8 spec)
    have hagain := ensureDirectory_of_ok h (Tree.keepsDirectories_write hother)
    have hover : t₁.write p (Text.utf8 spec) = .ok t₂ :=
      (Tree.write_after_write hother _).trans hspec
    rw [writeSpec_of_written h hother, writeSpec_of_written h hspec]
    dsimp only
    rw [writeSpec_of_written hagain hover]
    exact ⟨rfl, Iff.rfl⟩

theorem exists_of_writeSpec_ok (h : (writeSpec Tree.access p spec t).1.outcome = .ok ()) :
    ∃ t', ensureDirectory Tree.access p t = (.ok (), t') ∧
      t'.write p (Text.utf8 spec) = .ok (writeSpec Tree.access p spec t).2 := by
  rcases writeSpec_cases t p with ⟨f, t', hf⟩ | ⟨t', hensure, hrefused | hwritten⟩
  · rw [writeSpec_of_refused hf spec] at h
    cases h
  · obtain ⟨fault, hspec⟩ := hrefused (Text.utf8 spec)
    rw [writeSpec_of_not_written hensure hspec] at h
    cases h
  · obtain ⟨t'', hspec⟩ := hwritten (Text.utf8 spec)
    refine ⟨t', hensure, ?_⟩
    rw [writeSpec_of_written hensure hspec]
    exact hspec

theorem state_of_writeSpec_failed (h : (writeSpec Tree.access p spec t).1.outcome ≠ .ok ()) :
    (writeSpec Tree.access p spec t).2 = (ensureDirectory Tree.access p t).2 := by
  rcases writeSpec_cases t p with ⟨f, t', hf⟩ | ⟨t', hensure, hrefused | hwritten⟩
  · rw [writeSpec_of_refused hf spec, hf]
  · obtain ⟨fault, hspec⟩ := hrefused (Text.utf8 spec)
    rw [writeSpec_of_not_written hensure hspec, hensure]
  · obtain ⟨t'', hspec⟩ := hwritten (Text.utf8 spec)
    rw [writeSpec_of_written hensure hspec] at h
    exact absurd rfl h

theorem read_of_writeSpec_ok (h : (writeSpec Tree.access p spec t).1.outcome = .ok ())
    {q : Path} {bytes : List UInt8} (hread : t.read q = .ok bytes) :
    let t' := (writeSpec Tree.access p spec t).2
    t'.read q = .ok bytes ∨ t'.locate q = t'.locate p := by
  intro t'
  obtain ⟨t₁, hensure, hwrite⟩ := exists_of_writeSpec_ok h
  obtain ⟨l, hlocate, hfile⟩ := Tree.read_eq_ok hread
  have hgrown : Tree.GrownAlong p.directories t t₁ := by
    have hgrows := grows_ensureDirectory p t
    rwa [hensure] at hgrows
  have hlocated : t'.locate q = .ok l :=
    (Tree.keepsDirectories_write hwrite).locate (hgrown.keepsDirectories.locate hlocate)
  obtain ⟨-, l', hlocate', -, hothers⟩ := written_of_writeSpec h
  by_cases hl : l = l'
  · exact .inr (hlocated.trans (hl ▸ hlocate'.symm))
  · left
    apply Tree.read_of_file hlocated
    rcases hothers l hl with hsame | ⟨⟨hnone, -⟩, -⟩
    · exact hsame.trans hfile
    · cases hnone.symm.trans hfile

/-- What is written can be read back, files elsewhere keep their content, and nothing else is new but
directories on the way to the file; to write it again changes nothing. A run that fails may leave such
directories and touches no file. What an earlier run wrote to the path makes no difference to the tree. -/
theorem writeSpec_effect (t : Tree) (p : Path) (spec : String) :
    let r := writeSpec Tree.access p spec t
    (r.1.outcome = .ok () →
      Tree.access.readText p r.2 = (.ok spec, r.2) ∧
      (∀ q bytes, t.read q = .ok bytes → r.2.read q = .ok bytes ∨ r.2.locate q = r.2.locate p) ∧
      Tree.Written p (Text.utf8 spec) t r.2 ∧
      writeSpec Tree.access p spec r.2 = r) ∧
    (r.1.outcome ≠ .ok () → Tree.GrownAlong p.directories t r.2) ∧
    ∀ other,
      let again := writeSpec Tree.access p spec (writeSpec Tree.access p other t).2
      again.2 = r.2 ∧ (again.1.outcome = .ok () ↔ r.1.outcome = .ok ()) := by
  intro r
  refine ⟨fun h => ⟨?_, fun q bytes => read_of_writeSpec_ok h, written_of_writeSpec h, ?_⟩,
    fun h => ?_, fun other => writeSpec_after_writeSpec t p other spec⟩
  · obtain ⟨-, l, hlocate, hfile, -⟩ := written_of_writeSpec h
    exact Tree.readText_of_read (Tree.read_of_file hlocate hfile)
  · obtain ⟨t', hensure, hwrite⟩ := exists_of_writeSpec_ok h
    have hagain := ensureDirectory_of_ok hensure (Tree.keepsDirectories_write hwrite)
    have hover := (Tree.write_after_write hwrite (Text.utf8 spec)).trans hwrite
    have hr : r = _ := writeSpec_of_written hensure hwrite
    rw [hr]
    exact writeSpec_of_written hagain hover
  · show Tree.GrownAlong p.directories t (writeSpec Tree.access p spec t).2
    rw [state_of_writeSpec_failed h]
    exact grows_ensureDirectory p t

theorem writeSpec_effect_on_shorter_text :
    let t : Tree := ⟨["w"], [(["w"], .directory), (["w", "f"], .file (Text.utf8 "an old text"))]⟩
    let r := writeSpec Tree.access (Path.ofText "d/../f") "new" t
    let failed := writeSpec Tree.access (Path.ofText "d/../f/x") "new" t
    r.1.outcome = .ok () ∧ Tree.access.readText (Path.ofText "d/../f") r.2 = (.ok "new", r.2) ∧
      writeSpec Tree.access (Path.ofText "d/../f") "new" r.2 = r ∧
      failed.1.outcome ≠ .ok () ∧
      Tree.GrownAlong (Path.ofText "d/../f/x").directories t failed.2 := by
  intro t r failed
  have hok : r.1.outcome = .ok () := rfl
  have herror : failed.1.outcome = .error (.directoryNotCreated "d/../f" .alreadyExists) := rfl
  have hfailed : failed.1.outcome ≠ .ok () := by
    rw [herror]
    exact nofun
  obtain ⟨hread, -, -, hagain⟩ := (writeSpec_effect t (Path.ofText "d/../f") "new").1 hok
  have hgrown := (writeSpec_effect t (Path.ofText "d/../f/x") "new").2.1 hfailed
  exact ⟨hok, hread, hagain, hfailed, hgrown⟩

end Runs

end CatalogRspec

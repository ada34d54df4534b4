import CatalogRspec.Proofs.Files.Growth

namespace CatalogRspec

theorem Text.mk_utf8 (s : String) : ByteArray.mk (utf8 s).toArray = s.toByteArray := by
  rw [← String.utf8Encode_toList]
  apply ByteArray.ext
  rw [List.utf8Encode, List.data_toByteArray]
  rfl

theorem Text.ofUtf8?_eq_some_iff (bytes : List UInt8) (s : String) :
    ofUtf8? bytes = some s ↔ bytes = utf8 s := by
  unfold ofUtf8? String.fromUTF8?
  constructor
  · intro h
    split at h
    · have hbytes : s.toByteArray = ByteArray.mk bytes.toArray := by
        rw [← Option.some.inj h]
        rfl
      have hdata := congrArg (·.data.toList) ((mk_utf8 s).trans hbytes)
      simpa using hdata.symm
    · cases h
  · rintro rfl
    rw [mk_utf8, dif_pos s.isValidUTF8]
    rfl

namespace Files

/-- To follow the first path is to follow the second one first, and then at least a segment more. -/
def Path.GoesThrough (p q : Path) : Prop :=
  q.isAbsolute = p.isAbsolute ∧ q.segments ≠ [] ∧
    ∃ segment rest, p.segments = q.segments ++ segment :: rest

theorem ne_nil_of_mem_stems {α : Type} {xs ys : List α} (h : ys ∈ stems xs) : ys ≠ [] := by
  cases xs with
  | nil => cases h
  | cons x xs =>
    rw [stems, List.mem_append, List.mem_map, List.mem_singleton] at h
    rcases h with ⟨zs, -, rfl⟩ | rfl
    · exact List.cons_ne_nil x zs
    · exact List.cons_ne_nil x []

theorem pairwise_stems {α : Type} (xs : List α) :
    (stems xs).Pairwise fun a b => ∃ c rest, a = b ++ c :: rest := by
  induction xs with
  | nil => exact .nil
  | cons x xs ih =>
    rw [stems, List.pairwise_append, List.pairwise_map]
    refine ⟨ih.imp ?_, List.pairwise_singleton _ _, ?_⟩
    · rintro a b ⟨c, rest, rfl⟩
      exact ⟨c, rest, rfl⟩
    · intro a ha b hb
      obtain ⟨zs, hzs, rfl⟩ := List.mem_map.mp ha
      obtain ⟨c, rest, rfl⟩ := List.exists_cons_of_ne_nil (ne_nil_of_mem_stems hzs)
      exact ⟨c, rest, by rw [List.mem_singleton.mp hb]; rfl⟩

namespace Path

variable {p q : Path}

theorem pairwise_directories (p : Path) : p.directories.Pairwise GoesThrough := by
  have htrail : p.trail.Pairwise GoesThrough := by
    refine List.pairwise_map.mpr (((pairwise_stems p.segments).filter p.isStop).imp_of_mem ?_)
    intro a b _ hb hab
    exact ⟨rfl, ne_nil_of_mem_stems (List.mem_filter.mp hb).1, hab⟩
  exact htrail.tail

theorem GoesThrough.exists_text_append (h : p.GoesThrough q) : ∃ more, p.text = q.text ++ more := by
  obtain ⟨habsolute, hne, segment, rest, hsegments⟩ := h
  refine ⟨"/" ++ "/".intercalate (segment :: rest), ?_⟩
  rw [text, text, habsolute, hsegments,
    String.intercalate_append_of_ne_nil hne (List.cons_ne_nil segment rest)]
  simp only [String.append_assoc]

theorem GoesThrough.checkPath (h : p.GoesThrough q) (hp : Tree.checkPath p = .ok ()) :
    Tree.checkPath q = .ok () := by
  obtain ⟨more, htext⟩ := h.exists_text_append
  have hblank : ¬q.isBlank = true := by simp [isBlank, h.2.1]
  unfold Tree.checkPath at hp ⊢
  rw [htext] at hp
  split at hp
  · cases hp
  split at hp
  · cases hp
  split at hp
  · cases hp
  next hnul hlong =>
    have hnul' : ¬q.text.toList.contains (Char.ofNat 0) = true := by
      intro hmem
      apply hnul
      rw [List.contains_iff_mem] at hmem ⊢
      rw [String.toList_append]
      exact List.mem_append_left _ hmem
    have hlong' : ¬q.text.utf8ByteSize > Tree.maxPathBytes := by
      rw [String.utf8ByteSize_append] at hlong
      omega
    rw [if_neg hblank, if_neg hnul', if_neg hlong']

end Path

namespace Tree

variable {t t' : Tree} {p q : Path} {l : Location}

theorem kind?_eq_directory_iff :
    t.kind? p = some .directory ↔ ∃ l, t.locate p = .ok l ∧ t.entry? l = some .directory := by
  unfold kind?
  cases t.locate p with
  | error e => simp
  | ok l =>
    cases h : t.entry? l with
    | none => simp [h]
    | some entry => cases entry <;> simp [h, Entry.kind]

theorem KeepsDirectories.refl (t : Tree) : KeepsDirectories t t := ⟨rfl, fun _ h => h⟩

theorem KeepsDirectories.kind? (h : KeepsDirectories t t') (hp : t.kind? p = some .directory) :
    t'.kind? p = some .directory := by
  obtain ⟨l, hlocate, hentry⟩ := kind?_eq_directory_iff.mp hp
  exact kind?_eq_directory_iff.mpr ⟨l, h.locate hlocate, h.directory l hentry⟩

theorem kind?_of_goesThrough (h : p.GoesThrough q) (hp : t.locate p = .ok l) :
    t.kind? q = some .directory := by
  obtain ⟨hcheck, hfollow⟩ := (locate_eq_ok_iff t p l).mp hp
  have hcheck' := h.checkPath hcheck
  obtain ⟨habsolute, -, segment, rest, hsegments⟩ := h
  have hstart : t.start p = t.start q := by rw [start, start, habsolute]
  rw [hsegments, follow_append, hstart] at hfollow
  obtain ⟨m, hm, hrest⟩ := Except.bind_eq_ok_iff.mp hfollow
  rw [follow_cons] at hrest
  obtain ⟨_, hstep, -⟩ := Except.bind_eq_ok_iff.mp hrest
  refine kind?_eq_directory_iff.mpr ⟨m, ?_, step_eq_ok hstep⟩
  exact (locate_eq_ok_iff t q m).mpr ⟨hcheck', hm⟩

/-- Creates a directory, or is content with one that is there. -/
def claim (t : Tree) (p : Path) : Except Fault Unit × Tree :=
  match t.createDirectory p with
  | .ok t' => (.ok (), t')
  | .error e => (if t.kind? p = some .directory then .ok () else .error e, t)

theorem createDirectory_of_directory (h : t.kind? p = some .directory) :
    t.createDirectory p = .error .alreadyExists := by
  obtain ⟨l, hlocate, hentry⟩ := kind?_eq_directory_iff.mp h
  unfold createDirectory
  rw [hlocate, Except.ok_bind, hentry]
  rfl

theorem claim_of_directory (h : t.kind? p = some .directory) : t.claim p = (.ok (), t) := by
  unfold claim
  rw [createDirectory_of_directory h]
  simp only [h, if_true]

theorem kind?_claim (h : (t.claim p).1 = .ok ()) : (t.claim p).2.kind? p = some .directory := by
  unfold claim at h ⊢
  split at h
  next t' hcreate =>
    obtain ⟨l, hlocate, hnone, rfl⟩ := createDirectory_eq_ok hcreate
    have hentry : t.entry? l ≠ some .directory := by simp [hnone]
    exact kind?_eq_directory_iff.mpr ⟨l, (KeepsDirectories.put hentry _).locate hlocate,
      entry?_put_self t _ (ne_nil_of_not_directory hentry)⟩
  next e hcreate =>
    by_cases hkind : t.kind? p = some .directory
    · exact hkind
    · rw [if_neg hkind] at h
      cases h

/-- What cannot be claimed is no directory, and nothing has changed. -/
theorem claim_eq_error_iff {e : Fault} : (t.claim p).1 = .error e ↔
    t.createDirectory p = .error e ∧ t.kind? p ≠ some .directory := by
  unfold claim
  split
  next t' hcreate => simp [hcreate]
  next e' hcreate =>
    rw [hcreate]
    by_cases hkind : t.kind? p = some .directory
    · simp [hkind]
    · simp [hkind]

theorem claim_of_refused {e : Fault} (hcreate : t.createDirectory p = .error e)
    (hkind : t.kind? p ≠ some .directory) : t.claim p = (.error e, t) := by
  unfold claim
  rw [hcreate]
  simp only [if_neg hkind]

theorem bind_run {σ α β : Type} {x : StateM σ α} {s s' : σ} {a : α} (h : x s = (a, s'))
    (f : α → StateM σ β) : (x >>= f) s = f a s' := by
  show f (x s).1 (x s).2 = f a s'
  rw [h]

theorem access_readText (t : Tree) (p : Path) :
    access.readText p t =
      (t.read p >>= fun bytes => (Text.ofUtf8? bytes).elim (.error .notText) .ok, t) := by
  have hread : access.read p t = (t.read p, t) := rfl
  unfold FileSystem.readText
  rw [bind_run hread]
  cases t.read p with
  | error fault => rfl
  | ok bytes =>
    dsimp only
    rw [Except.ok_bind]
    cases Text.ofUtf8? bytes <;> rfl

theorem readText_eq_ok_iff {text : String} :
    (access.readText p t).1 = .ok text ↔ t.read p = .ok (Text.utf8 text) := by
  have htext (bytes : List UInt8) :
      (Text.ofUtf8? bytes).elim (.error Fault.notText) .ok = Except.ok text ↔
        bytes = Text.utf8 text := by
    rw [← Text.ofUtf8?_eq_some_iff]
    cases Text.ofUtf8? bytes <;> simp
  rw [access_readText]
  simp only [Except.bind_eq_ok_iff, htext, exists_eq_right]

theorem state_readText (t : Tree) (p : Path) : (access.readText p t).2 = t := by
  rw [access_readText]

theorem readText_of_read {text : String} (h : t.read p = .ok (Text.utf8 text)) :
    access.readText p t = (.ok text, t) :=
  Prod.ext (readText_eq_ok_iff.mpr h) (state_readText t p)

theorem change_of_ok {f : Tree → Except Fault Tree} (h : f t = .ok t') :
    change f t = (.ok (), t') := by
  rw [change, h]

theorem change_of_error {f : Tree → Except Fault Tree} {e : Fault} (h : f t = .error e) :
    change f t = (.error e, t) := by
  rw [change, h]

theorem access_acceptDirectory (p : Path) (fault : Fault) (t : Tree) :
    access.acceptDirectory p fault t =
      (if t.kind? p = some .directory then .ok () else .error fault, t) := by
  have hkind : access.isDirectory p t = (decide (t.kind? p = some .directory), t) := rfl
  unfold FileSystem.acceptDirectory
  rw [bind_run hkind]
  by_cases h : t.kind? p = some .directory
  · simp only [h, decide_true, if_true]
    rfl
  · simp only [h, decide_false, if_false, Bool.false_eq_true]
    rfl

theorem access_createDirectories (p : Path) (above : List Path) (t : Tree) :
    access.createDirectories (p :: above) t =
      match t.createDirectory p with
      | .error .notFound =>
        match access.createDirectories above t with
        | (.error e, t') => (.error e, t')
        | (.ok (), t') => t'.claim p
      | _ => t.claim p := by
  have hmade {t t' : Tree} (h : t.createDirectory p = .ok t') :
      access.createDirectory p t = (.ok (), t') :=
    change_of_ok (f := (·.createDirectory p)) h
  have hrefused {t : Tree} {e : Fault} (h : t.createDirectory p = .error e) :
      access.createDirectory p t = (.error e, t) :=
    change_of_error (f := (·.createDirectory p)) h
  have hclaim {t : Tree} {e : Fault} (h : t.createDirectory p = .error e) :
      access.acceptDirectory p e t = t.claim p := by
    rw [access_acceptDirectory, claim, h]
  rw [FileSystem.createDirectories]
  cases h : t.createDirectory p with
  | ok t' =>
    rw [bind_run (hmade h), claim, h]
    rfl
  | error e =>
    rw [bind_run (hrefused h)]
    cases e with
    | notFound =>
      cases habove : access.createDirectories above t with
      | mk r t' =>
        refine (bind_run habove _).trans ?_
        cases r with
        | error e => rfl
        | ok u =>
          -- With the directories above there, the first one is tried again.
          cases h' : t'.createDirectory p with
          | ok t'' =>
            refine (bind_run (hmade h') _).trans ?_
            simp only [claim, h']
            rfl
          | error e =>
            refine (bind_run (hrefused h') _).trans ?_
            exact hclaim h'
    | _ => exact hclaim h

section Again

variable {above paths : List Path} {r : Except Fault Unit} {e : Fault}

theorem createDirectories_of_found (h : t.createDirectory p ≠ .error .notFound) :
    access.createDirectories (p :: above) t = t.claim p := by
  rw [access_createDirectories]
  split
  next hnone => exact absurd hnone h
  next => rfl

theorem createDirectories_of_error_above (h : t.createDirectory p = .error .notFound)
    (habove : access.createDirectories above t = (.error e, t')) :
    access.createDirectories (p :: above) t = (.error e, t') := by
  rw [access_createDirectories, h]
  simp only [habove]

theorem createDirectories_of_ok_above (h : t.createDirectory p = .error .notFound)
    (habove : access.createDirectories above t = (.ok (), t')) :
    access.createDirectories (p :: above) t = t'.claim p := by
  rw [access_createDirectories, h]
  simp only [habove]

theorem createDirectories_of_directory (h : t.kind? p = some .directory) :
    access.createDirectories (p :: above) t = (.ok (), t) := by
  have hfound : t.createDirectory p ≠ .error .notFound := by
    rw [createDirectory_of_directory h]
    exact nofun
  rw [createDirectories_of_found hfound, claim_of_directory h]

theorem kind?_createDirectories (h : access.createDirectories (p :: above) t = (.ok (), t')) :
    t'.kind? p = some .directory := by
  have hclaimed {s : Tree} (hs : s.claim p = (.ok (), t')) : t'.kind? p = some .directory := by
    have hkind := kind?_claim (congrArg Prod.fst hs)
    rwa [hs] at hkind
  by_cases hfound : t.createDirectory p = .error .notFound
  · cases habove : access.createDirectories above t with
    | mk r s =>
      cases r with
      | error e =>
        rw [createDirectories_of_error_above hfound habove] at h
        cases congrArg Prod.fst h
      | ok u =>
        rw [createDirectories_of_ok_above hfound habove] at h
        exact hclaimed h
  · rw [createDirectories_of_found hfound] at h
    exact hclaimed h

/-- What cannot be made at first cannot be made when the directories above it are there. -/
theorem createDirectories_of_claim_error (hcreate : t.createDirectory p = .error e)
    (hkind : t.kind? p ≠ some .directory)
    (habove : access.createDirectories above t = (.ok (), t)) :
    access.createDirectories (p :: above) t = (.error e, t) := by
  have hclaim := claim_of_refused hcreate hkind
  by_cases hfound : t.createDirectory p = .error .notFound
  · rw [createDirectories_of_ok_above hfound habove, hclaim]
  · rw [createDirectories_of_found hfound, hclaim]

theorem createDirectories_of_blocked (hthrough : ∀ q ∈ above, p.GoesThrough q)
    (habove : access.createDirectories above t = (.error e, t)) :
    ∃ e', access.createDirectories (p :: above) t = (.error e', t) := by
  by_cases hfound : t.createDirectory p = .error .notFound
  · exact ⟨e, createDirectories_of_error_above hfound habove⟩
  -- If the path led anywhere, the one above would be a directory and could not fail.
  · obtain ⟨e', hlocate⟩ : ∃ e', t.locate p = .error e' := by
      cases hp : t.locate p with
      | error e' => exact ⟨e', rfl⟩
      | ok l =>
        cases above with
        | nil => cases congrArg Prod.fst habove
        | cons q rest =>
          have hkind := kind?_of_goesThrough (hthrough q List.mem_cons_self) hp
          rw [createDirectories_of_directory hkind] at habove
          cases congrArg Prod.fst habove
    have hcreate : t.createDirectory p = .error e' := by
      unfold createDirectory
      rw [hlocate]
      rfl
    have hkind : t.kind? p ≠ some .directory := by
      intro hdirectory
      obtain ⟨l, hl, -⟩ := kind?_eq_directory_iff.mp hdirectory
      cases hlocate.symm.trans hl
    exact ⟨e', (createDirectories_of_found hfound).trans (claim_of_refused hcreate hkind)⟩

/-- However the first run ends, a second one ends so too and changes nothing. -/
theorem createDirectories_again (hpaths : paths.Pairwise Path.GoesThrough)
    (h : access.createDirectories paths t = (r, t')) :
    ∃ r', access.createDirectories paths t' = (r', t') ∧ (r' = .ok () ↔ r = .ok ()) := by
  -- On the paths, for any tree: the directories above are created in another one than the first.
  induction paths generalizing t t' r with
  | nil =>
    obtain ⟨rfl, rfl⟩ := Prod.mk.inj h
    exact ⟨.ok (), rfl, Iff.rfl⟩
  | cons p above ih =>
    obtain ⟨hthrough, habovePaths⟩ := List.pairwise_cons.mp hpaths
    cases r with
    | ok u =>
      exact ⟨.ok (), createDirectories_of_directory (kind?_createDirectories h), Iff.rfl⟩
    | error e =>
      by_cases hfound : t.createDirectory p = .error .notFound
      · cases habove : access.createDirectories above t with
        | mk s t₁ =>
          obtain ⟨s', hagain, hs'⟩ := ih habovePaths habove
          cases s with
          | error e₁ =>
            rw [createDirectories_of_error_above hfound habove] at h
            obtain ⟨-, rfl⟩ := Prod.mk.inj h
            cases s' with
            | ok u => cases hs'.mp rfl
            | error e₂ =>
              obtain ⟨e', hblocked⟩ := createDirectories_of_blocked hthrough hagain
              exact ⟨_, hblocked, by simp⟩
          | ok u =>
            rw [createDirectories_of_ok_above hfound habove] at h
            obtain ⟨hcreate, hkind⟩ := claim_eq_error_iff.mp (congrArg Prod.fst h)
            rw [claim_of_refused hcreate hkind] at h
            obtain ⟨-, rfl⟩ := Prod.mk.inj h
            obtain rfl := hs'.mpr rfl
            exact ⟨_, createDirectories_of_claim_error hcreate hkind hagain, by simp⟩
      · rw [createDirectories_of_found hfound] at h
        obtain ⟨hcreate, hkind⟩ := claim_eq_error_iff.mp (congrArg Prod.fst h)
        rw [claim_of_refused hcreate hkind] at h
        obtain ⟨-, rfl⟩ := Prod.mk.inj h
        refine ⟨_, ?_, Iff.rfl⟩
        rw [createDirectories_of_found hfound, claim_of_refused hcreate hkind]

end Again

end Tree

end Files

end CatalogRspec

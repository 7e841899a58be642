import WidgetMarkup.Proofs.Disk.Writing

/-!
# Making folders

Making sure of a folder that is there changes nothing. A folder that has been made is there, and so
is everything that was there before. All that is new are folders on the way to it.
-/
namespace WidgetMarkup.Disk

variable {d d' : Disk} {p : Path} {l : Place}

theorem isFolder_eq_true_iff :
    d.isFolder p = .ok true ↔ ∃ l, d.locate p = .ok l ∧ d.isFolderAt l = true := by
  unfold isFolder leadsTo
  cases hl : d.locate p with
  | error e => cases e <;> simp
  | ok l => simp

theorem entry?_of_isFolderAt (h : d.isFolderAt l = true) : d.entry? l = some .folder := by
  unfold isFolderAt at h
  split at h
  · assumption
  · cases h

theorem Extends.isFolder (h : Extends d d') (hp : d.isFolder p = .ok true) :
    d'.isFolder p = .ok true := by
  obtain ⟨l, hl, hfolder⟩ := isFolder_eq_true_iff.1 hp
  exact isFolder_eq_true_iff.2 ⟨l, h.locate hl, h.isFolderAt hfolder⟩

theorem target_of_locate (h : d.locate p = .ok l) : d.target p = .ok l := by
  unfold locate at h
  unfold target
  cases hcheck : checkPath p with
  | error e => rw [hcheck] at h; cases h
  | ok u =>
    rw [hcheck] at h
    simp only [bind, Except.bind] at h ⊢
    cases hlast : p.parts.getLast? with
    | none =>
      rw [List.getLast?_eq_none_iff.1 hlast] at h
      exact h
    | some last =>
      obtain ⟨before, hparts⟩ := List.getLast?_eq_some_iff.1 hlast
      rw [hparts, follow_append] at h
      rw [hparts, List.dropLast_concat]
      cases hfollow : d.follow (d.start p) before with
      | error e => rw [hfollow] at h; cases h
      | ok m =>
        rw [hfollow] at h
        obtain ⟨m', henter, hrest⟩ := follow_cons_ok h
        cases hrest
        exact henter

theorem Extends.target (h : Extends d d') (hl : d.target p = .ok l) : d'.target p = .ok l := by
  have hstart : d'.start p = d.start p := by simp only [Disk.start, h.home_eq]
  unfold Disk.target at hl ⊢
  rw [hstart]
  cases hcheck : checkPath p with
  | error e => rw [hcheck] at hl; cases hl
  | ok u =>
    rw [hcheck] at hl
    simp only [bind, Except.bind] at hl ⊢
    split at hl
    · exact hl
    · rename_i last hlast
      cases hfollow : d.follow (d.start p) p.parts.dropLast with
      | error e => rw [hfollow] at hl; cases hl
      | ok m =>
        rw [hfollow] at hl
        rw [h.follow hfollow]
        exact h.enter hl

/-- A path leads to a place in a folder that is no folder itself. -/
def CanWrite (d : Disk) (p : Path) : Prop :=
  ∃ l, d.target p = .ok l ∧ d.isFolderAt l = false

theorem Writes.canWrite {files : List (Path × ByteArray)} (h : Writes d files d') :
    ∀ f ∈ files, d.CanWrite f.1 := by
  induction h with
  | done => simp
  | @write d d₁ d' p content files hwrite _ ih =>
    obtain ⟨l, htarget, hfolder, rfl⟩ := write_eq_ok_iff.1 hwrite
    refine List.forall_mem_cons.2 ⟨⟨l, htarget, hfolder⟩, fun f hf => ?_⟩
    obtain ⟨m, hm, hmfolder⟩ := ih f hf
    have hsame := (sameFolders_put hfolder content).symm
    exact ⟨m, hsame.target hm, (hsame.folder_eq m).trans hmfolder⟩

theorem SameFolders.canWrite (h : SameFolders d d') (hp : d.CanWrite p) : d'.CanWrite p := by
  obtain ⟨l, htarget, hfolder⟩ := hp
  exact ⟨l, h.target htarget, (h.folder_eq l).trans hfolder⟩

theorem enter_ne_nullCharacter {name : String} : d.enter l name ≠ .error .nullCharacter := by
  unfold enter
  split
  · simp
  · split
    · simp
    · split <;> simp

theorem follow_ne_nullCharacter {names : List String} :
    d.follow l names ≠ .error .nullCharacter := by
  induction names generalizing l with
  | nil => simp [follow]
  | cons name names ih =>
    simp only [follow, step]
    cases henter : d.enter l name with
    | error e =>
      rintro h
      exact enter_ne_nullCharacter (henter.trans h)
    | ok m =>
      simp only [bind, Except.bind]
      split
      · rename_i e hstep
        split at hstep
        · cases hstep
        · cases hstep
          simp
      · exact ih

/-- Only a null character in a path keeps it from being a path. -/
theorem write_eq_nullCharacter_iff {content : ByteArray} :
    d.write p content = .error .nullCharacter ↔ p.text.toList.contains '\x00' = true := by
  have hcheck : checkPath p = .error .nullCharacter ↔ p.text.toList.contains '\x00' = true := by
    unfold checkPath
    split
    · simp_all
    · split <;> simp_all
  rw [← hcheck]
  unfold write target
  cases hpath : checkPath p with
  | error e => simp [bind, Except.bind]
  | ok u =>
    -- once the path has been checked, no error is about its characters
    have hplace : ∀ r : Except DiskError Place, r ≠ .error .nullCharacter →
        (r.bind fun l => if d.isFolderAt l then .error .isFolder else
          .ok (d.put l (.file content))) ≠ .error .nullCharacter := by
      intro r hr
      cases r with
      | error e => simpa [Except.bind] using hr
      | ok l =>
        simp only [Except.bind]
        split <;> simp
    simp only [reduceCtorEq, iff_false]
    refine hplace _ ?_
    simp only [bind, Except.bind]
    split
    · simp
    · cases hfollow : d.follow (d.start p) p.parts.dropLast with
      | error e =>
        intro h
        exact follow_ne_nullCharacter (hfollow.trans h)
      | ok m => exact enter_ne_nullCharacter

theorem ensureFolder_of_isFolder (h : d.isFolder p = .ok true) : d.ensureFolder p = .ok d := by
  obtain ⟨l, hl, hfolder⟩ := isFolder_eq_true_iff.1 h
  have htaken : d.makeFolder p = .error .taken := by
    unfold makeFolder
    rw [target_of_locate hl]
    simp only [bind, Except.bind, entry?_of_isFolderAt hfolder]
  unfold ensureFolder
  rw [htaken]
  simp only [bind, Except.bind, h, if_true]

theorem ensureFolders_of_isFolder (h : d.isFolder p = .ok true) : d.ensureFolders p = .ok d := by
  -- folders are made along the reversed names; already the innermost one is there
  have hensure : ∀ names, p.parts.reverse = names → d.ensureNested p.root names = .ok d := by
    intro names hnames
    have hpath : (⟨p.root, names.reverse⟩ : Path) = p := by
      rw [← hnames, List.reverse_reverse]
    cases names with
    | nil =>
      rw [ensureNested, ← List.reverse_nil, hpath]
      exact ensureFolder_of_isFolder h
    | cons last outer =>
      simp only [ensureNested, hpath, ensureFolder_of_isFolder h]
  exact hensure _ rfl

/-- A place on the way along a path. -/
def OnTheWay (d : Disk) (p : Path) (l : Place) : Prop :=
  ∃ names, names <+: p.parts ∧ d.locate ⟨p.root, names⟩ = .ok l

/-- Nothing is new but folders on the way along a path. -/
structure MakesFolders (p : Path) (d d' : Disk) : Prop where
  home_eq : d'.home = d.home
  entry_cases : ∀ l, d'.entry? l = d.entry? l ∨
    (d.entry? l = none ∧ d'.entry? l = some .folder ∧ d'.OnTheWay p l)

theorem MakesFolders.refl (p : Path) (d : Disk) : MakesFolders p d d :=
  ⟨rfl, fun _ => Or.inl rfl⟩

theorem MakesFolders.extends (h : MakesFolders p d d') : Extends d d' := by
  refine ⟨h.home_eq, fun l e hl => ?_⟩
  rcases h.entry_cases l with hsame | ⟨hfree, -, -⟩
  · rw [hsame, hl]
  · rw [hfree] at hl
    cases hl

theorem MakesFolders.trans {d₁ d₂ d₃ : Disk} (h₁ : MakesFolders p d₁ d₂)
    (h₂ : MakesFolders p d₂ d₃) : MakesFolders p d₁ d₃ := by
  refine ⟨h₂.home_eq.trans h₁.home_eq, fun l => ?_⟩
  rcases h₂.entry_cases l with hsame₂ | ⟨hfree₂, hfolder₂, hway₂⟩
  · rcases h₁.entry_cases l with hsame₁ | ⟨hfree₁, hfolder₁, names, hnames, hl⟩
    · exact Or.inl (hsame₂.trans hsame₁)
    · -- the way to a folder that was made first is still there
      exact Or.inr ⟨hfree₁, hsame₂.trans hfolder₁, names, hnames, h₂.extends.locate hl⟩
  · rcases h₁.entry_cases l with hsame₁ | ⟨-, hfolder₁, -⟩
    · exact Or.inr ⟨hsame₁.symm.trans hfree₂, hfolder₂, hway₂⟩
    · rw [hfree₂] at hfolder₁
      cases hfolder₁

/-- Files are neither made nor changed. -/
theorem MakesFolders.file_iff (h : MakesFolders p d d') (l : Place) (content : ByteArray) :
    d'.entry? l = some (.file content) ↔ d.entry? l = some (.file content) := by
  rcases h.entry_cases l with hsame | ⟨hfree, hfolder, -⟩
  · rw [hsame]
  · simp [hfree, hfolder]

theorem locate_of_makeFolder (h : d.makeFolder p = .ok d') :
    ∃ l, d.entry? l = none ∧ d.put l .folder = d' ∧ d'.entry? l = some .folder ∧
      d'.locate p = .ok l := by
  obtain ⟨l, htarget, hfree, rfl⟩ := makeFolder_eq_ok_iff.1 h
  have hne : l ≠ [] := by
    rintro rfl
    cases hfree
  have hfolder := entry?_put_self (d := d) hne .folder
  exact ⟨l, hfree, rfl, hfolder, locate_of_target ((extends_put hfree _).target htarget) hfolder⟩

theorem isFolder_of_makeFolder (h : d.makeFolder p = .ok d') : d'.isFolder p = .ok true := by
  obtain ⟨l, -, -, hfolder, hl⟩ := locate_of_makeFolder h
  refine isFolder_eq_true_iff.2 ⟨l, hl, ?_⟩
  simp only [isFolderAt, hfolder]

section Making

variable {names : List String} (hnames : names <+: p.parts)

include hnames

theorem makesFolders_makeFolder (h : d.makeFolder ⟨p.root, names⟩ = .ok d') :
    MakesFolders p d d' := by
  obtain ⟨l, hfree, rfl, hfolder, hl⟩ := locate_of_makeFolder h
  refine ⟨rfl, fun m => ?_⟩
  by_cases hm : m = l
  · subst hm
    exact Or.inr ⟨hfree, hfolder, names, hnames, hl⟩
  · exact Or.inl (entry?_put_of_ne hm _)

theorem makesFolders_ensureFolder (h : d.ensureFolder ⟨p.root, names⟩ = .ok d') :
    MakesFolders p d d' := by
  unfold ensureFolder at h
  split at h
  · rename_i hmake
    cases h
    exact makesFolders_makeFolder hnames hmake
  · cases h
  · cases h
  · cases hfolder : d.isFolder ⟨p.root, names⟩ with
    | error e => rw [hfolder] at h; cases h
    | ok b =>
      rw [hfolder] at h
      simp only [bind, Except.bind] at h
      split at h
      · cases h
        exact .refl p d
      · cases h

end Making

theorem makesFolders_ensureNested {names : List String} (hnames : names.reverse <+: p.parts)
    (h : d.ensureNested p.root names = .ok d') : MakesFolders p d d' := by
  induction names generalizing d' with
  | nil => exact makesFolders_ensureFolder hnames h
  | cons last outer ih =>
    have houter : outer.reverse <+: p.parts := by
      rw [List.reverse_cons] at hnames
      exact (List.prefix_append _ _).trans hnames
    simp only [ensureNested] at h
    split at h
    · cases hensure : d.ensureNested p.root outer with
      | error e => rw [hensure] at h; cases h
      | ok d₁ =>
        rw [hensure] at h
        exact (ih houter hensure).trans (makesFolders_ensureFolder hnames h)
    · exact makesFolders_ensureFolder hnames h

theorem makesFolders_ensureFolders {names : List String} (hnames : names <+: p.parts)
    (h : d.ensureFolders ⟨p.root, names⟩ = .ok d') : MakesFolders p d d' := by
  rw [← List.reverse_reverse names] at hnames
  exact makesFolders_ensureNested hnames h

theorem makesFolders_makeFolders (h : d.makeFolders p = .ok d') : MakesFolders p d d' := by
  unfold makeFolders at h
  split at h
  · cases hensure : d.ensureFolders p.parent with
    | error e => rw [hensure] at h; cases h
    | ok d₁ =>
      rw [hensure] at h
      exact (makesFolders_ensureFolders (List.dropLast_prefix _) hensure).trans
        (makesFolders_makeFolder List.prefix_rfl h)
  · exact makesFolders_makeFolder List.prefix_rfl h

theorem isFolder_of_makeFolders (h : d.makeFolders p = .ok d') : d'.isFolder p = .ok true := by
  unfold makeFolders at h
  split at h
  · cases hensure : d.ensureFolders p.parent with
    | error e => rw [hensure] at h; cases h
    | ok d₁ =>
      rw [hensure] at h
      exact isFolder_of_makeFolder h
  · exact isFolder_of_makeFolder h

end WidgetMarkup.Disk

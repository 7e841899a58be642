import WidgetMarkup.Disk.Basic

/-!
# Writing files

A file that is written stands at a place that was no folder, so folders stay as they are and paths go
on leading to the same places. After several writes, a place holds what was written there last.

New folders are made at free places only. All that was there before stays there, and every path that
led somewhere leads to the same place.
-/
namespace WidgetMarkup.Disk

theorem lookup_filter_ne {entries : List (Place × DiskEntry)} {l m : Place} (h : m ≠ l) :
    (entries.filter (·.1 ≠ l)).lookup m = entries.lookup m := by
  induction entries with
  | nil => rfl
  | cons e entries ih =>
    obtain ⟨k, e⟩ := e
    by_cases hk : k = l
    · subst hk
      have hmk : (m == k) = false := beq_eq_false_iff_ne.2 h
      rw [List.filter_cons_of_neg (by simp), ih, List.lookup_cons, hmk]
    · rw [List.filter_cons_of_pos (by simpa using hk), List.lookup_cons, List.lookup_cons, ih]

theorem entry?_put_self {d : Disk} {l : Place} (hl : l ≠ []) (e : DiskEntry) :
    entry? (d.put l e) l = some e := by
  cases l with
  | nil => exact absurd rfl hl
  | cons a l => simp [ entry?, put]

theorem entry?_put_of_ne {d : Disk} {l m : Place} (h : m ≠ l) (e : DiskEntry) :
    entry? (d.put l e) m = d.entry? m := by
  cases m with
  | nil => rfl
  | cons a m =>
    have hml : (a :: m == l) = false := beq_eq_false_iff_ne.2 h
    simp only [ entry?, put]
    rw [List.lookup_cons, hml]
    exact lookup_filter_ne h

theorem ne_nil_of_not_folder {d : Disk} {l : Place} (h : d.isFolderAt l = false) : l ≠ [] := by
  rintro rfl
  cases h

/-- Everything that stands on a disk stands on another one too. -/
structure Extends (d d' : Disk) : Prop where
  home_eq : d'.home = d.home
  entry_eq : ∀ l e, d.entry? l = some e → d'.entry? l = some e

theorem Extends.refl (d : Disk) : Extends d d :=
  ⟨rfl, fun _ _ h => h⟩

theorem Extends.trans {d₁ d₂ d₃ : Disk} (h₁ : Extends d₁ d₂) (h₂ : Extends d₂ d₃) :
    Extends d₁ d₃ :=
  ⟨h₂.home_eq.trans h₁.home_eq, fun l e h => h₂.entry_eq l e (h₁.entry_eq l e h)⟩

theorem Extends.isFolderAt {d d' : Disk} (h : Extends d d') {l : Place}
    (hl : d.isFolderAt l = true) : d'.isFolderAt l = true := by
  simp only [Disk.isFolderAt] at hl ⊢
  split at hl
  · rename_i heq
    rw [h.entry_eq l _ heq]
  · cases hl

theorem Extends.enter {d d' : Disk} (h : Extends d d') {l m : Place} {name : String}
    (hm : d.enter l name = .ok m) : d'.enter l name = .ok m := by
  unfold Disk.enter at hm ⊢
  split at hm
  · cases hm
  · rename_i hfolder
    have hl : d.isFolderAt l = true := by simpa using hfolder
    rw [h.isFolderAt hl]
    exact hm

theorem Extends.follow {d d' : Disk} (h : Extends d d') {names : List String} {l m : Place}
    (hm : d.follow l names = .ok m) : d'.follow l names = .ok m := by
  induction names generalizing l with
  | nil => exact hm
  | cons name names ih =>
    simp only [Disk.follow, Disk.step] at hm ⊢
    cases henter : d.enter l name with
    | error e => rw [henter] at hm; cases hm
    | ok l' =>
      rw [henter] at hm
      rw [h.enter henter]
      cases hentry : d.entry? l' with
      | none =>
        simp only [bind, Except.bind, hentry] at hm
        cases hm
      | some e =>
        simp only [bind, Except.bind, hentry, h.entry_eq l' e hentry] at hm ⊢
        exact ih hm

theorem Extends.locate {d d' : Disk} (h : Extends d d') {p : Path} {l : Place}
    (hl : d.locate p = .ok l) : d'.locate p = .ok l := by
  unfold Disk.locate at hl ⊢
  cases hcheck : checkPath p with
  | error e => rw [hcheck] at hl; cases hl
  | ok u =>
    rw [hcheck] at hl
    have hstart : d'.start p = d.start p := by simp only [Disk.start, h.home_eq]
    rw [hstart]
    exact h.follow hl

theorem Extends.read_eq {d d' : Disk} (h : Extends d d') {p : Path}
    (hp : d.isFile p = .ok true) : d'.read p = d.read p := by
  unfold Disk.isFile leadsTo at hp
  cases hl : d.locate p with
  | error e =>
    rw [hl] at hp
    cases e <;> cases hp
  | ok l =>
    rw [hl] at hp
    injection hp with hfile
    simp only [isFileAt] at hfile
    split at hfile
    · rename_i content hentry
      unfold Disk.read
      rw [hl, h.locate hl]
      simp only [bind, Except.bind, hentry, h.entry_eq l _ hentry]
    · cases hfile

theorem extends_put {d : Disk} {l : Place} (h : d.entry? l = none) (e : DiskEntry) :
    Extends d (d.put l e) := by
  refine ⟨rfl, fun m e' hm => ?_⟩
  have hne : m ≠ l := by
    rintro rfl
    rw [h] at hm
    cases hm
  rw [entry?_put_of_ne hne]
  exact hm

theorem makeFolder_eq_ok_iff {d d' : Disk} {p : Path} :
    d.makeFolder p = .ok d' ↔
      ∃ l, d.target p = .ok l ∧ d.entry? l = none ∧ d.put l .folder = d' := by
  unfold makeFolder
  cases d.target p with
  | error e => simp [bind, Except.bind]
  | ok l => cases hentry : d.entry? l <;> simp [bind, Except.bind, hentry]

theorem follow_append (d : Disk) (l : Place) (names names' : List String) :
    d.follow l (names ++ names') = (d.follow l names).bind fun m => d.follow m names' := by
  induction names generalizing l with
  | nil => rfl
  | cons name names ih =>
    simp only [List.cons_append, follow]
    cases d.step l name with
    | error e => rfl
    | ok m => exact ih m

/-- A path leads to the place that writing would use if something stands there. -/
theorem locate_of_target {d : Disk} {p : Path} {l : Place} {e : DiskEntry}
    (hl : d.target p = .ok l) (hentry : d.entry? l = some e) : d.locate p = .ok l := by
  unfold target at hl
  unfold locate
  cases hcheck : checkPath p with
  | error e => rw [hcheck] at hl; cases hl
  | ok u =>
    rw [hcheck] at hl
    simp only [bind, Except.bind] at hl ⊢
    split at hl
    · rename_i hnone
      rw [List.getLast?_eq_none_iff.1 hnone]
      exact hl
    · rename_i last hlast
      obtain ⟨before, hparts⟩ := List.getLast?_eq_some_iff.1 hlast
      rw [hparts, List.dropLast_concat] at hl
      rw [hparts, follow_append]
      cases hfollow : d.follow (d.start p) before with
      | error e => rw [hfollow] at hl; cases hl
      | ok m =>
        rw [hfollow] at hl
        simp only [Except.bind, follow, step, bind] at hl ⊢
        rw [hl]
        simp only [hentry, Option.isSome_some, if_true]

theorem read_of_target {d : Disk} {p : Path} {l : Place} {content : ByteArray}
    (hl : d.target p = .ok l) (hentry : d.entry? l = some (.file content)) :
    d.read p = .ok content := by
  unfold read
  rw [locate_of_target hl hentry]
  simp only [bind, Except.bind, hentry]

/-- Two disks have the same folders. -/
structure SameFolders (d d' : Disk) : Prop where
  home_eq : d'.home = d.home
  folder_eq : ∀ l, d'.isFolderAt l = d.isFolderAt l

theorem SameFolders.refl (d : Disk) : SameFolders d d :=
  ⟨rfl, fun _ => rfl⟩

theorem SameFolders.trans {d₁ d₂ d₃ : Disk} (h₁ : SameFolders d₁ d₂) (h₂ : SameFolders d₂ d₃) :
    SameFolders d₁ d₃ :=
  ⟨h₂.home_eq.trans h₁.home_eq, fun l => (h₂.folder_eq l).trans (h₁.folder_eq l)⟩

theorem SameFolders.symm {d d' : Disk} (h : SameFolders d d') : SameFolders d' d :=
  ⟨h.home_eq.symm, fun l => (h.folder_eq l).symm⟩

theorem SameFolders.enter {d d' : Disk} (h : SameFolders d d') (l : Place) (name : String) :
    d'.enter l name = d.enter l name := by
  simp only [Disk.enter, h.folder_eq]

theorem isFolderAt_of_enter {d : Disk} {l m : Place} {name : String}
    (h : d.enter l name = .ok m) : d.isFolderAt l = true := by
  unfold enter at h
  split at h
  · cases h
  · rename_i hfolder
    simpa using hfolder

theorem isSome_entry?_of_folder {d : Disk} {l : Place} (h : d.isFolderAt l = true) :
    (d.entry? l).isSome = true := by
  unfold isFolderAt at h
  split at h
  · rename_i heq
    rw [heq]
    rfl
  · cases h

theorem follow_cons_ok {d : Disk} {l m : Place} {name : String} {names : List String}
    (h : d.follow l (name :: names) = .ok m) :
    ∃ l', d.enter l name = .ok l' ∧ d.follow l' names = .ok m := by
  simp only [follow, step] at h
  cases henter : d.enter l name with
  | error e => rw [henter] at h; cases h
  | ok l' =>
    rw [henter] at h
    simp only [bind, Except.bind] at h
    split at h
    · cases h
    · rename_i hstep
      split at hstep
      · cases hstep
        exact ⟨l', rfl, h⟩
      · cases hstep

theorem isFolderAt_of_follow {d : Disk} {l m : Place} {names : List String}
    (h : d.follow l names = .ok m) (hm : d.isFolderAt m = true) : d.isFolderAt l = true := by
  cases names with
  | nil =>
    cases h
    exact hm
  | cons name names =>
    obtain ⟨l', henter, -⟩ := follow_cons_ok h
    exact isFolderAt_of_enter henter

/-- A path to a folder goes through folders only. -/
theorem SameFolders.follow {d d' : Disk} (h : SameFolders d d') {names : List String}
    {l m : Place} (hfollow : d.follow l names = .ok m) (hm : d.isFolderAt m = true) :
    d'.follow l names = .ok m := by
  induction names generalizing l with
  | nil => exact hfollow
  | cons name names ih =>
    obtain ⟨l', henter, hrest⟩ := follow_cons_ok hfollow
    have hl' : d'.isFolderAt l' = true := by
      rw [h.folder_eq]
      exact isFolderAt_of_follow hrest hm
    simp only [Disk.follow, Disk.step, h.enter, henter, bind, Except.bind,
      isSome_entry?_of_folder hl', if_true]
    exact ih hrest

theorem SameFolders.target {d d' : Disk} (h : SameFolders d d') {p : Path} {l : Place}
    (hl : d.target p = .ok l) : d'.target p = .ok l := by
  have hstart : d'.start p = d.start p := by simp only [Disk.start, h.home_eq]
  unfold Disk.target at hl ⊢
  rw [hstart]
  cases hcheck : checkPath p with
  | error e => rw [hcheck] at hl; cases hl
  | ok u =>
    rw [hcheck] at hl
    simp only [bind, Except.bind] at hl ⊢
    split at hl
    · exact hl
    · rename_i last hlast
      cases hfollow : d.follow (d.start p) p.parts.dropLast with
      | error e => rw [hfollow] at hl; cases hl
      | ok m =>
        rw [hfollow] at hl
        rw [h.follow hfollow (isFolderAt_of_enter hl)]
        simp only [h.enter]
        exact hl

theorem sameFolders_put {d : Disk} {l : Place} (h : d.isFolderAt l = false)
    (content : ByteArray) : SameFolders d (d.put l (.file content)) := by
  refine ⟨rfl, fun m => ?_⟩
  by_cases hm : m = l
  · subst hm
    rw [h]
    simp only [isFolderAt, entry?_put_self (ne_nil_of_not_folder h)]
  · simp only [isFolderAt, entry?_put_of_ne hm]

theorem write_eq_ok_iff {d d' : Disk} {p : Path} {content : ByteArray} :
    d.write p content = .ok d' ↔
      ∃ l, d.target p = .ok l ∧ d.isFolderAt l = false ∧ d.put l (.file content) = d' := by
  unfold write
  cases d.target p with
  | error e => simp [bind, Except.bind]
  | ok l => cases hfolder : d.isFolderAt l <;> simp [bind, Except.bind, hfolder]

/-- Files are written one after the other. -/
inductive Writes : Disk → List (Path × ByteArray) → Disk → Prop
  | done {d : Disk} : Writes d [] d
  | write {d d₁ d' : Disk} {p : Path} {content : ByteArray} {files : List (Path × ByteArray)} :
      d.write p content = .ok d₁ → Writes d₁ files d' → Writes d ((p, content) :: files) d'

theorem Writes.sameFolders {d d' : Disk} {files : List (Path × ByteArray)}
    (h : Writes d files d') : SameFolders d d' := by
  induction h with
  | done => exact SameFolders.refl _
  | write hwrite _ ih =>
    obtain ⟨l, -, hfolder, rfl⟩ := write_eq_ok_iff.1 hwrite
    exact (sameFolders_put hfolder _).trans ih

theorem Writes.exists_target {d d' : Disk} {files : List (Path × ByteArray)}
    (h : Writes d files d') : ∀ f ∈ files, ∃ l, d.target f.1 = .ok l := by
  induction h with
  | done => simp
  | @write d d₁ _ p content files hwrite _ ih =>
    obtain ⟨l, htarget, hfolder, rfl⟩ := write_eq_ok_iff.1 hwrite
    intro f hf
    rcases List.mem_cons.1 hf with rfl | hf
    · exact ⟨l, htarget⟩
    · obtain ⟨m, hm⟩ := ih f hf
      exact ⟨m, (sameFolders_put hfolder content).symm.target hm⟩

theorem Writes.target_eq {d d' : Disk} {files : List (Path × ByteArray)}
    (h : Writes d files d') {f : Path × ByteArray} (hf : f ∈ files) :
    d'.target f.1 = d.target f.1 := by
  obtain ⟨l, hl⟩ := h.exists_target f hf
  rw [hl]
  exact h.sameFolders.target hl

/-- Files can be written to places that are no folders. -/
theorem exists_writes {d : Disk} {files : List (Path × ByteArray)}
    (h : ∀ f ∈ files, ∃ l, d.target f.1 = .ok l ∧ d.isFolderAt l = false) :
    ∃ d', Writes d files d' := by
  induction files generalizing d with
  | nil => exact ⟨d, .done⟩
  | cons f files ih =>
    obtain ⟨l, htarget, hfolder⟩ := h f List.mem_cons_self
    have hsame := sameFolders_put hfolder f.2
    obtain ⟨d', hwrites⟩ := ih (d := d.put l (.file f.2)) fun g hg => by
      obtain ⟨m, hm, hmfolder⟩ := h g (List.mem_cons_of_mem _ hg)
      exact ⟨m, hsame.target hm, (hsame.folder_eq m).trans hmfolder⟩
    exact ⟨d', .write (write_eq_ok_iff.2 ⟨l, htarget, hfolder, rfl⟩) hwrites⟩

/-- A place holds what it held before, or what one of the files that lead there has. -/
theorem Writes.entry {d d' : Disk} {files : List (Path × ByteArray)} (h : Writes d files d')
    (l : Place) :
    ((∀ f ∈ files, d.target f.1 ≠ .ok l) ∧ d'.entry? l = d.entry? l) ∨
      ∃ f ∈ files, d.target f.1 = .ok l ∧ d'.entry? l = some (.file f.2) := by
  induction h with
  | done => exact Or.inl ⟨by simp, rfl⟩
  | @write d d₁ d' p content files hwrite _ ih =>
    obtain ⟨m, htarget, hfolder, rfl⟩ := write_eq_ok_iff.1 hwrite
    have hsame := sameFolders_put hfolder content
    rcases ih with ⟨hnone, hentry⟩ | ⟨f, hf, hl, hentry⟩
    · by_cases hlm : l = m
      · subst hlm
        refine Or.inr ⟨_, List.mem_cons_self, htarget, ?_⟩
        rw [hentry, entry?_put_self (ne_nil_of_not_folder hfolder)]
      · refine Or.inl ⟨?_, by rw [hentry, entry?_put_of_ne hlm]⟩
        intro f hf hl
        rcases List.mem_cons.1 hf with rfl | hf
        · rw [htarget] at hl
          cases hl
          exact hlm rfl
        · exact hnone f hf (hsame.target hl)
    · exact Or.inr ⟨f, List.mem_cons_of_mem _ hf, hsame.symm.target hl, hentry⟩

theorem Writes.read {d d' : Disk} {files : List (Path × ByteArray)} (h : Writes d files d')
    {f : Path × ByteArray} (hf : f ∈ files) :
    ∃ g ∈ files, d.target g.1 = d.target f.1 ∧ d'.read f.1 = .ok g.2 := by
  obtain ⟨l, hl⟩ := h.exists_target f hf
  rcases h.entry l with ⟨hnone, -⟩ | ⟨g, hg, hgl, hentry⟩
  · exact absurd hl (hnone f hf)
  · exact ⟨g, hg, hgl.trans hl.symm, read_of_target (h.sameFolders.target hl) hentry⟩

theorem Writes.read_eq_of_target_eq {d d' : Disk} {files : List (Path × ByteArray)}
    (h : Writes d files d') {f g : Path × ByteArray} (hf : f ∈ files)
    (heq : d.target f.1 = d.target g.1) : d'.read f.1 = d'.read g.1 := by
  obtain ⟨l, hl⟩ := h.exists_target f hf
  rcases h.entry l with ⟨hnone, -⟩ | ⟨k, -, -, hentry⟩
  · exact absurd hl (hnone f hf)
  · rw [read_of_target (h.sameFolders.target hl) hentry,
      read_of_target (h.sameFolders.target (heq.symm.trans hl)) hentry]

/-- Every file keeps what was written to it if and only if no two files with different contents lead
to one place. -/
theorem Writes.keeps_iff {d d' : Disk} {files : List (Path × ByteArray)}
    (h : Writes d files d') :
    (∀ f ∈ files, d'.read f.1 = .ok f.2) ↔
      ∀ f ∈ files, ∀ g ∈ files, d'.target f.1 = d'.target g.1 → f.2 = g.2 := by
  constructor
  · intro hkeeps f hf g hg heq
    rw [h.target_eq hf, h.target_eq hg] at heq
    have hread := h.read_eq_of_target_eq hf heq
    rw [hkeeps f hf, hkeeps g hg] at hread
    injection hread
  · intro hsame f hf
    obtain ⟨g, hg, heq, hread⟩ := h.read hf
    rw [← h.target_eq hg, ← h.target_eq hf] at heq
    rw [hread, hsame g hg f hf heq]

end WidgetMarkup.Disk

import ChainRollback.Proofs.FileTree.Frame

/-! # Making directories

Making the directories of a path adds directories where nothing was and leaves everything else. Once
the path leads to a directory there is nothing left to make, whatever happens to files meanwhile.
-/
namespace ChainRollback.FileTree

variable {t t' t'' : FileTree} {l place : Location} {segments : List String} {p : String}

/-- Nothing has changed but that there are directories where nothing was. -/
structure AddsDirectories (t t' : FileTree) : Prop where
  cwd : t'.cwd = t.cwd
  find? : ∀ l, t'.find? l = t.find? l ∨ t.find? l = none ∧ t'.find? l = some .directory

namespace AddsDirectories

theorem refl (t : FileTree) : AddsDirectories t t := ⟨rfl, fun _ => .inl rfl⟩

theorem trans (h : AddsDirectories t t') (h' : AddsDirectories t' t'') :
    AddsDirectories t t'' := by
  refine ⟨h'.cwd.trans h.cwd, fun l => ?_⟩
  rcases h'.find? l with heq' | ⟨hnone', hdir'⟩
  · rw [heq']
    exact h.find? l
  · rcases h.find? l with heq | ⟨-, hdir⟩
    · exact .inr ⟨heq ▸ hnone', hdir'⟩
    · rw [hdir] at hnone'
      cases hnone'

theorem set (h : t.find? l = none) : AddsDirectories t (t.set l .directory) := by
  refine ⟨rfl, fun l' => ?_⟩
  by_cases he : l' = l
  · rw [he]
    exact .inr ⟨h, find?_set_self t l .directory⟩
  · exact .inl (find?_set_of_ne t .directory he)

theorem find?_of_some (h : AddsDirectories t t') {n : Node} (hn : t.find? l = some n) :
    t'.find? l = some n := by
  rcases h.find? l with heq | ⟨hnone, -⟩
  · exact heq.trans hn
  · rw [hn] at hnone
    cases hnone

theorem walk_eq_ok (h : AddsDirectories t t') (hw : t.walk l segments = .ok place) :
    t'.walk l segments = .ok place := by
  induction segments generalizing l with
  | nil => exact hw
  | cons segment rest ih =>
    obtain ⟨hdir, hsize, hrest⟩ := walk_cons.mp hw
    exact walk_cons.mpr ⟨h.find?_of_some hdir, hsize, ih hrest⟩

theorem of_makeDirectory (h : t.makeDirectory l segments = .ok t') : AddsDirectories t t' := by
  obtain ⟨place, -, h⟩ := bind_eq_ok.mp h
  split at h
  · rename_i hnone
    cases h
    exact .set hnone
  · cases h
    exact .refl _
  · simp at h

theorem of_makeEach {r : Except IoError Unit} (h : t.makeEach l segments = (r, t')) :
    AddsDirectories t t' := by
  induction segments generalizing t l with
  | nil =>
    cases h
    exact .refl _
  | cons segment rest ih =>
    rw [makeEach] at h
    cases hmake : t.makeDirectory l [segment] with
    | error e =>
      rw [hmake] at h
      cases h
      exact .refl _
    | ok made =>
      rw [hmake] at h
      exact (of_makeDirectory hmake).trans (ih h)

end AddsDirectories

/-- Segments that were made into a directory lead to it. -/
theorem makeDirectory_eq_ok (h : t.makeDirectory l segments = .ok t') :
    ∃ place, t'.walk l segments = .ok place ∧ t'.find? place = some .directory := by
  have hadds := AddsDirectories.of_makeDirectory h
  obtain ⟨place, hwalk, h⟩ := bind_eq_ok.mp h
  refine ⟨place, hadds.walk_eq_ok hwalk, ?_⟩
  split at h
  · cases h
    exact find?_set_self t place .directory
  · rename_i hdir
    cases h
    exact hdir
  · simp at h

theorem makeDirectory_of_directory (hw : t.walk l segments = .ok place)
    (hdir : t.find? place = some .directory) : t.makeDirectory l segments = .ok t := by
  simp only [makeDirectory, hw, bind, Except.bind, hdir]
  rfl

/-- The path names a place, and it leads to a directory. -/
structure HasDirectory (t : FileTree) (p : String) : Prop where
  checked : checkPath p = .ok ()
  leads : ∃ place, t.walk (t.origin p) (Path.body p) = .ok place ∧
    t.find? place = some .directory

theorem makeDirectories_eq_ok (h : t.makeDirectories p = (.ok (), t')) :
    AddsDirectories t t' ∧ (p.isEmpty = true ∨ t'.HasDirectory p) := by
  have hlast : ∀ {s}, AddsDirectories t s → checkPath p = .ok () →
      s.makeDirectory (t.origin p) (Path.body p) = .ok t' →
      AddsDirectories t t' ∧ (p.isEmpty = true ∨ t'.HasDirectory p) := by
    intro s hadds hp hmake
    have hall := hadds.trans (.of_makeDirectory hmake)
    have horigin : t'.origin p = t.origin p := by rw [origin, origin, hall.cwd]
    exact ⟨hall, .inr ⟨hp, horigin ▸ makeDirectory_eq_ok hmake⟩⟩
  unfold makeDirectories at h
  dsimp only at h
  split at h
  · rename_i hempty
    cases h
    exact ⟨.refl _, .inl hempty⟩
  split at h
  · cases h
  · -- A directory above was missing: the path is tried again once those are made.
    rename_i hp _
    split at h
    · rename_i s hs
      split at h
      · rename_i made hmake
        cases h
        exact hlast (.of_makeEach hs) hp hmake
      · cases h
    · rename_i failed
      exact (failed _ h).elim
  · rename_i hp _
    split at h
    · rename_i made hmake
      cases h
      exact hlast (.refl t) hp hmake
    · cases h

/-- A path that leads to a directory needs none to be made, and neither does one that is empty. -/
theorem makeDirectories_of_hasDirectory (h : p.isEmpty = true ∨ t.HasDirectory p) :
    t.makeDirectories p = (.ok (), t) := by
  unfold makeDirectories
  dsimp only
  split
  · rfl
  · rename_i hempty
    obtain ⟨hp, place, hw, hdir⟩ := h.resolve_left hempty
    rw [makeDirectory_of_directory hw hdir, hp]

theorem HasDirectory.of_changesOnly {places : Location → Prop} (h : t.HasDirectory p)
    (hc : ChangesOnly places t t') : t'.HasDirectory p := by
  obtain ⟨hp, place, hw, hdir⟩ := h
  refine ⟨hp, place, ?_, (hc.isDirectory place).mpr hdir⟩
  rw [hc.walk_eq_ok, origin, hc.cwd]
  exact hw

/-- Directories that were made once need not be made again, whatever files have changed since. -/
theorem makeDirectories_again {places : Location → Prop}
    (h : t.makeDirectories p = (.ok (), t')) (hc : ChangesOnly places t' t'') :
    t''.makeDirectories p = (.ok (), t'') :=
  makeDirectories_of_hasDirectory ((makeDirectories_eq_ok h).2.imp_right (·.of_changesOnly hc))

end ChainRollback.FileTree

import ChainRollback.FileTree.Basic
import ChainRollback.Proofs.Outcome

/-! # Trees that differ at some places only

A path is followed through directories. So two trees with the same directories lead every path to
the same place, whatever their files are, and what a path finds there has changed only if that place
is one of those that did.
-/
namespace ChainRollback.FileTree

variable {t t' t'' : FileTree} {places : Location → Prop} {l : Location} {p : String}

def LeadsTo (t : FileTree) (p : String) (l : Location) : Prop := t.locate p = .ok l

/-- No place is reached by both paths. -/
def Apart (t : FileTree) (p q : String) : Prop := ∀ l, t.LeadsTo p l → ¬t.LeadsTo q l

/-- What is at other places than these is the same, and no directory has come or gone. -/
structure ChangesOnly (places : Location → Prop) (t t' : FileTree) : Prop where
  cwd : t'.cwd = t.cwd
  isDirectory : ∀ l, t'.find? l = some .directory ↔ t.find? l = some .directory
  find? : ∀ l, ¬places l → t'.find? l = t.find? l

@[simp] theorem find?_erase_self (t : FileTree) (l : Location) : (t.erase l).find? l = none := by
  rw [find?, erase, List.lookup_eq_none_iff]
  intro e he
  have hne : e.1 ≠ l := bne_iff_ne.mp (List.mem_filter.mp he).2
  exact bne_iff_ne.mpr hne.symm

theorem leadsTo_iff_walk : t.LeadsTo p l ↔
    checkPath p = .ok () ∧ t.walk (t.origin p) (Path.segments p) = .ok l := by
  simp only [LeadsTo, locate, bind_eq_ok]
  exact ⟨fun ⟨_, hp, hw⟩ => ⟨hp, hw⟩, fun ⟨hp, hw⟩ => ⟨(), hp, hw⟩⟩

theorem apart_of_ne {q : String} {l' : Location} (hp : t.LeadsTo p l) (hq : t.LeadsTo q l')
    (h : l ≠ l') : t.Apart p q := by
  intro place hp' hq'
  exact h ((Except.ok.inj (hp.symm.trans hp')).trans (Except.ok.inj (hq'.symm.trans hq)))

theorem Apart.symm {q : String} (h : t.Apart p q) : t.Apart q p := fun l hq hp => h l hp hq

theorem nodeAt?_of_leadsTo (h : t.LeadsTo p l) : t.nodeAt? p = t.find? l := by
  rw [nodeAt?, h]

theorem nodeAt?_eq_some {n : Node} :
    t.nodeAt? p = some n ↔ ∃ l, t.LeadsTo p l ∧ t.find? l = some n := by
  unfold nodeAt? LeadsTo
  cases t.locate p <;> simp

theorem walk_cons {segment : String} {rest : List String} {place : Location} :
    t.walk l (segment :: rest) = .ok place ↔ t.find? l = some .directory ∧
      segment.utf8ByteSize ≤ Path.maxSegmentBytes ∧
      t.walk (Location.step l segment) rest = .ok place := by
  rw [walk]
  split
  · rename_i hl
    by_cases hsize : segment.utf8ByteSize ≤ Path.maxSegmentBytes <;> simp [hl, hsize]
  · rename_i n hn hl
    have hne : n ≠ .directory := hn
    simp [hl, hne]
  · rename_i hl
    simp [hl]

theorem walk_append {front back : List String} {place : Location} :
    t.walk l (front ++ back) = .ok place ↔
      ∃ m, t.walk l front = .ok m ∧ t.walk m back = .ok place := by
  induction front generalizing l with
  | nil => simp [walk]
  | cons segment front ih => simp only [List.cons_append, walk_cons, ih, and_assoc, exists_and_left]

namespace ChangesOnly

theorem refl (places : Location → Prop) (t : FileTree) : ChangesOnly places t t :=
  ⟨rfl, fun _ => Iff.rfl, fun _ _ => rfl⟩

theorem trans (h : ChangesOnly places t t') (h' : ChangesOnly places t' t'') :
    ChangesOnly places t t'' where
  cwd := h'.cwd.trans h.cwd
  isDirectory l := (h'.isDirectory l).trans (h.isDirectory l)
  find? l hl := (h'.find? l hl).trans (h.find? l hl)

theorem mono {places' : Location → Prop} (h : ChangesOnly places t t')
    (hp : ∀ l, places l → places' l) : ChangesOnly places' t t' :=
  ⟨h.cwd, h.isDirectory, fun l hl => h.find? l fun hl' => hl (hp l hl')⟩

/-- Anything but a directory may be put where no directory is. -/
theorem setNode {n : Node} (hl : places l) (h : t.find? l ≠ some .directory)
    (hn : n ≠ .directory) : ChangesOnly places t (t.set l n) := by
  refine ⟨rfl, ?_, ?_⟩
  · intro l'
    by_cases he : l' = l
    · subst he
      simp [h, hn]
    · rw [find?_set_of_ne t _ he]
  · intro l' hl'
    apply find?_set_of_ne
    rintro rfl
    exact hl' hl

theorem set {content : Bytes} (hl : places l) (h : t.find? l ≠ some .directory) :
    ChangesOnly places t (t.set l (.file content)) :=
  setNode hl h fun hn => (by cases hn)

theorem erase (hl : places l) (h : t.find? l ≠ some .directory) :
    ChangesOnly places t (t.erase l) := by
  refine ⟨rfl, ?_, ?_⟩
  · intro l'
    by_cases he : l' = l
    · subst he
      simp [h]
    · rw [find?_erase_of_ne t he]
  · intro l' hl'
    apply find?_erase_of_ne
    rintro rfl
    exact hl' hl

theorem walk_eq_ok (h : ChangesOnly places t t') {segments : List String} {place : Location} :
    t'.walk l segments = .ok place ↔ t.walk l segments = .ok place := by
  induction segments generalizing l with
  | nil => rfl
  | cons segment rest ih => rw [walk_cons, walk_cons, h.isDirectory, ih]

/-- Paths lead where they did. -/
theorem leadsTo_iff (h : ChangesOnly places t t') : t'.LeadsTo p l ↔ t.LeadsTo p l := by
  rw [leadsTo_iff_walk, leadsTo_iff_walk, h.walk_eq_ok, origin, origin, h.cwd]

/-- A path to none of the places finds what it did. -/
theorem nodeAt?_eq (h : ChangesOnly places t t') (hp : ∀ l, t.LeadsTo p l → ¬places l) :
    t'.nodeAt? p = t.nodeAt? p := by
  apply Option.ext
  intro n
  rw [nodeAt?_eq_some, nodeAt?_eq_some]
  simp only [h.leadsTo_iff]
  refine exists_congr fun l => and_congr_right fun hl => ?_
  rw [h.find? l (hp l hl)]

end ChangesOnly
end ChainRollback.FileTree

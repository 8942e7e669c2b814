import ChainRollback.Proofs.FileTree.Directories
import ChainRollback.Proofs.Store.Opening

/-! # Opening a store in a tree of files

Opening a store finds its environment in a directory, or makes a new one there, and files it again
with its tables and the version of the layout. If the version is refused, the environment stays
filed as it was. The files of a store that has been opened are found again, so it can be closed and
opened any number of times and is the same store.
-/
namespace ChainRollback
open Environment

namespace FileTree

variable {t t' t₁ : FileTree} {mapSize : UInt64} {dir : String} {l place : Location}
variable {e e' : Environment} {name : StoreName} {fault : DiskError}

/-- The environment at a place, a new one if there is none. -/
def environmentAt (t : FileTree) (place : Location) : Environment :=
  match t.find? place with
  | some (.database e) => e
  | _ => .empty

/-- The directory is there, and its files can be opened. -/
structure Prepared (t : FileTree) (mapSize : UInt64) (dir : String) (l : Location) : Prop where
  directories : t.makeDirectories dir = (.ok (), t)
  leads : t.LeadsTo dir l
  lock : t.find? (l ++ [lockFile]) ≠ some .directory
  pages : mapSize % pageSize = 0
  room : mapSize < addressSpace

theorem environmentFile_ne (l : Location) : l ++ [environmentFile] ≠ l ++ [lockFile] := by
  simp [environmentFile, lockFile]

theorem Prepared.of_changesOnly {places : Location → Prop} (h : t.Prepared mapSize dir l)
    (hc : ChangesOnly places t t') : t'.Prepared mapSize dir l where
  directories := makeDirectories_again h.directories hc
  leads := hc.leadsTo_iff.mpr h.leads
  lock hdir := h.lock ((hc.isDirectory _).mp hdir)
  pages := h.pages
  room := h.room

theorem Prepared.openEnvironment (h : t.Prepared mapSize dir l)
    (he : t.find? (l ++ [environmentFile]) = some (.database e)) :
    t.openEnvironment mapSize dir =
      (.ok (e, l ++ [environmentFile]), t.set (l ++ [lockFile]) (.file lockBytes)) := by
  have hlocate : t.locate dir = .ok l := h.leads
  have hfile : (t.set (l ++ [lockFile]) (.file lockBytes)).find? (l ++ [environmentFile]) =
      some (.database e) := by
    rw [find?_set_of_ne t _ (environmentFile_ne l), he]
  unfold FileTree.openEnvironment
  simp only [h.directories, hlocate, ne_eq, h.pages, not_true_eq_false, if_false]
  split
  · rename_i hdir
    exact absurd hdir h.lock
  · simp only [mapEnvironment, hfile, if_pos h.room, Except.map]

theorem mapEnvironment_eq_ok (h : t.mapEnvironment mapSize place = (.ok e, t')) :
    e = t.environmentAt place ∧ mapSize < addressSpace ∧
      ChangesOnly (· = place) t t' ∧ t'.find? place = some (.database e) := by
  unfold mapEnvironment at h
  have hfresh : t.find? place ≠ some .directory → mapSize < addressSpace →
      t.environmentAt place = .empty → e = .empty → t' = t.set place (.database .empty) →
      e = t.environmentAt place ∧ mapSize < addressSpace ∧
        ChangesOnly (· = place) t t' ∧ t'.find? place = some (.database e) := by
    rintro hdir hroom hnew rfl rfl
    exact ⟨hnew.symm, hroom, .setNode rfl hdir fun hn => (by cases hn), find?_set_self _ _ _⟩
  split at h
  · cases h
  · cases h
  · rename_i filed hfiled
    split at h
    · rename_i hroom
      cases h
      have hat : t.environmentAt place = e := by
        rw [environmentAt, hfiled]
      exact ⟨hat.symm, hroom, .refl _ _, hfiled⟩
    · cases h
  · rename_i hnone
    split at h
    · rename_i hroom
      cases h
      exact hfresh (by rw [hnone]; simp) hroom (by rw [environmentAt, hnone]) rfl rfl
    · cases h
  · rename_i hempty
    split at h
    · rename_i hroom
      cases h
      exact hfresh (by rw [hempty]; simp) hroom (by rw [environmentAt, hempty]) rfl rfl
    · cases h

/-- The environment that is opened is the one that the tree has, and it is filed where it can be
opened again. -/
theorem openEnvironment_eq_ok (h : t.openEnvironment mapSize dir = (.ok (e, place), t₁)) :
    e = t.environmentAt place ∧ t₁.find? place = some (.database e) ∧
      ∃ l, place = l ++ [environmentFile] ∧ t₁.Prepared mapSize dir l := by
  unfold openEnvironment at h
  split at h
  · cases h
  rename_i made hmade
  obtain ⟨hadds, -⟩ := makeDirectories_eq_ok hmade
  split at h
  · cases h
  rename_i l hlocate
  split at h
  · cases h
  rename_i hpages
  split at h
  · cases h
  rename_i hlock
  dsimp only at h
  rcases hmap : (made.set (l ++ [lockFile]) (.file lockBytes)).mapEnvironment mapSize
    (l ++ [environmentFile]) with ⟨result, mapped⟩
  rw [hmap] at h
  obtain ⟨hresult, rfl⟩ := Prod.mk.inj h
  obtain ⟨env, rfl, hpair⟩ := map_eq_ok.mp hresult
  obtain ⟨rfl, rfl⟩ := Prod.mk.inj hpair
  obtain ⟨henv, hroom, hmapped, hfiled⟩ := mapEnvironment_eq_ok hmap
  have hlocked : ChangesOnly (fun _ => True) made (made.set (l ++ [lockFile]) (.file lockBytes)) :=
    .set trivial hlock
  have hchanges := hlocked.trans (hmapped.mono fun _ _ => trivial)
  refine ⟨?_, hfiled, l, rfl, makeDirectories_again hmade hchanges, hchanges.leadsTo_iff.mpr hlocate,
    fun hdir => hlock ((hchanges.isDirectory _).mp hdir), not_not.mp hpages, hroom⟩
  -- Neither the directories nor the lock file that were made are at the place.
  rw [henv, environmentAt, find?_set_of_ne made _ (environmentFile_ne l), environmentAt]
  rcases hadds.find? (l ++ [environmentFile]) with heq | ⟨hnone, hdir⟩
  · rw [heq]
  · rw [hnone, hdir]

theorem changesOnly_fileEnvironment (t : FileTree) (place : Location) (e : Environment) :
    ChangesOnly (· = place) t (t.fileEnvironment place e) := by
  unfold fileEnvironment
  split
  · rename_i filed hfiled
    exact .setNode rfl (by rw [hfiled]; simp) fun hn => (by cases hn)
  · exact .refl _ _

theorem find?_fileEnvironment (h : t.find? place = some (.database e)) (e' : Environment) :
    (t.fileEnvironment place e').find? place = some (.database e') := by
  rw [fileEnvironment, h]
  exact find?_set_self t place _

/-- Opens a store of either kind, and tells its environment. -/
def openAs (t : FileTree) (name : StoreName) (mapSize : UInt64) (dir : String) :
    Except DiskError (Environment × Location) × FileTree :=
  match name with
  | .block =>
    let (result, t) := t.openBlockStore mapSize dir
    (result.map fun (store, place) => (store.env, place), t)
  | .state =>
    let (result, t) := t.openStateStore mapSize dir
    (result.map fun (store, place) => (store.env, place), t)

theorem openStore_map {σ : Type} {openIn : Environment → Except DiskError σ}
    {env : σ → Environment} (h : t.openEnvironment mapSize dir = (.ok (e, place), t₁)) :
    ((t.openStore mapSize dir openIn env).1.map fun (store, place) => (env store, place),
      (t.openStore mapSize dir openIn env).2) =
      match (openIn e).map env with
      | .ok e' => (.ok (e', place), t₁.fileEnvironment place e')
      | .error fault => (.error fault, t₁) := by
  simp only [openStore, h]
  cases openIn e <;> rfl

theorem openAs_of_openEnvironment (name : StoreName)
    (h : t.openEnvironment mapSize dir = (.ok (e, place), t₁)) :
    t.openAs name mapSize dir =
      match name.openIn e with
      | .ok e' => (.ok (e', place), t₁.fileEnvironment place e')
      | .error fault => (.error fault, t₁) := by
  cases name with
  | block => exact openStore_map h
  | state => exact openStore_map h

theorem openAs_of_openEnvironment_error (name : StoreName)
    (h : t.openEnvironment mapSize dir = (.error fault, t₁)) :
    t.openAs name mapSize dir = (.error fault, t₁) := by
  cases name with
  | block => simp only [openAs, openBlockStore, openStore, h, Except.map]
  | state => simp only [openAs, openStateStore, openStore, h, Except.map]

theorem openAs_eq_ok (h : t.openAs name mapSize dir = (.ok (e', place), t')) :
    ∃ e t₁, t.openEnvironment mapSize dir = (.ok (e, place), t₁) ∧ name.openIn e = .ok e' ∧
      t' = t₁.fileEnvironment place e' := by
  rcases henv : t.openEnvironment mapSize dir with ⟨fault | ⟨e, place₁⟩, t₁⟩
  · rw [openAs_of_openEnvironment_error name henv] at h
    cases h
  · rw [openAs_of_openEnvironment name henv] at h
    cases hopen : name.openIn e with
    | error fault =>
      rw [hopen] at h
      cases h
    | ok opened =>
      rw [hopen] at h
      cases h
      exact ⟨e, t₁, rfl, hopen, rfl⟩

/-- Closes a store and opens it again, a number of times. -/
def reopenEach (name : StoreName) (mapSize : UInt64) (dir : String) :
    Nat → FileTree → Location → Environment → Except DiskError (Environment × Location) × FileTree
  | 0, t, place, e => (.ok (e, place), t)
  | k + 1, t, place, e =>
    match (t.fileEnvironment place e).openAs name mapSize dir with
    | (.ok (e, place), t) => reopenEach name mapSize dir k t place e
    | failed => failed

end FileTree

open FileTree

/-- A tree, and the environment of a store that has been opened in it and used since. -/
inductive StoreName.OpenIn (name : StoreName) (mapSize : UInt64) (dir : String)
    (place : Location) : FileTree → Environment → Prop where
  | opened {t t' : FileTree} {e : Environment}
    (h : t.openAs name mapSize dir = (.ok (e, place), t')) : OpenIn name mapSize dir place t' e
  | changed {t : FileTree} {e e' : Environment} (h : OpenIn name mapSize dir place t e)
    (hc : name.Changes e e') : OpenIn name mapSize dir place t e'

namespace StoreName.OpenIn

variable {name : StoreName} {mapSize : UInt64} {dir : String} {place : Location} {t : FileTree}
variable {e : Environment}

/-- The files of an open store are where they are looked for, and its environment has all that is
made when it is opened. -/
theorem holds (h : name.OpenIn mapSize dir place t e) :
    (∃ l, place = l ++ [environmentFile] ∧ t.Prepared mapSize dir l) ∧
      (∃ filed, t.find? place = some (.database filed)) ∧ name.IsOpen e := by
  induction h with
  | @opened t t' e' h =>
    obtain ⟨e, t₁, henv, hopen, rfl⟩ := openAs_eq_ok h
    obtain ⟨-, hfiled, l, hplace, hprepared⟩ := openEnvironment_eq_ok henv
    exact ⟨⟨l, hplace, hprepared.of_changesOnly (changesOnly_fileEnvironment t₁ place e')⟩,
      ⟨e', find?_fileEnvironment hfiled e'⟩, isOpen_of_openIn hopen⟩
  | changed _ hc ih => exact ⟨ih.1, ih.2.1, ih.2.2.of_writesOnly hc.writesOnly⟩

theorem exists_reopen (h : name.OpenIn mapSize dir place t e) :
    ∃ t', (t.fileEnvironment place e).openAs name mapSize dir = (.ok (e, place), t') := by
  obtain ⟨⟨l, rfl, hprepared⟩, ⟨filed, hfiled⟩, hopen⟩ := h.holds
  have hclosed := hprepared.of_changesOnly (changesOnly_fileEnvironment t (l ++ [environmentFile]) e)
  have henv := hclosed.openEnvironment (find?_fileEnvironment hfiled e)
  have hopenAs := openAs_of_openEnvironment name henv
  rw [hopen.openIn_eq_self] at hopenAs
  exact ⟨_, hopenAs⟩

theorem exists_reopenEach (h : name.OpenIn mapSize dir place t e) (k : Nat) :
    ∃ t', reopenEach name mapSize dir k t place e = (.ok (e, place), t') := by
  induction k generalizing t with
  | zero => exact ⟨t, rfl⟩
  | succ k ih =>
    obtain ⟨t₁, ht₁⟩ := h.exists_reopen
    obtain ⟨t', ht'⟩ := ih (.opened ht₁)
    refine ⟨t', ?_⟩
    rw [reopenEach, ht₁]
    exact ht'

end StoreName.OpenIn

/-- Whether a store can be opened depends on the version in its environment alone. If it is missing
or current, the store is opened with every record that was there, under the current version. If not,
the error tells what it is and the environment stays as it was. A store that is open, used or not,
can be closed and opened any number of times, and then has the same environment, so that whatever is
read from it is the same. -/
theorem opening_is_safe (name : StoreName) (t : FileTree) (mapSize : UInt64) (dir : String)
    {e : Environment} {place : Location} {t₁ : FileTree}
    (h : t.openEnvironment mapSize dir = (.ok (e, place), t₁)) :
    (e = t.environmentAt place ∧ t₁.find? place = some (.database e)) ∧
    (if e.IsAccepted then ∃ e' t', t.openAs name mapSize dir = (.ok (e', place), t') ∧
        name.Opened e e' ∧ t'.find? place = some (.database e') ∧
        ∀ l, l ≠ place → t'.find? l = t₁.find? l
      else ∃ bytes fault, e.version? = some bytes ∧ VersionFault bytes fault ∧
        t.openAs name mapSize dir = (.error fault, t₁)) ∧
    ∀ t' e', name.OpenIn mapSize dir place t' e' → ∀ k,
      ∃ t'', reopenEach name mapSize dir k t' place e' = (.ok (e', place), t'') := by
  obtain ⟨hat, hfiled, -⟩ := openEnvironment_eq_ok h
  refine ⟨⟨hat, hfiled⟩, ?_, fun t' e' hopen k => hopen.exists_reopenEach k⟩
  have hopenAs := openAs_of_openEnvironment name h
  split
  · rename_i haccepted
    obtain ⟨e', hopen, hopened⟩ := name.openIn_of_isAccepted haccepted
    rw [hopen] at hopenAs
    exact ⟨e', _, hopenAs, hopened, find?_fileEnvironment hfiled e',
      (changesOnly_fileEnvironment t₁ place e').find?⟩
  · rename_i hrefused
    obtain ⟨bytes, fault, hbytes, hfault, hopen⟩ := name.openIn_of_not_isAccepted hrefused
    rw [hopen] at hopenAs
    exact ⟨bytes, fault, hbytes, hfault, hopenAs⟩

def treeWith (e : Environment) : FileTree where
  nodes := [([], .directory), (["db"], .directory), (["db", environmentFile], .database e)]
  cwd := []

def laterLayout : Environment := Environment.empty.put .layout schemaKey (Bytes.littleEndian 4 2)

theorem opening_is_safe_of_two_environments :
    (∃ e' t', (treeWith .empty).openAs .block pageSize "db" =
        (.ok (e', ["db", environmentFile]), t') ∧ StoreName.block.Opened .empty e' ∧
      ∀ k, ∃ t'', reopenEach .block pageSize "db" k t' ["db", environmentFile] e' =
        (.ok (e', ["db", environmentFile]), t'')) ∧
    ∃ bytes fault t₁, laterLayout.version? = some bytes ∧ VersionFault bytes fault ∧
      (treeWith laterLayout).openAs .state pageSize "db" = (.error fault, t₁) := by
  have henv : ∀ e, (treeWith e).openEnvironment pageSize "db" =
      (.ok (e, ["db", environmentFile]), _) := fun e => Prod.ext rfl rfl
  obtain ⟨-, hnew, hreopen⟩ := opening_is_safe .block _ pageSize "db" (henv .empty)
  obtain ⟨-, hlater, -⟩ := opening_is_safe .state _ pageSize "db" (henv laterLayout)
  rw [if_pos (by decide)] at hnew
  rw [if_neg (by decide)] at hlater
  obtain ⟨e', t', hopen, hopened, -⟩ := hnew
  obtain ⟨bytes, fault, hrefused⟩ := hlater
  exact ⟨⟨e', t', hopen, hopened, hreopen t' e' (.opened hopen)⟩, bytes, fault, _, hrefused⟩

end ChainRollback

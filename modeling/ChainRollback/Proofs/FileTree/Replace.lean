import ChainRollback.FileTree.Write
import ChainRollback.Proofs.FileTree.Frame

/-! # Replacing a file at once

The temporary of a file is a place of its own in the same directory. All operations of a replacement
but the last touch that place only, and the last moves what is there onto the file. So a replacement
that is stopped at any point has left the file as it was, or it is complete.
-/
namespace ChainRollback

namespace Path

theorem split_of_not_mem {ds : List Char} (h : '/' ∉ ds) : split ds = [ds] := by
  induction ds with
  | nil => rfl
  | cons d ds ih =>
    obtain ⟨hd, hds⟩ := not_or.mp (mt List.mem_cons.mpr h)
    rw [split, if_neg fun he => hd he.symm, ih hds]

/-- Text without a slash goes on with the last segment. -/
theorem exists_split_append {ds : List Char} (hd : '/' ∉ ds) (cs : List Char) :
    ∃ front last, split cs = front ++ [last] ∧ split (cs ++ ds) = front ++ [last ++ ds] := by
  induction cs with
  | nil => exact ⟨[], [], rfl, split_of_not_mem hd⟩
  | cons c cs ih =>
    obtain ⟨front, last, hcs, happend⟩ := ih
    by_cases hc : c = '/'
    · exact ⟨[] :: front, last, by simp [split, hc, hcs], by simp [split, hc, happend]⟩
    · cases front with
      | nil => exact ⟨[], c :: last, by simp [split, hc, hcs], by simp [split, hc, happend]⟩
      | cons first front =>
        exact ⟨(c :: first) :: front, last, by simp [split, hc, hcs],
          by simp [split, hc, happend]⟩

theorem toList_temporary (p : String) :
    (temporary p).toList = p.toList ++ ['.', 't', 'm', 'p'] := by
  rw [temporary, String.toList_append]
  rfl

theorem exists_segments_temporary (p : String) : ∃ front last, segments p = front ++ [last] ∧
    segments (temporary p) = front ++ [last ++ ".tmp"] := by
  have hslash : '/' ∉ ['.', 't', 'm', 'p'] := by decide
  obtain ⟨front, last, hp, htemp⟩ := exists_split_append hslash p.toList
  refine ⟨front.map String.ofList, String.ofList last, ?_, ?_⟩
  · rw [segments, hp, List.map_append, List.map_singleton]
  · rw [segments, toList_temporary, htemp, List.map_append, List.map_singleton,
      String.ofList_append]

theorem isAbsolute_temporary (p : String) : isAbsolute (temporary p) = isAbsolute p := by
  rw [isAbsolute, isAbsolute, toList_temporary]
  cases p.toList <;> rfl

theorem endsInSlash_temporary (p : String) : endsInSlash (temporary p) = false := by
  rw [endsInSlash, toList_temporary]
  simp

theorem length_append_tmp (s : String) : (s ++ ".tmp").length = s.length + 4 :=
  String.length_append s ".tmp"

theorem append_tmp_ne {s r : String} (h : r.length < 4) : s ++ ".tmp" ≠ r := by
  rintro rfl
  rw [length_append_tmp] at h
  omega

theorem body_temporary (p : String) : body (temporary p) = segments (temporary p) := by
  obtain ⟨front, last, -, htemp⟩ := exists_segments_temporary p
  have hne : (last ++ ".tmp").isEmpty = false := by
    rw [String.isEmpty_eq_false_iff]
    exact append_tmp_ne (by decide)
  rw [body, htemp, List.reverse_append, List.reverse_singleton, List.singleton_append,
    List.dropWhile_cons_of_neg (by simp [hne]), List.reverse_cons, List.reverse_reverse]

theorem step_append_tmp (l : Location) (s : String) :
    Location.step l (s ++ ".tmp") = l ++ [s ++ ".tmp"] := by
  have hnot : ¬(s ++ ".tmp" = "" ∨ s ++ ".tmp" = ".") := by
    rintro (h | h)
    · exact append_tmp_ne (by decide) h
    · exact append_tmp_ne (by decide) h
  have hup : s ++ ".tmp" ≠ ".." := append_tmp_ne (by decide)
  rw [Location.step, if_neg hnot, if_neg hup]

/-- A name with an ending leads to another place than the name itself. -/
theorem step_append_tmp_ne (l : Location) (s : String) :
    Location.step l (s ++ ".tmp") ≠ Location.step l s := by
  rw [step_append_tmp, Location.step]
  intro h
  split at h
  · have hlength := congrArg List.length h
    rw [List.length_append, List.length_singleton] at hlength
    omega
  split at h
  · have hlength := congrArg List.length h
    rw [List.length_append, List.length_singleton, List.length_dropLast] at hlength
    omega
  · have hname := List.singleton_inj.mp (List.append_cancel_left h)
    have hlength := congrArg String.length hname
    rw [length_append_tmp] at hlength
    omega

end Path

namespace FileTree

variable {t t' : FileTree} {p : String} {a l : Location} {content : Bytes}

/-- A file and its temporary are in one directory and never the same place. -/
theorem apart_temporary (t : FileTree) (p : String) : t.Apart (temporary p) p := by
  intro l ha hl
  obtain ⟨front, last, hp, htemp⟩ := Path.exists_segments_temporary p
  obtain ⟨-, hwalk⟩ := leadsTo_iff_walk.mp ha
  obtain ⟨-, hwalk'⟩ := leadsTo_iff_walk.mp hl
  have horigin : t.origin (temporary p) = t.origin p := by
    rw [origin, origin, Path.isAbsolute_temporary]
  rw [htemp, horigin, walk_append] at hwalk
  rw [hp, walk_append] at hwalk'
  obtain ⟨m, hm, hstep⟩ := hwalk
  obtain ⟨m', hm', hstep'⟩ := hwalk'
  cases hm.symm.trans hm'
  have hplace := Except.ok.inj (walk_cons.mp hstep).2.2
  have hplace' := Except.ok.inj (walk_cons.mp hstep').2.2
  exact Path.step_append_tmp_ne m last (hplace.trans hplace'.symm)

theorem create_temporary_eq_ok : t.applyOp (.create (temporary p)) = .ok t' ↔
    ∃ a, t.LeadsTo (temporary p) a ∧ t.find? a ≠ some .directory ∧ t' = t.set a (.file []) := by
  simp only [applyOp, Path.endsInSlash_temporary, Path.body_temporary, Bool.false_eq_true, if_false,
    bind_eq_ok, leadsTo_iff_walk]
  constructor
  · rintro ⟨_, hp, a, ha, h⟩
    split at h
    · cases h
    · rename_i hnot
      cases h
      exact ⟨a, ⟨hp, ha⟩, hnot, rfl⟩
  · rintro ⟨a, ⟨hp, ha⟩, hnot, rfl⟩
    refine ⟨(), hp, a, ha, ?_⟩
    split
    · exact absurd ‹_› hnot
    · rfl

theorem write_of_leadsTo (h : t.LeadsTo p l) :
    t.applyOp (.write p content) = .ok (t.set l (.file content)) := by
  rw [applyOp, h]
  rfl

theorem rename_eq_ok {q : String} : t.applyOp (.rename p q) = .ok t' ↔
    ∃ a l n, t.LeadsTo p a ∧ t.LeadsTo q l ∧ t.find? a = some n ∧ t.find? l ≠ some .directory ∧
      t' = (t.erase a).set l n := by
  simp only [applyOp, bind_eq_ok]
  constructor
  · rintro ⟨a, ha, l, hl, h⟩
    split at h
    · cases h
    · cases h
    · rename_i n hn hnot
      cases h
      exact ⟨a, l, n, ha, hl, hn, hnot, rfl⟩
  · rintro ⟨a, l, n, ha, hl, hn, hnot, rfl⟩
    refine ⟨a, ha, l, hl, ?_⟩
    rw [hn]
    split
    · cases ‹_›
    · exact absurd ‹_› hnot
    · cases ‹some n = _›
      rfl

theorem applyOps_cons_of_ok {op : FileOp} {ops : List FileOp} (h : t.applyOp op = .ok t') :
    t.applyOps (op :: ops) = t'.applyOps ops := by
  rw [applyOps, h]

theorem applyOps_cons_of_error {op : FileOp} {ops : List FileOp} {e : IoError}
    (h : t.applyOp op = .error e) : t.applyOps (op :: ops) = (.error e, t) := by
  rw [applyOps, h]

/-- Operations that a stopped process has performed: all up to some point, which may lie inside a
write. -/
inductive StoppedIn : List FileOp → List FileOp → Prop where
  | before (ops : List FileOp) : StoppedIn ops []
  | inside (path : String) (content : Bytes) (rest : List FileOp) (n : Nat) :
    StoppedIn (.write path content :: rest) [.write path (content.take n)]
  | after (op : FileOp) {rest done : List FileOp} (h : StoppedIn rest done) :
    StoppedIn (op :: rest) (op :: done)

/-- Only the temporary of a file has changed, and it is a file. -/
structure HasDraft (t t' : FileTree) (p : String) (draft : Bytes) : Prop where
  changes : ChangesOnly (t.LeadsTo (temporary p)) t t'
  draft : t'.nodeAt? (temporary p) = some (.file draft)

/-- The file has the content, its temporary is gone and nothing else has changed. -/
structure Replaced (t t' : FileTree) (p : String) (content : Bytes) : Prop where
  changes : ChangesOnly (fun l => t.LeadsTo p l ∨ t.LeadsTo (temporary p) l) t t'
  content : t'.nodeAt? p = some (.file content)
  moved : ∃ a, t'.LeadsTo (temporary p) a ∧ t'.find? a = none

theorem Replaced.nodeAt?_temporary (h : t.Replaced t' p content) :
    t'.nodeAt? (temporary p) = none := by
  obtain ⟨a, ha, hnone⟩ := h.moved
  rw [nodeAt?_of_leadsTo ha, hnone]

theorem hasDraft_of_create (h : t.applyOp (.create (temporary p)) = .ok t') :
    t.HasDraft t' p [] := by
  obtain ⟨a, ha, hnot, rfl⟩ := create_temporary_eq_ok.mp h
  have hchanges : ChangesOnly (t.LeadsTo (temporary p)) t (t.set a (.file [])) := .set ha hnot
  refine ⟨hchanges, nodeAt?_eq_some.mpr ⟨a, hchanges.leadsTo_iff.mpr ha, ?_⟩⟩
  rw [find?_set_self]

theorem HasDraft.write {draft : Bytes} (h : t.HasDraft t' p draft) (content : Bytes) :
    ∃ t'', t'.applyOp (.write (temporary p) content) = .ok t'' ∧ t.HasDraft t'' p content := by
  obtain ⟨a, ha, hfile⟩ := nodeAt?_eq_some.mp h.draft
  have hnot : t'.find? a ≠ some .directory := by
    rw [hfile]
    exact fun he => by cases he
  have hchanges : ChangesOnly (t.LeadsTo (temporary p)) t (t'.set a (.file content)) :=
    h.changes.trans (.set (h.changes.leadsTo_iff.mp ha) hnot)
  refine ⟨_, write_of_leadsTo ha, hchanges, nodeAt?_eq_some.mpr ⟨a, ?_, ?_⟩⟩
  · exact hchanges.leadsTo_iff.mpr (h.changes.leadsTo_iff.mp ha)
  · rw [find?_set_self]

theorem HasDraft.replaced {t'' : FileTree} (h : t.HasDraft t' p content)
    (hr : t'.applyOp (.rename (temporary p) p) = .ok t'') : t.Replaced t'' p content := by
  obtain ⟨a, l, n, ha, hl, hn, hnot, rfl⟩ := rename_eq_ok.mp hr
  have hdraft := h.draft
  rw [nodeAt?_of_leadsTo ha, hn, Option.some.injEq] at hdraft
  subst hdraft
  have ha' : t.LeadsTo (temporary p) a := h.changes.leadsTo_iff.mp ha
  have hl' : t.LeadsTo p l := h.changes.leadsTo_iff.mp hl
  have hne : a ≠ l := by
    rintro rfl
    exact t.apart_temporary p a ha' hl'
  have herased : (t'.erase a).find? l ≠ some .directory := by
    rwa [find?_erase_of_ne t' hne.symm]
  have hfile : t'.find? a ≠ some .directory := by
    rw [hn]
    exact fun he => by cases he
  have hchanges : ChangesOnly (fun l => t.LeadsTo p l ∨ t.LeadsTo (temporary p) l) t
      ((t'.erase a).set l (.file content)) := by
    have herase : ChangesOnly (fun l => t.LeadsTo p l ∨ t.LeadsTo (temporary p) l) t' (t'.erase a) :=
      .erase (.inr ha') hfile
    exact ((h.changes.mono fun _ => .inr).trans herase).trans (.set (.inl hl') herased)
  refine ⟨hchanges, ?_, a, hchanges.leadsTo_iff.mpr ha', ?_⟩
  · rw [nodeAt?_of_leadsTo (hchanges.leadsTo_iff.mpr hl'), find?_set_self]
  · rw [find?_set_of_ne _ _ hne, find?_erase_self]

/-- A second replacement by the same content changes nothing. -/
theorem Replaced.changes_again {t'' : FileTree} (h : t.Replaced t' p content)
    (h' : t'.Replaced t'' p content) : ChangesOnly (fun _ => False) t' t'' := by
  refine ⟨h'.changes.cwd, h'.changes.isDirectory, fun l _ => ?_⟩
  by_cases hl : t'.LeadsTo p l
  · have hl'' : t''.LeadsTo p l := h'.changes.leadsTo_iff.mpr hl
    rw [← nodeAt?_of_leadsTo hl, ← nodeAt?_of_leadsTo hl'', h.content, h'.content]
  by_cases ha : t'.LeadsTo (temporary p) l
  · have ha'' : t''.LeadsTo (temporary p) l := h'.changes.leadsTo_iff.mpr ha
    rw [← nodeAt?_of_leadsTo ha, ← nodeAt?_of_leadsTo ha'', h.nodeAt?_temporary,
      h'.nodeAt?_temporary]
  · exact h'.changes.find? l (not_or.mpr ⟨hl, ha⟩)

/-- Once the temporary is there, a replacement comes down to moving it. -/
theorem exists_replace_eq_rename (hcreate : t.applyOp (.create (temporary p)) = .ok t')
    (content : Bytes) : ∃ t'', t.HasDraft t'' p content ∧
      t.replace p content = t''.applyOps [.rename (temporary p) p] := by
  obtain ⟨t'', hwrite, hdraft⟩ := (hasDraft_of_create hcreate).write content
  have hsync : t''.applyOp (.sync (temporary p)) = .ok t'' := rfl
  refine ⟨t'', hdraft, ?_⟩
  rw [replace, replaceOps, applyOps_cons_of_ok hcreate, applyOps_cons_of_ok hwrite,
    applyOps_cons_of_ok hsync]

/-- A replacement fails and has touched the temporary only, or it is complete. -/
theorem replace_cases (t : FileTree) (p : String) (content : Bytes) :
    (∃ e t', t.replace p content = (.error e, t') ∧
      ChangesOnly (t.LeadsTo (temporary p)) t t') ∨
    ∃ t', t.replace p content = (.ok (), t') ∧ t.Replaced t' p content := by
  cases hcreate : t.applyOp (.create (temporary p)) with
  | error e => exact .inl ⟨e, t, applyOps_cons_of_error hcreate, .refl _ t⟩
  | ok _ =>
    obtain ⟨t₁, hdraft, hreplace⟩ := exists_replace_eq_rename hcreate content
    rw [hreplace]
    cases hrename : t₁.applyOp (.rename (temporary p) p) with
    | error e => exact .inl ⟨e, t₁, applyOps_cons_of_error hrename, hdraft.changes⟩
    | ok t₂ => exact .inr ⟨t₂, applyOps_cons_of_ok hrename, hdraft.replaced hrename⟩

/-- A replacement succeeds if the file and its temporary are files or can be made. -/
theorem exists_replace (content : Bytes) (ha : t.LeadsTo (temporary p) a)
    (hnot : t.find? a ≠ some .directory) (hl : t.LeadsTo p l)
    (hnot' : t.find? l ≠ some .directory) :
    ∃ t', t.replace p content = (.ok (), t') ∧ t.Replaced t' p content := by
  obtain ⟨t₁, hdraft, hreplace⟩ :=
    exists_replace_eq_rename (create_temporary_eq_ok.mpr ⟨a, ha, hnot, rfl⟩) content
  obtain ⟨a', ha', hfile⟩ := nodeAt?_eq_some.mp hdraft.draft
  have hl₁ := hdraft.changes.leadsTo_iff.mpr hl
  have hnot₁ := mt (hdraft.changes.isDirectory l).mp hnot'
  have hrename := rename_eq_ok.mpr ⟨a', l, _, ha', hl₁, hfile, hnot₁, rfl⟩
  refine ⟨_, ?_, hdraft.replaced hrename⟩
  rw [hreplace]
  exact applyOps_cons_of_ok hrename

/-- A replacement that is stopped before its end has touched the temporary only. -/
theorem stopped_replace {ops : List FileOp} (t : FileTree)
    (h : StoppedIn (replaceOps p content) ops) :
    ChangesOnly (t.LeadsTo (temporary p)) t (t.applyOps ops).2 ∨ ops = replaceOps p content := by
  unfold replaceOps at h
  cases h with
  | before => exact .inl (.refl _ t)
  | after _ h =>
    cases hcreate : t.applyOp (.create (temporary p)) with
    | error e =>
      rw [applyOps_cons_of_error hcreate]
      exact .inl (.refl _ t)
    | ok t₁ =>
      have hdraft := hasDraft_of_create hcreate
      rw [applyOps_cons_of_ok hcreate]
      cases h with
      | before => exact .inl hdraft.changes
      | inside _ _ _ n =>
        obtain ⟨t₂, hwrite, hdraft⟩ := hdraft.write (content.take n)
        rw [applyOps_cons_of_ok hwrite]
        exact .inl hdraft.changes
      | after _ h =>
        obtain ⟨t₂, hwrite, hdraft⟩ := hdraft.write content
        rw [applyOps_cons_of_ok hwrite]
        cases h with
        | before => exact .inl hdraft.changes
        | after _ h =>
          cases h with
          | before => exact .inl hdraft.changes
          | after _ h =>
            cases h with
            | before => exact .inr rfl

end FileTree
end ChainRollback

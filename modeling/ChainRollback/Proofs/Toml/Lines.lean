import ChainRollback.Config
import ChainRollback.Proofs.Toml.Values

/-! # Documents of one pair to a line

The lines are read one by one, and each puts its item under its key. If no key occurs twice, the
table in the end has the entries in the order of the lines.
-/
namespace ChainRollback.Toml

/-- A key that needs no quotes. -/
structure IsBareKey (key : String) : Prop where
  nonempty : key.toList ≠ []
  bare : ∀ c ∈ key.toList, isBare c = true

instance (key : String) : Decidable (IsBareKey key) :=
  decidable_of_iff (key.toList ≠ [] ∧ key.toList.all isBare = true)
    ⟨fun h => ⟨h.1, List.all_eq_true.mp h.2⟩, fun h => ⟨h.nonempty, List.all_eq_true.mpr h.bare⟩⟩

/-- A line of a document: a key with a value and the item that the value is read as. -/
structure Entry where
  key : String
  value : List Char
  item : Item
  isBareKey : IsBareKey key
  readsAs : ReadsAs value item

namespace Entry

def line (e : Entry) : List Char := Config.line e.key e.value

def pair (e : Entry) : String × Item := (e.key, e.item)

end Entry

def tableOf (es : List Entry) : Table := .mk false false (es.map Entry.pair)

/-- The builder behind some lines. -/
def builderOf (es : List Entry) : Builder := { Builder.start with current := tableOf es }

section
variable {c : Char} {key : String} {rest : List Char} {e : Entry} {es done : List Entry}

theorem IsBareKey.exists_cons (h : IsBareKey key) :
    ∃ c t, key.toList = c :: t ∧ isBare c = true := by
  cases hkey : key.toList with
  | nil => exact absurd hkey h.nonempty
  | cons c t => exact ⟨c, t, rfl, h.bare c (hkey ▸ List.mem_cons_self)⟩

theorem IsBareKey.readPart (h : IsBareKey key) (rest : List Char) :
    readPart (key.toList ++ ' ' :: rest) = some (key, ' ' :: rest) := by
  have htake : (key.toList ++ ' ' :: rest).takeWhile isBare = key.toList := by
    rw [List.takeWhile_append_of_pos h.bare, List.takeWhile_cons_of_neg (by decide),
      List.append_nil]
  have hdrop : (key.toList ++ ' ' :: rest).dropWhile isBare = ' ' :: rest := by
    rw [List.dropWhile_append_of_pos h.bare, List.dropWhile_cons_of_neg (by decide)]
  obtain ⟨c, t, hkey, hc⟩ := h.exists_cons
  have hdouble : c ≠ '"' := ne_of_holds hc rfl
  have hsingle : c ≠ '\'' := ne_of_holds hc rfl
  have hlist : key.toList ++ ' ' :: rest = c :: (t ++ ' ' :: rest) := by rw [hkey, List.cons_append]
  rw [hlist, Toml.readPart, if_neg hdouble, if_neg hsingle, if_pos hc, ← hlist, htake, hdrop,
    String.ofList_toList]

theorem IsBareKey.skipBlanks (h : IsBareKey key) (rest : List Char) :
    skipBlanks (key.toList ++ rest) = key.toList ++ rest := by
  obtain ⟨c, t, hkey, hc⟩ := h.exists_cons
  rw [hkey, List.cons_append, skipBlanks_cons (isBlank_of_holds hc rfl rfl)]

theorem IsBareKey.readPath (h : IsBareKey key) (rest : List Char) :
    readPath (key.toList ++ ' ' :: '=' :: rest) = some (([], key), '=' :: rest) := by
  have hkey : readKey 79 (key.toList ++ ' ' :: '=' :: rest) = some ([key], '=' :: rest) := by
    rw [readKey, h.skipBlanks, h.readPart]
    rfl
  rw [Toml.readPath, hkey]
  rfl

/-! The table of some entries -/

theorem find?_tableOf (h : (es.map Entry.key).Nodup) (he : e ∈ es) :
    (tableOf es).find? e.key = some e.item := by
  induction es with
  | nil => cases he
  | cons d es ih =>
    obtain ⟨hnew, hrest⟩ := List.nodup_cons.mp h
    rcases List.mem_cons.mp he with rfl | hmem
    · exact List.lookup_cons_self
    · have hne : e.key ≠ d.key := fun heq => hnew (List.mem_map.mpr ⟨e, hmem, heq⟩)
      have hbeq : (e.key == d.pair.1) = false := beq_false_of_ne hne
      have hnext : (tableOf (d :: es)).find? e.key = (tableOf es).find? e.key := by
        show List.lookup e.key (d.pair :: es.map Entry.pair) = _
        rw [List.lookup_cons, hbeq]
        rfl
      rw [hnext]
      exact ih hrest hmem

theorem put_of_new (h : e.key ∉ es.map Entry.key) :
    (builderOf es).put [] e.key e.item = some (builderOf (es ++ [e])) := by
  have hnone : (tableOf es).find? e.key = none := by
    refine List.lookup_eq_none_iff.mpr ?_
    intro p hp
    obtain ⟨d, hd, rfl⟩ := List.mem_map.mp hp
    have hne : e.key ≠ d.key := fun heq => h (List.mem_map.mpr ⟨d, hd, heq.symm⟩)
    exact bne_iff_ne.mpr hne
  have hadd : (tableOf es).add e.key e.item = tableOf (es ++ [e]) := by
    simp [Table.add, tableOf, Table.implicit, Table.dotted, Table.entries, Entry.pair]
  have hput : (tableOf es).putValue false [] e.key e.item = some (tableOf (es ++ [e])) := by
    rw [← hadd, Table.putValue, Table.descend, if_neg (by simp [tableOf, Table.dotted]), hnone]
    rfl
  show ((tableOf es).putValue false [] e.key e.item).map _ = _
  rw [hput]
  rfl

/-! One line -/

theorem Entry.line_append (e : Entry) (rest : List Char) :
    e.line ++ rest = e.key.toList ++ ' ' :: '=' :: ' ' :: (e.value ++ '\n' :: rest) := by
  simp [Entry.line, Config.line]

theorem readPair_line (h : e.key ∉ es.map Entry.key) (rest : List Char) :
    readPair (builderOf es) (e.line ++ rest) = some (builderOf (es ++ [e]), rest) := by
  have hskip : skipBlanks (' ' :: (e.value ++ '\n' :: rest)) = e.value ++ '\n' :: rest :=
    e.readsAs.start rest
  rw [e.line_append, readPair, e.isBareKey.readPath]
  have hvalue := e.readsAs.reads (2 * (e.value ++ '\n' :: rest).length + 1) rest
  have hend : endLine? ('\n' :: rest) = some rest := rfl
  simp only [Option.bind_eq_bind, Option.bind_some, expect, if_true, hskip, hvalue, hend,
    put_of_new h]
  rfl

/-- A line moves the builder on by its entry. -/
theorem readLines_line (h : e.key ∉ es.map Entry.key) (fuel : Nat) (rest : List Char) :
    readLines (fuel + 1) (builderOf es) (e.line ++ rest) =
      readLines fuel (builderOf (es ++ [e])) rest := by
  have hpair := readPair_line h rest
  rw [readLines]
  rw [e.line_append] at hpair ⊢
  rw [e.isBareKey.skipBlanks]
  obtain ⟨c, t, hkey, hc⟩ := e.isBareKey.exists_cons
  have hend : ¬(c = '\n' ∨ c = '\r' ∨ c = '#') := by
    rintro (rfl | rfl | rfl) <;> cases hc
  have hheader : c ≠ '[' := ne_of_holds hc rfl
  rw [hkey, List.cons_append] at hpair ⊢
  simp only [if_neg hend, if_neg hheader, hpair]

/-! Many lines -/

theorem readLines_lines {fuel : Nat} (hnew : ((done ++ es).map Entry.key).Nodup)
    (hfuel : es.length < fuel) :
    readLines fuel (builderOf done) (es.flatMap Entry.line) = some (builderOf (done ++ es)) := by
  -- The builder holds the entries read so far, so they are kept beside those to come.
  induction es generalizing done fuel with
  | nil =>
    cases fuel with
    | zero => cases hfuel
    | succ fuel => simp [readLines, skipBlanks]
  | cons e es ih =>
    cases fuel with
    | zero => cases hfuel
    | succ fuel =>
      have hmoved : done ++ e :: es = (done ++ [e]) ++ es := by simp
      have hfresh : e.key ∉ done.map Entry.key := by
        rw [List.map_append, List.nodup_append] at hnew
        intro hmem
        exact hnew.2.2 _ hmem e.key (by simp) rfl
      rw [List.flatMap_cons, readLines_line hfresh, hmoved]
      exact ih (hmoved ▸ hnew) (Nat.lt_of_succ_lt_succ hfuel)

theorem length_le_length_lines (es : List Entry) :
    es.length ≤ (es.flatMap Entry.line).length := by
  induction es with
  | nil => exact Nat.le_refl _
  | cons e es ih =>
    have hline : 0 < e.line.length := by
      rw [← List.append_nil e.line, e.line_append, List.length_append, List.length_cons]
      omega
    rw [List.flatMap_cons, List.length_append, List.length_cons]
    omega

theorem ne_mark_of_lines (es : List Entry) (rest : List Char) :
    es.flatMap Entry.line ≠ '\ufeff' :: rest := by
  cases es with
  | nil => simp
  | cons e es =>
    obtain ⟨c, t, hkey, hc⟩ := e.isBareKey.exists_cons
    rw [List.flatMap_cons, e.line_append, hkey, List.cons_append]
    exact fun h => ne_of_holds hc rfl (List.cons.inj h).1

/-- A document of lines with different keys stands for the table of their items. -/
theorem parse_lines (h : (es.map Entry.key).Nodup) :
    parse (String.ofList (es.flatMap Entry.line)) = some (tableOf es) := by
  have hfuel := Nat.lt_succ_of_le (length_le_length_lines es)
  have hread : readLines _ (builderOf []) _ = some (builderOf ([] ++ es)) := readLines_lines h hfuel
  unfold parse
  rw [String.toList_ofList]
  split
  · rename_i hmark
    exact absurd hmark (ne_mark_of_lines es _)
  · show (readLines _ (builderOf []) _ >>= _) = _
    rw [hread]
    rfl

end
end ChainRollback.Toml

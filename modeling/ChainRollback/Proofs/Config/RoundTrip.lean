import ChainRollback.Proofs.Toml.Lines

/-! # Configurations read back

Each field of a configuration has a line, and the fields are read back from the table of these
lines. What can fail is the writing: a size may be beyond the numbers of a document, and a string
may have more quotes in a row than are counted.
-/
namespace ChainRollback.Config
open Toml

/-- The greatest size that a document can hold. -/
def greatestSize : Nat := 0x7fffffffffffffff

/-- There is a text unless the size is too large, and the configuration is read back from it. -/
structure RoundTrips (c : Config) : Prop where
  hasText : (∃ text, c.toToml = .ok text) ↔ c.mapSize.toNat ≤ greatestSize
  readsBack : ∀ text, c.toToml = .ok text → ofToml text = some c

/-- A string of the configuration has 256 quotes of one kind in a row. -/
def HasLongRun (c : Config) : Prop :=
  ∃ s ∈ [c.dataDir, c.keyFile, c.stateFile, c.logLevel], Toml.HasLongRun s.toList

section
variable {c : Config} {key : String}

/-! The lines and their entries -/

def textEntry (key : String) (h : IsBareKey key) (s : String) : Entry where
  key := key
  value := (shape s.toList).write s.toList
  item := .scalar (.text s)
  isBareKey := h
  readsAs := by
    have hread := readsAs_text s.toList
    rwa [String.ofList_toList] at hread

def sizeEntry (key : String) (h : IsBareKey key) {size : UInt64}
    (hsize : size.toNat ≤ greatestSize) : Entry where
  key := key
  value := Nat.toDigits 10 size.toNat
  item := .scalar (.integer size.toNat)
  isBareKey := h
  readsAs := readsAs_integer (Nat.lt_succ_of_le hsize)

def entries (c : Config) (hsize : c.mapSize.toNat ≤ greatestSize) : List Entry :=
  [textEntry "data_dir" (by decide) c.dataDir,
    textEntry "priv_validator_key_file" (by decide) c.keyFile,
    textEntry "priv_validator_state_file" (by decide) c.stateFile,
    sizeEntry "map_size" (by decide) hsize,
    textEntry "log_format" (by decide) c.logFormat.name,
    textEntry "log_level" (by decide) c.logLevel]

theorem valueOf_tableOf {α : Type} {es : List Entry} {e : Entry} (h : (es.map Entry.key).Nodup)
    (he : e ∈ es) (default : α) (read : Item → Option α) :
    valueOf (tableOf es) e.key default read = read e.item := by
  rw [valueOf, find?_tableOf h he]

theorem nodup_entries (hsize : c.mapSize.toNat ≤ greatestSize) :
    ((c.entries hsize).map Entry.key).Nodup := by
  show ["data_dir", "priv_validator_key_file", "priv_validator_state_file", "map_size",
    "log_format", "log_level"].Nodup
  decide

theorem asSize_integer (size : UInt64) : asSize (.scalar (.integer size.toNat)) = some size := by
  rw [asSize, if_pos (Int.natCast_nonneg _), Int.toNat_natCast, UInt64.ofNat_toNat]

theorem ofTable_entries (hsize : c.mapSize.toNat ≤ greatestSize) :
    ofTable (tableOf (c.entries hsize)) = some c := by
  have hread : ∀ e ∈ c.entries hsize, ∀ {α : Type} (default : α) (read : Item → Option α),
      valueOf (tableOf (c.entries hsize)) e.key default read = read e.item :=
    fun e he _ default read => valueOf_tableOf (nodup_entries hsize) he default read
  -- Only what the table holds under the six keys matters from here on.
  generalize tableOf (c.entries hsize) = t at hread ⊢
  simp only [entries, List.forall_mem_cons, textEntry, sizeEntry] at hread
  obtain ⟨hdata, hkey, hstate, hmap, hformat, hlevel, -⟩ := hread
  have hname : asFormat (.scalar (.text c.logFormat.name)) = some c.logFormat :=
    LogFormat.ofName?_name c.logFormat
  rw [ofTable, hdata, hkey, hstate, hmap, hformat, hlevel, asSize_integer, hname]
  rfl

/-! Writing -/

theorem textLine_cases (h : IsBareKey key) (s : String) :
    (Toml.HasLongRun s.toList ∧ textLine key s = .error .add) ∨
      ¬Toml.HasLongRun s.toList ∧ textLine key s = .ok (textEntry key h s).line := by
  rcases renderText_cases s.toList with ⟨hrun, hs⟩ | ⟨hrun, hs⟩
  · exact .inr ⟨hrun, by rw [textLine, hs]; rfl⟩
  · exact .inl ⟨hrun, by rw [textLine, hs]; rfl⟩

theorem lines_cases (hsize : c.mapSize.toNat ≤ greatestSize) :
    (c.HasLongRun ∧ c.lines = .error .add) ∨
      ¬c.HasLongRun ∧ c.lines = .ok ((c.entries hsize).flatMap Entry.line) := by
  have hdata : IsBareKey "data_dir" := by decide
  have hkey : IsBareKey "priv_validator_key_file" := by decide
  have hstate : IsBareKey "priv_validator_state_file" := by decide
  have hlevel : IsBareKey "log_level" := by decide
  have eformat : textLine "log_format" c.logFormat.name =
      .ok (textEntry "log_format" (by decide) c.logFormat.name).line := by
    cases c.logFormat <;> rfl
  -- The first string with a long run ends the writing, whatever comes behind it.
  rcases textLine_cases hdata c.dataDir with ⟨hrun, he⟩ | ⟨ndata, edata⟩
  · exact .inl ⟨⟨_, by simp, hrun⟩, by simp only [lines, he, bind, Except.bind]⟩
  rcases textLine_cases hkey c.keyFile with ⟨hrun, he⟩ | ⟨nkey, ekey⟩
  · exact .inl ⟨⟨_, by simp, hrun⟩, by simp only [lines, edata, he, bind, Except.bind]⟩
  rcases textLine_cases hstate c.stateFile with ⟨hrun, he⟩ | ⟨nstate, estate⟩
  · exact .inl ⟨⟨_, by simp, hrun⟩, by simp only [lines, edata, ekey, he, bind, Except.bind]⟩
  rcases textLine_cases hlevel c.logLevel with ⟨hrun, he⟩ | ⟨nlevel, elevel⟩
  · refine .inl ⟨⟨_, by simp, hrun⟩, ?_⟩
    simp only [lines, edata, ekey, estate, eformat, he, bind, Except.bind]
  · refine .inr ⟨by simp [HasLongRun, ndata, nkey, nstate, nlevel], ?_⟩
    simp only [lines, edata, ekey, estate, eformat, elevel, bind, Except.bind]
    simp [entries, sizeEntry, Entry.line, textEntry, pure, Except.pure]

/-! What becomes of a configuration -/

theorem toToml_of_greatestSize_lt (h : greatestSize < c.mapSize.toNat) :
    c.toToml = .error (.error .serialize) :=
  if_neg (Nat.not_lt.mpr h)

theorem toToml_of_le_greatestSize (h : c.mapSize.toNat ≤ greatestSize) :
    c.toToml = match c.lines with
      | .ok text => .ok (String.ofList text)
      | .error o => .error (.overflow o) :=
  if_pos (Nat.lt_succ_of_le h)

theorem toToml_of_hasLongRun (hsize : c.mapSize.toNat ≤ greatestSize) (h : c.HasLongRun) :
    c.toToml = .error (.overflow .add) := by
  rcases lines_cases hsize with ⟨-, he⟩ | ⟨hnot, -⟩
  · rw [toToml_of_le_greatestSize hsize, he]
  · exact absurd h hnot

theorem exists_text_of_not_hasLongRun (hsize : c.mapSize.toNat ≤ greatestSize)
    (h : ¬c.HasLongRun) : ∃ text, c.toToml = .ok text ∧ ofToml text = some c := by
  rcases lines_cases hsize with ⟨hrun, -⟩ | ⟨-, he⟩
  · exact absurd hrun h
  · refine ⟨_, by rw [toToml_of_le_greatestSize hsize, he], ?_⟩
    rw [ofToml, parse_lines (nodup_entries hsize)]
    exact ofTable_entries hsize

theorem ofToml_of_toToml {text : String} (h : c.toToml = .ok text) : ofToml text = some c := by
  rcases Nat.lt_or_ge greatestSize c.mapSize.toNat with hlarge | hsize
  · cases (toToml_of_greatestSize_lt hlarge).symm.trans h
  · by_cases hrun : c.HasLongRun
    · cases (toToml_of_hasLongRun hsize hrun).symm.trans h
    · obtain ⟨text', htext, hread⟩ := exists_text_of_not_hasLongRun hsize hrun
      obtain rfl : text' = text := Except.ok.inj (htext.symm.trans h)
      exact hread

theorem not_roundTrips_of_hasLongRun (hsize : c.mapSize.toNat ≤ greatestSize)
    (h : c.HasLongRun) : ¬c.RoundTrips := by
  intro hround
  obtain ⟨text, htext⟩ := hround.hasText.mpr hsize
  cases (toToml_of_hasLongRun hsize h).symm.trans htext

/-- A configuration round-trips unless one of its strings has a long run of quotes, on which the
writing of a text overflows. -/
theorem roundTrips_iff (c : Config) :
    (c.RoundTrips ↔ (c.mapSize.toNat ≤ greatestSize → ¬c.HasLongRun)) ∧
      (∀ text, c.toToml = .ok text → ofToml text = some c) ∧
      (c.mapSize.toNat ≤ greatestSize → c.HasLongRun → c.toToml = .error (.overflow .add)) ∧
      (greatestSize < c.mapSize.toNat → c.toToml = .error (.error .serialize)) := by
  refine ⟨⟨fun hround hsize hrun => not_roundTrips_of_hasLongRun hsize hrun hround, fun h => ?_⟩,
    fun _ => ofToml_of_toToml, toToml_of_hasLongRun, toToml_of_greatestSize_lt⟩
  refine ⟨⟨?_, ?_⟩, fun _ => ofToml_of_toToml⟩
  · rintro ⟨text, htext⟩
    refine Nat.le_of_not_lt fun hlarge => ?_
    cases (toToml_of_greatestSize_lt hlarge).symm.trans htext
  · intro hsize
    obtain ⟨text, htext, -⟩ := exists_text_of_not_hasLongRun hsize (h hsize)
    exact ⟨text, htext⟩

end

/-- The default with 256 double quotes for its level. -/
def manyQuotes : Config := { logLevel := String.ofList (List.replicate 256 '"') }

/-- So a size within the bound does not give a text. -/
theorem not_roundTrips_of_manyQuotes : manyQuotes.mapSize.toNat ≤ greatestSize ∧
    manyQuotes.toToml = .error (.overflow .add) ∧ ¬manyQuotes.RoundTrips := by
  have hsize : manyQuotes.mapSize.toNat ≤ greatestSize := by decide
  have hrun : manyQuotes.HasLongRun := by
    refine ⟨manyQuotes.logLevel, by simp, .inl ⟨[], [], ?_⟩⟩
    simp only [manyQuotes, String.toList_ofList, List.nil_append, List.append_nil]
  exact ⟨hsize, toToml_of_hasLongRun hsize hrun, not_roundTrips_of_hasLongRun hsize hrun⟩

end ChainRollback.Config

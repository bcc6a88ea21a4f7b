import Console.Proofs.Settings.Layers
import Console.Proofs.Toml.Lines
import Console.Proofs.Toml.Sections

/-! The document of settings read back. It says the sections of the settings and nothing else if the
    size is an integer of TOML, and its data is a layer with a value for every field that is set. -/

namespace Console.Settings

open Toml
open Entries (keys)

/-! ### Text -/

/-- The fields that an optional text gives. -/
def optionalField (key : Text) (value : Option Text) : List (Text × Toml.Value) :=
  (value.map fun t => (key, .string t)).toList

/-- Settings as sections, without the fields that are not set. -/
def sections (s : Settings) : Sections :=
  [(generalKey, [(flavorKey, .string s.flavor), (showWelcomeKey, .boolean s.showWelcome)]),
    (historyKey,
      (bufferSizeKey, .integer s.bufferSize) :: optionalField storageFileKey s.storageFile),
    (promptKey, optionalField symbolKey s.symbol)]

theorem isBareName_of_all {key : Text} (h : (!key.isEmpty && key.all isBare) = true) :
    IsBareName key := by
  rw [Bool.and_eq_true, Bool.not_eq_true', List.isEmpty_eq_false_iff, List.all_eq_true] at h
  exact ⟨h.1, h.2⟩

theorem isBareName_sectionKey (f : Field) : IsBareName f.sectionKey :=
  isBareName_of_all (by cases f <;> decide)

theorem isBareName_key (f : Field) : IsBareName f.key :=
  isBareName_of_all (by cases f <;> decide)

theorem says_header (f : Field) {rest : Text} {l : List Statement} (h : Says rest l) :
    Says (header f.sectionKey ++ rest) (.header ⟨[], f.sectionKey⟩ :: l) := by
  have hheader : header f.sectionKey ++ rest = '[' :: (f.sectionKey ++ ']' :: '\n' :: rest) := by
    simp [header]
  rw [hheader]
  exact h.header (isBareName_sectionKey f)

theorem says_line (f : Field) {w rest : Text} {v : Toml.Value} {l : List Statement}
    (hw : Spells w v) (h : Says rest l) :
    Says (line f.key w ++ rest) (fieldStatements [(f.key, v)] ++ l) := by
  have hline : line f.key w ++ rest = f.key ++ ' ' :: '=' :: ' ' :: (w ++ '\n' :: rest) := by
    simp [line]
  rw [hline]
  exact h.pair (isBareName_key f) hw

theorem says_optionalLine (f : Field) (value : Option Text) {rest : Text} {l : List Statement}
    (h : Says rest l) :
    Says (optionalLine f.key value ++ rest) (fieldStatements (optionalField f.key value) ++ l) := by
  cases value with
  | none => exact h
  | some t => exact says_line f (spells_quote t) h

theorem says_toToml {s : Settings} (h : s.bufferSize ≤ largestSize) :
    Says s.toToml (sectionStatements s.sections) := by
  have hsize : (s.bufferSize : Int) < Word.half := Int.lt_of_le_of_lt (Int.ofNat_le.2 h) (by decide)
  have hprompt := says_header .symbol (says_optionalLine .symbol s.symbol says_nil)
  have hhistory := says_header .bufferSize (says_line .bufferSize (spells_ofNat hsize)
    (says_optionalLine .storageFile s.storageFile hprompt.newline))
  have hgeneral := says_header .flavor (says_line .flavor (spells_quote s.flavor)
    (says_line .showWelcome (spells_boolean s.showWelcome) hhistory.newline))
  rw [← List.append_nil s.toToml]
  simp only [toToml, List.append_assoc, List.cons_append, List.nil_append]
  exact hgeneral

theorem keys_optionalField (key : Text) (value : Option Text) :
    (keys (optionalField key value)).Sublist [key] := by
  cases value with
  | none => exact List.nil_sublist _
  | some t => exact List.Sublist.refl _

theorem nodup_sections (s : Settings) :
    (keys s.sections).Nodup ∧ ∀ e ∈ s.sections, (keys e.2).Nodup := by
  have hgeneral : [flavorKey, showWelcomeKey].Nodup := by decide
  have hhistory : [bufferSizeKey, storageFileKey].Nodup := by decide
  have hsections : [generalKey, historyKey, promptKey].Nodup := by decide
  refine ⟨hsections, ?_⟩
  simp only [sections, List.forall_mem_cons]
  exact ⟨hgeneral, hhistory.sublist ((keys_optionalField _ _).cons_cons _),
    (List.nodup_cons.2 ⟨List.not_mem_nil, List.nodup_nil⟩).sublist (keys_optionalField symbolKey _),
    fun _ h => nomatch h⟩

theorem parse?_toToml {s : Settings} (h : s.bufferSize ≤ largestSize) :
    Toml.parse? s.toToml =
      some (.table (s.sections.map fun (name, fields) => (name, .table fields))) := by
  obtain ⟨hsections, hfields⟩ := nodup_sections s
  have hmark : s.toToml.head? ≠ some '\ufeff' := by
    have hhead : s.toToml.head? = some '[' := rfl
    rw [hhead]
    decide
  rw [Toml.parse?, statements_of_says (says_toToml h) hmark, Option.bind_some,
    treeOf_sections hsections hfields]

/-! ### Data -/

/-- What the settings give for each field. -/
def given (s : Settings) : Field → Option Data
  | .flavor => some (.text s.flavor)
  | .showWelcome => some (.boolean s.showWelcome)
  | .bufferSize => some (.integer s.bufferSize)
  | .storageFile => s.storageFile.map .text
  | .symbol => s.symbol.map .text

theorem takes_given {s : Settings} {f : Field} {d : Data} (h : s.given f = some d) :
    f.takes d = true := by
  cases f with
  | flavor | showWelcome | bufferSize => exact Option.some.inj h ▸ rfl
  | storageFile | symbol =>
    obtain ⟨t, -, rfl⟩ := Option.map_eq_some_iff.1 h
    rfl

theorem ofTomlEntries_eq_map (l : List (Text × Toml.Value)) :
    Data.ofTomlEntries l = l.map fun (key, v) => (key, Data.ofToml v) := by
  induction l with
  | nil => rw [Data.ofTomlEntries]; rfl
  | cons e l ih =>
    rw [Data.ofTomlEntries, ih]
    rfl

/-- The data of the fields of a section. -/
def dictOf (fields : List (Text × Toml.Value)) : Data :=
  .dict (fields.map fun (key, v) => (key, .ofToml v))

/-- The data of sections. -/
def dataOf (sections : Sections) : List (Text × Data) :=
  sections.map fun (name, fields) => (name, dictOf fields)

theorem ofToml_sections (sections : Sections) :
    Data.ofToml (.table (sections.map fun (name, fields) => (name, .table fields))) =
      .dict (dataOf sections) := by
  rw [Data.ofToml, ofTomlEntries_eq_map, List.map_map]
  refine congrArg Data.dict (List.map_congr_left fun e _ => congrArg (Prod.mk e.1) ?_)
  rw [Data.ofToml, ofTomlEntries_eq_map, dictOf]

/-- In each section the fields are found that the settings give. -/
theorem lookup_sections (s : Settings) (f : Field) : ∃ fields,
    s.sections.lookup f.sectionKey = some fields ∧
      (fields.lookup f.key).map Data.ofToml = s.given f := by
  cases f with
  | flavor => exact ⟨_, rfl, by rw [Field.key]; rfl⟩
  | showWelcome => exact ⟨_, rfl, rfl⟩
  | bufferSize => exact ⟨_, rfl, rfl⟩
  | storageFile =>
    refine ⟨_, rfl, ?_⟩
    cases h : s.storageFile <;> simp only [given, h] <;> rfl
  | symbol =>
    refine ⟨_, rfl, ?_⟩
    cases h : s.symbol <;> simp only [given, h] <;> rfl

theorem valueOf?_dataOf (s : Settings) (f : Field) :
    valueOf? (dataOf s.sections) f = s.given f := by
  obtain ⟨fields, hfields, hvalue⟩ := s.lookup_sections f
  have hsection : (dataOf s.sections).lookup f.sectionKey = some (dictOf fields) := by
    rw [dataOf, Entries.lookup_map, hfields, Option.map_some]
  rw [valueOf?_of_dict hsection, Entries.lookup_map, hvalue]

/-- The data of settings is a layer. -/
theorem isLayer_dataOf (s : Settings) : IsLayer (dataOf s.sections) where
  nodup := by
    rw [dataOf, Entries.keys_map]
    exact s.nodup_sections.1
  section_dict f d h := by
    rw [dataOf, Entries.lookup_map, Option.map_eq_some_iff] at h
    obtain ⟨fields, hfields, rfl⟩ := h
    obtain ⟨before, behind, hsections, -⟩ := List.lookup_eq_some_iff.1 hfields
    have hmem : (f.sectionKey, fields) ∈ s.sections :=
      hsections ▸ List.mem_append_right _ List.mem_cons_self
    refine ⟨_, rfl, ?_⟩
    rw [Entries.keys_map]
    exact s.nodup_sections.2 _ hmem
  takes f d h := takes_given ((s.valueOf?_dataOf f).symm.trans h)

/-! ### Values above the settings -/

/-- A field that is set keeps its value below one of its kind. -/
theorem getD_bind_or {α : Type} {kind : Data → Option α} {upper : Option Data} {d : Data} {a : α}
    (h : ∀ x, upper = some x → (kind x).isSome = true) (hd : kind d = some a) (missing : α) :
    ((upper.or (some d)).bind kind).getD missing = (upper.bind kind).getD a := by
  cases upper with
  | none => rw [Option.none_or, Option.bind_some, hd, Option.bind_none, Option.getD_some,
      Option.getD_none]
  | some x =>
    obtain ⟨b, hb⟩ := Option.isSome_iff_exists.1 (h x rfl)
    rw [Option.some_or, Option.bind_some, hb, Option.getD_some, Option.getD_some]

theorem or_bind_or {upper : Option Data} (h : ∀ x, upper = some x → x.text?.isSome = true)
    (value : Option Text) :
    ((upper.or (value.map .text)).bind Data.text?).or none = (upper.bind Data.text?).or value := by
  cases upper with
  | none => cases value <;> rfl
  | some x =>
    obtain ⟨t, ht⟩ := Option.isSome_iff_exists.1 (h x rfl)
    rw [Option.some_or, Option.bind_some, ht, Option.some_or, Option.some_or]

/-- Values of the right kinds above those that settings give override the settings. -/
theorem default_overriddenBy {s : Settings} {upper : Field → Option Data}
    (h : ∀ f d, upper f = some d → f.takes d = true) :
    default.overriddenBy (fun f => (upper f).or (s.given f)) = s.overriddenBy upper := by
  have hsize : (Data.integer s.bufferSize).size? = some s.bufferSize := by
    rw [Data.size?, if_pos (Int.natCast_nonneg _), Int.toNat_natCast]
  unfold overriddenBy
  simp only [given]
  rw [getD_bind_or (h .flavor) rfl, getD_bind_or (h .showWelcome) rfl,
    getD_bind_or (h .bufferSize) hsize, ← or_bind_or (h .storageFile), ← or_bind_or (h .symbol)]
  rfl

end Console.Settings

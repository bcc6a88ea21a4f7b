import Console.Proofs.Entries
import Console.Settings.Basic

/-! Data from several sources, one layer above the other. A layer may have a value for each field of
    the settings, and none that is of another kind. The value of a field in two layers together is
    that of the upper layer where it has one, and what is read from a layer are its values, with the
    defaults for the fields that it does not have. -/

namespace Console.Settings

open Entries (keys)

/-! ### Fields -/

/-- The fields of the settings. -/
inductive Field where
  | flavor
  | showWelcome
  | bufferSize
  | storageFile
  | symbol
  deriving DecidableEq, Repr

namespace Field

/-- The section in which a field is. -/
def sectionKey : Field → Text
  | .flavor | .showWelcome => generalKey
  | .bufferSize | .storageFile => historyKey
  | .symbol => promptKey

/-- The key of a field in its section. -/
def key : Field → Text
  | .flavor => flavorKey
  | .showWelcome => showWelcomeKey
  | .bufferSize => bufferSizeKey
  | .storageFile => storageFileKey
  | .symbol => symbolKey

/-- The keys that lead to a field. -/
def path (f : Field) : List Text := [f.sectionKey, f.key]

end Field

/-! ### Kinds -/

namespace Data

/-- The text that a piece of data is. -/
def text? : Data → Option Text
  | .text t => some t
  | _ => none

/-- The truth value that a piece of data is. -/
def boolean? : Data → Option Bool
  | .boolean b => some b
  | _ => none

/-- The size that a piece of data is, an integer that is not negative. -/
def size? : Data → Option Nat
  | .natural n => some n
  | .integer n => if 0 ≤ n then some n.toNat else none
  | _ => none

end Data

/-- Whether a piece of data is of the kind of a field. -/
def Field.takes (f : Field) (d : Data) : Bool :=
  match f with
  | .flavor | .storageFile | .symbol => d.text?.isSome
  | .showWelcome => d.boolean?.isSome
  | .bufferSize => d.size?.isSome

/-- Settings with other values for the fields that are given one. -/
def overriddenBy (s : Settings) (given : Field → Option Data) : Settings where
  flavor := ((given .flavor).bind Data.text?).getD s.flavor
  showWelcome := ((given .showWelcome).bind Data.boolean?).getD s.showWelcome
  bufferSize := ((given .bufferSize).bind Data.size?).getD s.bufferSize
  storageFile := ((given .storageFile).bind Data.text?).or s.storageFile
  symbol := ((given .symbol).bind Data.text?).or s.symbol

/-- A value of the kind of a field is no dictionary, so it takes the place of an earlier one. -/
theorem merge_of_takes {f : Field} {d : Data} (h : f.takes d = true) (earlier : Data) :
    earlier.merge d = d := by
  cases d with
  | dict entries => cases f <;> exact nomatch h
  | _ => rw [Data.merge]; exact nofun

/-! ### Layers -/

/-- The entries of a section. -/
def fieldsOf (l : List (Text × Data)) (name : Text) : List (Text × Data) :=
  match l.lookup name with
  | some (.dict fields) => fields
  | _ => []

/-- The value of a field. -/
def valueOf? (l : List (Text × Data)) (f : Field) : Option Data :=
  (fieldsOf l f.sectionKey).lookup f.key

/-- Entries from which settings can be read: the sections of the settings are dictionaries, and the
    values of the fields are of their kinds. -/
structure IsLayer (l : List (Text × Data)) : Prop where
  nodup : (keys l).Nodup
  section_dict : ∀ (f : Field) d, l.lookup f.sectionKey = some d →
    ∃ fields, d = .dict fields ∧ (keys fields).Nodup
  takes : ∀ f d, valueOf? l f = some d → f.takes d = true

/-! ### Merging -/

/-- The value of a key in two dictionaries together. -/
theorem lookup_mergeEntries {before later : List (Text × Data)} (h : (keys later).Nodup)
    (key : Text) : (Data.mergeEntries before later).lookup key =
      match later.lookup key, before.lookup key with
      | none, d => d
      | some d, none => some d
      | some d, some earlier => some (earlier.merge d) := by
  induction later generalizing before with
  | nil => rw [Data.mergeEntries]; rfl
  | cons e later ih =>
    obtain ⟨other, d⟩ := e
    obtain ⟨hother, hrest⟩ := List.nodup_cons.1 h
    rw [Data.mergeEntries]
    by_cases hkey : key = other
    · subst hkey
      have hnone : later.lookup key = none := Entries.lookup_eq_none.2 hother
      rw [List.lookup_cons_self]
      split <;> rename_i hbefore <;>
        simp [ih hrest, hnone, hbefore, Entries.lookup_put_self]
    · rw [List.lookup_cons, beq_false_of_ne hkey]
      split <;> rw [ih hrest, Entries.lookup_put_of_ne hkey]

theorem nodup_mergeEntries {before : List (Text × Data)} (h : (keys before).Nodup)
    (later : List (Text × Data)) : (keys (Data.mergeEntries before later)).Nodup := by
  induction later generalizing before with
  | nil => rwa [Data.mergeEntries]
  | cons e later ih =>
    obtain ⟨key, d⟩ := e
    rw [Data.mergeEntries]
    split <;> exact ih (Entries.nodup_put h key _)

variable {l before later : List (Text × Data)}

theorem valueOf?_of_none {f : Field} (h : l.lookup f.sectionKey = none) : valueOf? l f = none := by
  rw [valueOf?, fieldsOf, h]
  rfl

theorem valueOf?_of_dict {f : Field} {fields : List (Text × Data)}
    (h : l.lookup f.sectionKey = some (.dict fields)) : valueOf? l f = fields.lookup f.key := by
  rw [valueOf?, fieldsOf, h]

theorem IsLayer.lookup_section (h : IsLayer l) (f : Field) : l.lookup f.sectionKey = none ∨
    ∃ fields, l.lookup f.sectionKey = some (.dict fields) ∧ (keys fields).Nodup := by
  cases hlookup : l.lookup f.sectionKey with
  | none => exact .inl rfl
  | some d =>
    obtain ⟨fields, rfl, hfields⟩ := h.section_dict f d hlookup
    exact .inr ⟨fields, rfl, hfields⟩

/-- A section of two layers together has the fields of both. -/
theorem IsLayer.section_merge (hbefore : IsLayer before) (hlater : IsLayer later) (f : Field) :
    (∀ d, (Data.mergeEntries before later).lookup f.sectionKey = some d →
      ∃ fields, d = .dict fields ∧ (keys fields).Nodup) ∧
    valueOf? (Data.mergeEntries before later) f = (valueOf? later f).or (valueOf? before f) := by
  have hmerge := @lookup_mergeEntries before later hlater.nodup f.sectionKey
  obtain hnone | ⟨fields, hdict, hfields⟩ := hlater.lookup_section f
  · rw [hnone] at hmerge
    rw [hmerge, valueOf?_of_none hnone, Option.none_or]
    refine ⟨hbefore.section_dict f, ?_⟩
    rw [valueOf?, valueOf?, fieldsOf, fieldsOf, hmerge]
  obtain hnone | ⟨earlier, hdict', hearlier⟩ := hbefore.lookup_section f
  · rw [hdict, hnone] at hmerge
    rw [valueOf?_of_none hnone, Option.or_none, valueOf?_of_dict hmerge, valueOf?_of_dict hdict,
      hmerge]
    exact ⟨fun d hd => ⟨fields, (Option.some.inj hd).symm, hfields⟩, rfl⟩
  · rw [hdict, hdict'] at hmerge
    have hboth : (Data.dict earlier).merge (.dict fields) =
        .dict (Data.mergeEntries earlier fields) := by rw [Data.merge]
    dsimp only at hmerge
    rw [hboth] at hmerge
    refine ⟨fun d hd => ⟨_, (Option.some.inj (hmerge.symm.trans hd)).symm,
      nodup_mergeEntries hearlier fields⟩, ?_⟩
    have htakes : ∀ d, fields.lookup f.key = some d → f.takes d = true := fun d hd =>
      hlater.takes f d ((valueOf?_of_dict hdict).trans hd)
    rw [valueOf?_of_dict hmerge, valueOf?_of_dict hdict, valueOf?_of_dict hdict',
      lookup_mergeEntries hfields]
    cases hvalue : fields.lookup f.key with
    | none => rfl
    | some d =>
      cases earlier.lookup f.key with
      | none => rfl
      | some e => exact congrArg some (merge_of_takes (htakes d hvalue) e)

theorem IsLayer.merge (hbefore : IsLayer before) (hlater : IsLayer later) :
    IsLayer (Data.mergeEntries before later) where
  nodup := nodup_mergeEntries hbefore.nodup later
  section_dict f := (hbefore.section_merge hlater f).1
  takes f d h := by
    rw [(hbefore.section_merge hlater f).2, Option.or_eq_some_iff] at h
    obtain h | ⟨-, h⟩ := h
    · exact hlater.takes f d h
    · exact hbefore.takes f d h

/-! ### Reading -/

/-- A section that is missing is read as one without fields. -/
theorem IsLayer.sectionOf_eq (h : IsLayer l) (f : Field) (wanted : Wanted) :
    sectionOf (.dict l) f.sectionKey wanted =
      .ok ⟨[f.sectionKey], .dict (fieldsOf l f.sectionKey)⟩ := by
  obtain hnone | ⟨fields, hdict, -⟩ := h.lookup_section f
  · rw [sectionOf, fieldsOf]
    simp only [hnone, Option.getD_none]
  · rw [sectionOf, fieldsOf]
    simp only [hdict, Option.getD_some]

/-- A field is read from its value if the reading accepts the value, and else has its default. -/
theorem field_eq {α : Type} {f : Field} {reading : Reading α} {kind : Data → Option α}
    (hreading : ∀ path d a, kind d = some a → reading path d = .ok a)
    (hkind : ∀ d, valueOf? l f = some d → (kind d).isSome = true) (place : Nat) (missing : α) :
    (⟨[f.sectionKey], .dict (fieldsOf l f.sectionKey)⟩ : Section).field place f.key missing
      reading = .ok (((valueOf? l f).bind kind).getD missing) := by
  unfold Section.field Section.find?
  rw [valueOf?] at hkind ⊢
  dsimp only
  cases hvalue : (fieldsOf l f.sectionKey).lookup f.key with
  | none => rfl
  | some d =>
    obtain ⟨a, ha⟩ := Option.isSome_iff_exists.1 (hkind d hvalue)
    rw [Option.map_some, Option.bind_some, ha]
    exact hreading _ d a ha

theorem readText_eq (wanted : Wanted) (path : List Text) (d : Data) (t : Text)
    (h : d.text? = some t) : readText wanted path d = .ok t := by
  cases d with
  | text => exact congrArg Except.ok (Option.some.inj h)
  | _ => exact nomatch h

theorem readBoolean_eq (path : List Text) (d : Data) (b : Bool) (h : d.boolean? = some b) :
    readBoolean path d = .ok b := by
  cases d with
  | boolean => exact congrArg Except.ok (Option.some.inj h)
  | _ => exact nomatch h

theorem readSize_eq (path : List Text) (d : Data) (n : Nat) (h : d.size? = some n) :
    readSize path d = .ok n := by
  cases d with
  | natural => exact congrArg Except.ok (Option.some.inj h)
  | integer k =>
    obtain ⟨hk, hn⟩ := Option.ite_none_right_eq_some.1 h
    exact (if_pos hk).trans (congrArg Except.ok (Option.some.inj hn))
  | _ => exact nomatch h

/-- An optional field is missing by default. -/
theorem optionalField_eq {f : Field} (wanted : Wanted)
    (hkind : ∀ d, valueOf? l f = some d → d.text?.isSome = true) (place : Nat) :
    (⟨[f.sectionKey], .dict (fieldsOf l f.sectionKey)⟩ : Section).field place f.key none
      (fun path d => (readText wanted path d).map some) =
        .ok (((valueOf? l f).bind Data.text?).or none) := by
  have hreading : ∀ path (d : Data) t, d.text?.map some = some t →
      (readText wanted path d).map some = .ok t := by
    intro path d t h
    obtain ⟨t, ht, rfl⟩ := Option.map_eq_some_iff.1 h
    rw [readText_eq wanted path d t ht]
    rfl
  rw [field_eq hreading fun d hd => (Option.isSome_map ..).trans (hkind d hd)]
  cases valueOf? l f with
  | none => rfl
  | some d =>
    rw [Option.bind_some, Option.bind_some]
    cases d.text? <;> rfl

/-- What is read from a layer are its values above the defaults. -/
theorem IsLayer.ofData_eq (h : IsLayer l) :
    ofData (.dict l) = .ok (default.overriddenBy (valueOf? l)) := by
  have hgeneral := h.sectionOf_eq .flavor .general
  have hflavor := field_eq (readText_eq .text) (h.takes .flavor) 0 default.flavor
  have hwelcome := field_eq readBoolean_eq (h.takes .showWelcome) 1 default.showWelcome
  have hhistory := h.sectionOf_eq .bufferSize .history
  have hsize := field_eq readSize_eq (h.takes .bufferSize) 0 default.bufferSize
  have hstorage := optionalField_eq .path (h.takes .storageFile) 1
  have hprompt := h.sectionOf_eq .symbol .prompt
  have hsymbol := optionalField_eq .text (h.takes .symbol) 0
  simp only [Field.sectionKey, Field.key] at hgeneral hflavor hwelcome
  simp only [Field.sectionKey, Field.key] at hhistory hsize hstorage hprompt hsymbol
  simp only [ofData, bind, Except.bind, hgeneral, hflavor, hwelcome, hhistory, hsize, hstorage,
    hprompt, hsymbol]
  rfl

end Console.Settings

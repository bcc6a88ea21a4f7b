import Console.Proofs.Entries
import Console.Toml.Document

/-! The tree of a document of sections. Where no two sections have the same name and no two fields
    of a section the same key, no statement contradicts an earlier one, and the document is the
    table of its sections, each a table of its fields. -/

namespace Console.Toml

open Entries (keys)

/-! ### Sections -/

/-- A document of sections, each with its fields. -/
abbrev Sections := List (Text × List (Text × Value))

/-- The statements of fields. -/
def fieldStatements (fields : List (Text × Value)) : List Statement :=
  fields.map fun (key, v) => .pair ⟨[], key⟩ v

/-- The statements of sections: for each a header, and then its fields. -/
def sectionStatements (sections : Sections) : List Statement :=
  sections.flatMap fun (name, fields) => .header ⟨[], name⟩ :: fieldStatements fields

/-- The item of a table with a header. -/
def tableOf (fields : List (Text × Value)) : Item :=
  .table false false (fields.map fun (key, v) => (key, .value v))

/-- A document that has come to a section. -/
def Growing.within (entries : List (Text × Item)) (name : Text) (fields : List (Text × Value)) :
    Growing :=
  ⟨.table false false (entries ++ [(name, tableOf fields)]), [name]⟩

variable {entries : List (Text × Item)} {name : Text}

theorem apply_pair {fields : List (Text × Value)} {key : Text} (hname : name ∉ keys entries)
    (hkey : key ∉ keys fields) (v : Value) :
    (Growing.within entries name fields).apply (.pair ⟨[], key⟩ v) =
      some (.within entries name (fields ++ [(key, v)])) := by
  have hlookup : (entries ++ [(name, tableOf fields)]).lookup name = some (tableOf fields) := by
    rw [List.lookup_append, Entries.lookup_eq_none.2 hname, Option.none_or, List.lookup_cons_self]
  have hfree : (fields.map fun (key, v) => (key, Item.value v)).lookup key = none := by
    rwa [Entries.lookup_eq_none, Entries.keys_map]
  have hput (item : Item) : Entries.put name item (entries ++ [(name, tableOf fields)]) =
      entries ++ [(name, item)] := by
    rw [Entries.put_append hname, Entries.put, if_pos rfl]
  simp only [Growing.apply, Growing.within, Item.under, hlookup]
  simpa [tableOf, Item.under, Item.addValue, hfree] using hput _

theorem notMem_of_nodup {fields more : List (Text × Value)} {key : Text} {v : Value}
    (h : (keys (fields ++ (key, v) :: more)).Nodup) : key ∉ keys fields := by
  rw [keys, List.map_append, List.nodup_append] at h
  exact fun hkey => h.2.2 key hkey key List.mem_cons_self rfl

theorem fold_fields (fields : List (Text × Value)) {more : List (Text × Value)} (hname : name ∉ keys entries)
    (h : (keys (fields ++ more)).Nodup) :
    (fieldStatements more).foldlM Growing.apply (.within entries name fields) =
      some (.within entries name (fields ++ more)) := by
  induction more generalizing fields with
  | nil =>
    rw [List.append_nil]
    rfl
  | cons e more ih =>
    obtain ⟨key, v⟩ := e
    have hassoc : fields ++ (key, v) :: more = (fields ++ [(key, v)]) ++ more := by simp
    rw [fieldStatements, List.map_cons, List.foldlM_cons, apply_pair hname (notMem_of_nodup h)]
    rw [hassoc] at h ⊢
    exact ih _ h

theorem apply_header (hname : name ∉ keys entries) (header : List Text) :
    (⟨.table false false entries, header⟩ : Growing).apply (.header ⟨[], name⟩) =
      some (.within entries name []) := by
  simp [Growing.apply, Item.openTable, Item.under, Entries.lookup_eq_none.2 hname, Growing.within,
    tableOf, Item.emptyTable]

theorem fold_sections {sections : Sections} (header : List Text)
    (hnames : (keys entries ++ keys sections).Nodup)
    (hfields : ∀ s ∈ sections, (keys s.2).Nodup) :
    ∃ header', (sectionStatements sections).foldlM Growing.apply
        ⟨.table false false entries, header⟩ =
      some ⟨.table false false (entries ++ sections.map fun (name, fields) =>
        (name, tableOf fields)), header'⟩ := by
  induction sections generalizing entries header with
  | nil => exact ⟨header, by rw [List.map_nil, List.append_nil]; rfl⟩
  | cons s sections ih =>
    obtain ⟨name, fields⟩ := s
    rw [List.forall_mem_cons] at hfields
    have hname : name ∉ keys entries := fun h =>
      (List.nodup_append.1 hnames).2.2 name h name List.mem_cons_self rfl
    have hentries : keys (entries ++ [(name, tableOf fields)]) = keys entries ++ [name] := by
      simp [keys]
    obtain ⟨header', hrest⟩ := @ih (entries ++ [(name, tableOf fields)]) [name]
      (by rw [hentries, List.append_assoc]; exact hnames) hfields.2
    refine ⟨header', ?_⟩
    rw [sectionStatements, List.flatMap_cons, List.cons_append, List.foldlM_cons,
      apply_header hname, Option.bind_eq_bind, Option.bind_some, List.foldlM_append,
      fold_fields [] hname hfields.1, Option.bind_eq_bind, Option.bind_some]
    rw [List.append_assoc] at hrest
    exact hrest

theorem entriesToValues_eq_map (l : List (Text × Item)) :
    Item.entriesToValues l = l.map fun (key, item) => (key, item.toValue) := by
  induction l with
  | nil => rfl
  | cons e l ih =>
    rw [Item.entriesToValues, ih]
    rfl

theorem toValue_tableOf (fields : List (Text × Value)) :
    (tableOf fields).toValue = .table fields := by
  rw [tableOf, Item.toValue, entriesToValues_eq_map, List.map_map]
  refine congrArg Value.table ((List.map_congr_left fun e _ => ?_).trans (List.map_id fields))
  change (e.1, (Item.value e.2).toValue) = e
  rw [Item.toValue]

theorem treeOf_sections {sections : Sections} (hnames : (keys sections).Nodup)
    (hfields : ∀ s ∈ sections, (keys s.2).Nodup) :
    (treeOf (sectionStatements sections)).map Item.toValue =
      some (.table (sections.map fun (name, fields) => (name, .table fields))) := by
  obtain ⟨header, hfold⟩ := @fold_sections [] sections [] hnames hfields
  rw [treeOf, Item.emptyTable, hfold, Option.map_some, Option.map_some, Item.toValue,
    entriesToValues_eq_map, List.nil_append, List.map_map]
  refine congrArg (some ∘ Value.table) (List.map_congr_left fun s _ => ?_)
  exact congrArg (Prod.mk s.1) (toValue_tableOf s.2)

end Console.Toml

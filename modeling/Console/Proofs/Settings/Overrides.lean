import Console.Proofs.Settings.Layers
import Console.Proofs.Settings.Spelling
import Console.Settings.Environment
import Mathlib.Data.List.Induction

/-! Overrides in the environment. A variable whose keys are the path of a field overrides the field,
    and of several the last one does. Where every variable that has to do with a field overrides it
    by a value of its kind, the settings of the environment are a layer with these values. -/

namespace Console

open Settings

/-- All fields. -/
def Settings.Field.all : List Field := [.flavor, .showWelcome, .bufferSize, .storageFile, .symbol]

theorem Settings.Field.mem_all (f : Field) : f ∈ all := by cases f <;> decide

namespace Environment

/-! ### Variables -/

/-- The value that a variable gives for a field. -/
def valueIn? (f : Field) (variable_ : Text × Text) : Option Data :=
  if keys? variable_.1 = some f.path then some (valueOfText variable_.2) else none

/-- The value that the environment has for a field. -/
def value? (env : Environment) (f : Field) : Option Data := env.reverse.findSome? (valueIn? f)

/-- Whether the way along keys leads to a field, into it, or to the section that it is in. -/
def meets (keys : List Text) (f : Field) : Bool := keys.isPrefixOf f.path || f.path.isPrefixOf keys

/-- Whether keys lead to a field whose kind the value is of, or have to do with no field at all. -/
def fits (keys : List Text) (d : Data) : Bool :=
  Field.all.all fun f => !meets keys f || (keys == f.path && f.takes d)

/-- Whether all variables that have to do with settings are overrides of fields, by values of their
    kinds. -/
def wellTyped (env : Environment) : Bool :=
  env.all fun (name, value) => (keys? name).all fun keys => fits keys (valueOfText value)

/-- The variable that overrides a field. -/
def variableOf (f : Field) : Text :=
  "REPLINE_".toList ++ f.sectionKey.map Char.toUpper ++ "__".toList ++ f.key.map Char.toUpper

theorem keys?_variableOf (f : Field) : keys? (variableOf f) = some f.path := by
  cases f <;> decide

theorem meets_iff {keys : List Text} {f : Field} :
    meets keys f = true ↔ keys <+: f.path ∨ f.path <+: keys := by
  rw [meets, Bool.or_eq_true, List.isPrefixOf_iff_prefix, List.isPrefixOf_iff_prefix]

theorem fits_iff {keys : List Text} {d : Data} : fits keys d = true ↔
    ∀ f : Field, meets keys f = true → keys = f.path ∧ f.takes d = true := by
  rw [fits, List.all_eq_true]
  constructor
  · intro h f hmeets
    have hf := h f f.mem_all
    rw [hmeets] at hf
    simpa using hf
  · intro h f _
    cases hmeets : meets keys f with
    | false => rfl
    | true => simpa using h f hmeets

theorem path_injective {f g : Field} (h : f.path = g.path) : f = g := by
  revert h
  cases f <;> cases g <;> decide

/-- A variable that overrides a field by a value of its kind has to do with no other field. -/
theorem fits_path {f : Field} {d : Data} (h : f.takes d = true) : fits f.path d = true := by
  rw [fits_iff]
  intro g hmeets
  have hpath : f.path = g.path := by
    obtain habove | hbelow := meets_iff.1 hmeets
    · exact habove.eq_of_length rfl
    · exact (hbelow.eq_of_length rfl).symm
  exact ⟨hpath, path_injective hpath ▸ h⟩

/-! ### Overrides -/

/-- An override of a field: a value of its kind, and a text that spells it. -/
structure Override where
  field : Field
  value : Data
  text : Text
  takes : field.takes value = true
  spells : Spells text value

/-- The variables of overrides. -/
def ofOverrides (overrides : List Override) : Environment :=
  overrides.map fun o => (variableOf o.field, o.text)

/-- The value that the last override of a field gives. -/
def lastOf (overrides : List Override) (f : Field) : Option Data :=
  (overrides.reverse.find? (·.field = f)).map Override.value

/-- Whether a name begins like those of settings, in any letter case. -/
def isSetting (name : Text) : Bool := (lead.isPrefixOf? (Text.lowerAscii (Text.trim name))).isSome

/-- The variables whose names begin like those of settings. -/
def settingVariables (env : Environment) : Environment := env.filter (isSetting ·.1)

variable {env : Environment} {overrides : List Override}

/-- Other variables say nothing about settings. -/
theorem keys?_eq_none {name : Text} (h : isSetting name = false) : keys? name = none := by
  rw [isSetting, Option.isSome_eq_false_iff, Option.isNone_iff_eq_none] at h
  rw [keys?, h]

theorem findSome?_settingVariables (env : Environment) (f : Field) :
    env.settingVariables.findSome? (valueIn? f) = env.findSome? (valueIn? f) := by
  induction env with
  | nil => rfl
  | cons v env ih =>
    rw [settingVariables] at ih ⊢
    cases hsetting : isSetting v.1 with
    | false =>
      have hnone : valueIn? f v = none := by
        rw [valueIn?, keys?_eq_none hsetting, if_neg nofun]
      rw [List.filter_cons_of_neg (by simp [hsetting]), ih, List.findSome?_cons, hnone]
    | true =>
      have hfilter : (v :: env).filter (isSetting ·.1) = v :: env.filter (isSetting ·.1) :=
        List.filter_cons_of_pos (by exact hsetting)
      rw [hfilter, List.findSome?_cons, List.findSome?_cons, ih]

/-- An override gives its value for its own field. -/
theorem valueIn?_override (o : Override) (f : Field) :
    valueIn? f (variableOf o.field, o.text) = if o.field = f then some o.value else none := by
  rw [valueIn?, keys?_variableOf, o.spells.valueOfText_eq]
  by_cases h : o.field = f
  · rw [if_pos h, if_pos (by rw [h])]
  · rw [if_neg h, if_neg fun hpath => h (path_injective (Option.some.inj hpath))]

/-- Overrides are well-typed, whatever fields they are of and whatever other variables there are. -/
theorem wellTyped_of_overrides (h : env.settingVariables = ofOverrides overrides) :
    env.wellTyped = true := by
  rw [wellTyped, List.all_eq_true]
  rintro ⟨name, value⟩ hmem
  change (keys? name).all (fun keys => fits keys (valueOfText value)) = true
  cases hsetting : isSetting name with
  | false =>
    rw [keys?_eq_none hsetting]
    rfl
  | true =>
    have ho : (name, value) ∈ ofOverrides overrides := h ▸ List.mem_filter.2 ⟨hmem, hsetting⟩
    obtain ⟨o, -, heq⟩ := List.mem_map.1 ho
    obtain ⟨rfl, rfl⟩ := Prod.mk.inj heq
    rw [keys?_variableOf, o.spells.valueOfText_eq]
    exact fits_path o.takes

/-- The last override of a field gives its value. -/
theorem value?_of_overrides (h : env.settingVariables = ofOverrides overrides) (f : Field) :
    env.value? f = lastOf overrides f := by
  have hreverse : settingVariables env.reverse = (ofOverrides overrides).reverse := by
    rw [← h, settingVariables, settingVariables, List.filter_reverse]
  rw [value?, ← findSome?_settingVariables, hreverse, ofOverrides, ← List.map_reverse, lastOf]
  induction overrides.reverse with
  | nil => rfl
  | cons o overrides ih =>
    rw [List.map_cons, List.findSome?_cons, valueIn?_override, List.find?_cons]
    by_cases hfield : o.field = f
    · rw [if_pos hfield, decide_eq_true hfield]
      rfl
    · rw [if_neg hfield, decide_eq_false hfield]
      exact ih

/-! ### Layers -/

/-- Keys that fit do not end at a section. -/
theorem ne_nil_of_fits {name : Text} {rest : List Text} {d : Data} {f : Field}
    (h : fits (name :: rest) d = true) (hname : f.sectionKey = name) : rest ≠ [] := by
  rintro rfl
  have hmeets : meets [name] f = true := meets_iff.2 (.inl ⟨[f.key], by rw [← hname]; rfl⟩)
  exact nomatch congrArg List.length (fits_iff.1 h f hmeets).1

/-- Keys that lead to a field have its value at their end. -/
theorem valueOf?_nest {name : Text} {rest : List Text} {d : Data}
    (h : fits (name :: rest) d = true) (f : Field) :
    valueOf? [(name, nest d rest)] f = if name :: rest = f.path then some d else none := by
  by_cases hname : f.sectionKey = name
  · obtain ⟨key, more, rfl⟩ := List.exists_cons_of_ne_nil (ne_nil_of_fits h hname)
    rw [nest, valueOf?_of_dict (by rw [hname, List.lookup_cons_self])]
    by_cases hkey : f.key = key
    · have hmeets : meets (name :: key :: more) f = true :=
        meets_iff.2 (.inr ⟨more, by rw [Field.path, hname, hkey]; rfl⟩)
      have hpath := (fits_iff.1 h f hmeets).1
      obtain rfl : more = [] := (List.cons.inj (List.cons.inj hpath).2).2
      rw [if_pos hpath, hkey, List.lookup_cons_self, nest]
    · have hpath : name :: key :: more ≠ f.path := fun hpath =>
        hkey (List.cons.inj (List.cons.inj hpath).2).1.symm
      rw [if_neg hpath, List.lookup_cons, beq_false_of_ne hkey]
      rfl
  · have hpath : name :: rest ≠ f.path := fun hpath => hname (List.cons.inj hpath).1.symm
    rw [if_neg hpath, valueOf?_of_none]
    rw [List.lookup_cons, beq_false_of_ne hname]
    rfl

/-- One variable is a layer with the value of the field that it overrides. -/
theorem isLayer_nest {name : Text} {rest : List Text} {d : Data}
    (h : fits (name :: rest) d = true) : IsLayer [(name, nest d rest)] where
  nodup := List.nodup_cons.2 ⟨List.not_mem_nil, List.nodup_nil⟩
  section_dict f x hx := by
    rw [List.lookup_cons] at hx
    split at hx
    · rename_i hname
      obtain ⟨key, more, rfl⟩ :=
        List.exists_cons_of_ne_nil (ne_nil_of_fits h (beq_iff_eq.1 hname))
      exact ⟨_, (Option.some.inj hx).symm, List.nodup_cons.2 ⟨List.not_mem_nil, List.nodup_nil⟩⟩
    · exact nomatch hx
  takes f x hx := by
    rw [valueOf?_nest h, Option.ite_none_right_eq_some] at hx
    obtain ⟨hpath, hx⟩ := hx
    obtain rfl := Option.some.inj hx
    exact (fits_iff.1 h f (meets_iff.2 (.inl (hpath ▸ List.prefix_rfl)))).2

theorem isLayer_nil : IsLayer [] where
  nodup := List.nodup_nil
  section_dict _ _ h := nomatch h
  takes _ _ h := nomatch h

theorem exists_cons_of_fits {keys : List Text} {d : Data} (h : fits keys d = true) :
    ∃ name rest, keys = name :: rest := by
  refine List.exists_cons_of_ne_nil ?_
  rintro rfl
  exact nomatch (fits_iff.1 h .flavor (meets_iff.2 (.inl List.nil_prefix))).1

theorem value?_concat (env : Environment) (name value : Text) (f : Field) :
    value? (env ++ [(name, value)]) f =
      (valueIn? f (name, value)).or (value? env f) := by
  rw [value?, List.reverse_append, List.reverse_singleton, List.singleton_append,
    List.findSome?_cons]
  split <;> rename_i heq <;> rw [heq] <;> rfl

theorem settings_concat (env : Environment) (name value : Text) :
    settings (env ++ [(name, value)]) =
      match keys? name with
      | none => settings env
      | some keys => (settings env).merge (nest (valueOfText value) keys) := by
  rw [settings, List.foldl_append]
  rfl

/-- The settings in a well-typed environment are a layer, with a value for each field that has one
    in the environment. -/
theorem settings_eq {env : Environment} (h : env.wellTyped = true) :
    ∃ l, env.settings = .dict l ∧ IsLayer l ∧ ∀ f, valueOf? l f = env.value? f := by
  induction env using List.reverseRecOn with
  | nil => exact ⟨[], rfl, isLayer_nil, fun _ => rfl⟩
  | append_singleton env e ih =>
    obtain ⟨name, value⟩ := e
    rw [wellTyped, List.all_append, Bool.and_eq_true] at h
    obtain ⟨l, hsettings, hlayer, hvalue⟩ := ih h.1
    have hname : (keys? name).all (fun keys => fits keys (valueOfText value)) = true := by
      simpa using h.2
    rw [settings_concat]
    cases hkeys : keys? name with
    | none =>
      refine ⟨l, hsettings, hlayer, fun f => ?_⟩
      rw [hvalue, value?_concat, valueIn?, hkeys, if_neg nofun, Option.none_or]
    | some keys =>
      rw [hkeys, Option.all_some] at hname
      obtain ⟨key, rest, rfl⟩ := exists_cons_of_fits hname
      have hnest := isLayer_nest hname
      refine ⟨Data.mergeEntries l [(key, nest (valueOfText value) rest)], ?_, hlayer.merge hnest,
        fun f => ?_⟩
      · dsimp only
        rw [hsettings, nest, Data.merge]
      · rw [(hlayer.section_merge hnest f).2, valueOf?_nest hname, hvalue, value?_concat, valueIn?,
          hkeys]
        simp only [Option.some.injEq]

end Environment

end Console

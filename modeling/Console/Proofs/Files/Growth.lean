import Console.Files
import Mathlib.Data.List.Basic

/-! A tree of files that only grows. Directories get entries behind those that they have, links stay
    as they are, and a regular file stays one; so a path that leads to a node goes on leading to it,
    and a path that leads to a free name leads to what has the name later. -/

namespace Console.Files

variable {fs fs' fs'' : Files}

/-! ### Contents -/

/-- What a node holds. -/
def content? (fs : Files) (n : Nat) : Option Content := (fs.node? n).map Node.content

theorem directory?_eq_some {n parent : Nat} {entries : List (Text × Nat)} :
    fs.directory? n = some (parent, entries) ↔
      fs.content? n = some (.directory parent entries) := by
  unfold directory? content?
  rcases fs.node? n with _ | ⟨content, _, _⟩
  · simp
  · cases content <;> simp

theorem link?_eq_some {n : Nat} {target : Text} :
    fs.link? n = some target ↔ fs.content? n = some (.link target) := by
  unfold link? content?
  rcases fs.node? n with _ | ⟨content, _, _⟩
  · simp
  · cases content <;> simp

theorem isFile_iff {n : Nat} : fs.isFile n = true ↔
    (∃ bytes, fs.content? n = some (.file bytes)) ∨ ∃ name, fs.content? n = some (.program name) := by
  unfold isFile content?
  rcases fs.node? n with _ | ⟨content, _, _⟩
  · simp
  · cases content <;> simp

theorem content?_setContent (fs : Files) (n m : Nat) (content : Content) :
    (fs.setContent n content).content? m =
      if n = m then (fs.content? m).map fun _ => content else fs.content? m := by
  simp only [content?, node?, setContent, update, Array.getElem?_modify]
  split <;> simp [Function.comp_def]

theorem content?_push (fs : Files) (node : Node) (m : Nat) :
    ({ fs with nodes := fs.nodes.push node } : Files).content? m =
      if m = fs.nodes.size then some node.content else fs.content? m := by
  simp only [content?, node?, Array.getElem?_push]
  split <;> rfl

theorem content?_size (fs : Files) : fs.content? fs.nodes.size = none := by
  simp [content?, node?]

/-- A node that is added to a directory, and what becomes of the others. -/
theorem content?_add {d parent : Nat} {entries : List (Text × Nat)}
    (hd : fs.directory? d = some (parent, entries)) (name : Text) (content : Content)
    (mode m : Nat) : (fs.add d name content mode).2.content? m =
      if m = fs.nodes.size then some content
      else if m = d then some (.directory parent (entries ++ [(name, fs.nodes.size)]))
      else fs.content? m := by
  have hne : d ≠ fs.nodes.size := by
    rintro rfl
    rw [directory?_eq_some, content?_size] at hd
    exact nomatch hd
  have hpush : ({ fs with nodes := fs.nodes.push ⟨content, mode, fs.now⟩ } : Files).directory? d =
      some (parent, entries) := by
    rw [directory?_eq_some, content?_push, if_neg hne, ← directory?_eq_some]
    exact hd
  simp only [add, updateEntries, hpush, content?_setContent, content?_push]
  by_cases hm : m = fs.nodes.size
  · rw [if_neg fun h => hne (h.trans hm), if_pos hm, if_pos hm]
  · rw [if_neg hm, if_neg hm]
    by_cases hmd : m = d
    · subst hmd
      rw [if_pos rfl, if_pos rfl, directory?_eq_some.1 hd]
      rfl
    · rw [if_neg (Ne.symm hmd), if_neg hmd]

/-! ### Growth -/

/-- One tree is another with more in it, up to the bytes of files. -/
structure Grows (fs fs' : Files) : Prop where
  directory {n parent : Nat} {entries : List (Text × Nat)} :
    fs.directory? n = some (parent, entries) →
      ∃ more, fs'.directory? n = some (parent, entries ++ more)
  link (n : Nat) : fs'.link? n = fs.link? n
  file {n : Nat} : fs.isFile n = true → fs'.isFile n = true

theorem Grows.refl (fs : Files) : Grows fs fs :=
  ⟨fun h => ⟨[], by rw [List.append_nil]; exact h⟩, fun _ => rfl, id⟩

theorem Grows.trans (h : Grows fs fs') (h' : Grows fs' fs'') : Grows fs fs'' where
  directory hd := by
    obtain ⟨more, hd⟩ := h.directory hd
    obtain ⟨more', hd⟩ := h'.directory hd
    exact ⟨more ++ more', by rw [← List.append_assoc]; exact hd⟩
  link n := (h'.link n).trans (h.link n)
  file hf := h'.file (h.file hf)

/-- Other bytes in a file. -/
theorem grows_setContent {n : Nat} (hn : fs.isFile n = true) (bytes : ByteArray) :
    Grows fs (fs.setContent n (.file bytes)) where
  directory {m parent entries} hd := by
    refine ⟨[], ?_⟩
    rw [directory?_eq_some] at hd
    rw [List.append_nil, directory?_eq_some, content?_setContent, if_neg, hd]
    rintro rfl
    rw [isFile_iff, hd] at hn
    simp at hn
  link m := by
    refine Option.ext fun target => ?_
    rw [link?_eq_some, link?_eq_some, content?_setContent]
    split
    · rename_i heq
      subst heq
      rw [isFile_iff] at hn
      obtain ⟨_, hn⟩ | ⟨_, hn⟩ := hn <;> simp [hn]
    · rfl
  file {m} hm := by
    rw [isFile_iff, content?_setContent]
    split
    · rw [isFile_iff] at hm
      obtain ⟨_, hm⟩ | ⟨_, hm⟩ := hm <;> simp [hm]
    · exact isFile_iff.1 hm

/-- Another node under a free name. -/
theorem grows_add {d parent : Nat} {entries : List (Text × Nat)}
    (hd : fs.directory? d = some (parent, entries)) (name : Text) {content : Content}
    (hcontent : ∀ target, content ≠ .link target) (mode : Nat) :
    Grows fs (fs.add d name content mode).2 where
  directory {m parent' entries'} hm := by
    have hne : m ≠ fs.nodes.size := by
      rintro rfl
      rw [directory?_eq_some, content?_size] at hm
      exact nomatch hm
    by_cases hmd : m = d
    · subst hmd
      obtain ⟨rfl, rfl⟩ := Prod.mk.inj (Option.some.inj (hm.symm.trans hd))
      exact ⟨_, by rw [directory?_eq_some, content?_add hd, if_neg hne, if_pos rfl]⟩
    · exact ⟨[], by rw [List.append_nil, directory?_eq_some, content?_add hd, if_neg hne,
        if_neg hmd, ← directory?_eq_some, hm]⟩
  link m := by
    refine Option.ext fun target => ?_
    rw [link?_eq_some, link?_eq_some, content?_add hd]
    split
    · rename_i heq
      subst heq
      simp [content?_size, hcontent]
    split
    · rename_i heq
      subst heq
      simp [directory?_eq_some.1 hd]
    · rfl
  file {m} hm := by
    rw [isFile_iff] at hm ⊢
    rw [content?_add hd, if_neg, if_neg]
    · exact hm
    · rintro rfl
      simp [directory?_eq_some.1 hd] at hm
    · rintro rfl
      simp [content?_size] at hm

/-! ### Paths -/

theorem lookup_append_of_some {entries more : List (Text × Nat)} {name : Text} {n : Nat}
    (h : entries.lookup name = some n) : (entries ++ more).lookup name = some n := by
  rw [List.lookup_append, h]
  rfl

/-- A directory has nothing under a name. -/
def Lacks (fs : Files) (d : Nat) (name : Text) : Prop :=
  ∃ parent entries, fs.directory? d = some (parent, entries) ∧ entries.lookup name = none

/-- A directory has a node under a name, and the node is no link. -/
def Holds (fs : Files) (d : Nat) (name : Text) (n : Nat) : Prop :=
  ∃ parent entries, fs.directory? d = some (parent, entries) ∧ entries.lookup name = some n ∧
    fs.link? n = none

theorem content?_add_size {d parent : Nat} {entries : List (Text × Nat)}
    (hd : fs.directory? d = some (parent, entries)) (name : Text) (content : Content) (mode : Nat) :
    (fs.add d name content mode).2.content? fs.nodes.size = some content := by
  rw [content?_add hd, if_pos rfl]

/-- A node that was added under a free name has that name. -/
theorem holds_add {d parent : Nat} {entries : List (Text × Nat)} {name : Text} {content : Content}
    (hd : fs.directory? d = some (parent, entries)) (hlookup : entries.lookup name = none)
    (hcontent : ∀ target, content ≠ .link target) (mode : Nat) :
    (fs.add d name content mode).2.Holds d name fs.nodes.size := by
  refine ⟨parent, entries ++ [(name, fs.nodes.size)], ?_, ?_, ?_⟩
  · rw [directory?_eq_some, content?_add hd, if_neg, if_pos rfl]
    rintro rfl
    rw [directory?_eq_some, content?_size] at hd
    exact nomatch hd
  · rw [List.lookup_append, hlookup]
    simp
  · refine Option.eq_none_iff_forall_ne_some.2 fun target htarget => ?_
    rw [link?_eq_some, content?_add_size hd] at htarget
    exact hcontent target (Option.some.inj htarget)

/-- What a spot has become in a tree that has grown, where a predicate tells which nodes are reached
    there: a node is reached as before, and at a free name the node that has the name now. -/
inductive Leads (fs fs' : Files) (reaches : Nat → Prop) : Spot → Prop where
  | there {n : Nat} (h : reaches n) : Leads fs fs' reaches (.there n)
  | free {d : Nat} {name : Text} {slash : Bool} (lacks : fs.Lacks d name)
      (h : slash = false → ∀ n, fs'.Holds d name n → reaches n) :
      Leads fs fs' reaches (.free d name slash)

theorem Leads.imp {p q : Nat → Prop} {spot : Spot} (hpq : ∀ n, p n → q n)
    (h : Leads fs fs' p spot) : Leads fs fs' q spot := by
  cases h with
  | there h => exact .there (hpq _ h)
  | free lacks h => exact .free lacks fun hslash n hn => hpq n (h hslash n hn)

/-- The same for where a walk stops; a link that is to be followed is still the same link. -/
inductive LeadsOn (fs fs' : Files) (reaches : Stop → Prop) : Stop → Prop where
  | arrived {spot : Spot} (h : Leads fs fs' (fun n => reaches (.arrived (.there n))) spot) :
      LeadsOn fs fs' reaches (.arrived spot)
  | through {d : Nat} {target : Text} {rest : List Text} (h : reaches (.through d target rest)) :
      LeadsOn fs fs' reaches (.through d target rest)

/-- A walk goes the same way in a tree that has grown. -/
theorem Grows.walk (h : Grows fs fs') {follows : Bool} {names : List Text} {at_ : Nat} {stop : Stop}
    (hwalk : fs.walk follows at_ names = .ok stop) :
    LeadsOn fs fs' (fun stop => fs'.walk follows at_ names = .ok stop) stop := by
  induction names generalizing at_ with
  | nil =>
    obtain rfl := Except.ok.inj hwalk
    exact .arrived (.there rfl)
  | cons name rest ih =>
    rw [Files.walk] at hwalk
    simp only [Files.walk]
    split at hwalk
    · exact nomatch hwalk
    rename_i parent entries hd
    obtain ⟨more, hd'⟩ := h.directory hd
    simp only [hd']
    split at hwalk
    · rename_i hsame
      rw [if_pos hsame]
      exact ih hwalk
    rename_i hsame
    rw [if_neg hsame]
    split at hwalk
    · rename_i hup
      rw [if_pos hup]
      exact ih hwalk
    rename_i hup
    rw [if_neg hup]
    split at hwalk
    · exact nomatch hwalk
    rename_i hlong
    rw [if_neg hlong]
    split at hwalk
    · rename_i hlookup
      split at hwalk
      · obtain rfl := Except.ok.inj hwalk
        refine .arrived (.free ⟨parent, entries, hd, hlookup⟩ fun hslash n hn => ?_)
        obtain ⟨_, _, hd'', hlookup', hlink⟩ := hn
        obtain ⟨rfl, rfl⟩ := Prod.mk.inj (Option.some.inj (hd'.symm.trans hd''))
        obtain rfl : rest = [] := by simpa using hslash
        simp only [hlookup', hlink]
        rfl
      · exact nomatch hwalk
    rename_i n hlookup
    simp only [lookup_append_of_some hlookup, h.link]
    split at hwalk
    · exact ih hwalk
    split at hwalk
    · rename_i hfollows
      obtain rfl := Except.ok.inj hwalk
      exact .through (if_pos hfollows)
    · rename_i hstays
      obtain rfl := Except.ok.inj hwalk
      exact .arrived (.there (if_neg hstays))

theorem Grows.walkThrough_arrived (h : Grows fs fs') {follows : Bool} {links at_ : Nat}
    {names : List Text} {spot : Spot} (hwalk : fs.walk follows at_ names = .ok (.arrived spot)) :
    Leads fs fs' (fun n => fs'.walkThrough follows links at_ names = .ok (.there n)) spot := by
  cases h.walk hwalk with
  | arrived hleads =>
    refine hleads.imp fun n hn => ?_
    unfold Files.walkThrough
    rw [hn]

/-- So does a walk along links. -/
theorem Grows.walkThrough (h : Grows fs fs') {follows : Bool} {links at_ : Nat} {names : List Text}
    {spot : Spot} (hwalk : fs.walkThrough follows links at_ names = .ok spot) :
    Leads fs fs' (fun n => fs'.walkThrough follows links at_ names = .ok (.there n)) spot := by
  induction links generalizing at_ names with
  | zero =>
    unfold Files.walkThrough at hwalk
    split at hwalk
    · exact nomatch hwalk
    · rename_i hstop
      exact Except.ok.inj hwalk ▸ h.walkThrough_arrived hstop
    · exact nomatch hwalk
  | succ links ih =>
    unfold Files.walkThrough at hwalk
    split at hwalk
    · exact nomatch hwalk
    · rename_i hstop
      exact Except.ok.inj hwalk ▸ h.walkThrough_arrived hstop
    · rename_i hstop
      dsimp only at hwalk
      split at hwalk
      · exact nomatch hwalk
      · rename_i htarget
        cases h.walk hstop with
        | through hstop' =>
          refine (ih hwalk).imp fun n hn => ?_
          unfold Files.walkThrough
          rw [hstop']
          dsimp only
          rw [if_neg htarget]
          exact hn

/-- So does a whole path. -/
theorem Grows.resolve (h : Grows fs fs') {base : Nat} {t : Text} {follows : Bool} {spot : Spot}
    (hspot : fs.resolve base t follows = .ok spot) :
    Leads fs fs' (fun n => fs'.resolve base t follows = .ok (.there n)) spot := by
  unfold Files.resolve at hspot ⊢
  split at hspot
  · exact nomatch hspot
  rename_i hnul
  rw [if_neg hnul]
  split at hspot
  · exact nomatch hspot
  rename_i hempty
  rw [if_neg hempty]
  split at hspot
  · exact nomatch hspot
  rename_i hlong
  rw [if_neg hlong]
  exact h.walkThrough hspot

theorem locate_eq_ok {base n : Nat} {t : Text} {follows : Bool} :
    fs.locate base t follows = .ok n ↔ fs.resolve base t follows = .ok (.there n) := by
  unfold locate
  split <;> simp_all

theorem find?_eq_some {base n : Nat} {t : Text} :
    fs.find? base t = some n ↔ fs.locate base t true = .ok n := by
  unfold find?
  cases fs.locate base t true <;> simp [Except.toOption]

/-- A path goes on naming the node that it names. -/
theorem Grows.locate (h : Grows fs fs') {base n : Nat} {t : Text} {follows : Bool}
    (hn : fs.locate base t follows = .ok n) : fs'.locate base t follows = .ok n := by
  rw [locate_eq_ok] at hn ⊢
  cases h.resolve hn with
  | there h => exact h

end Console.Files

import Console.Proofs.Files.Directories
import Console.Proofs.Text.Octets

/-! The parent of a path. The parent is made of the names of the path that lead on, without the last
    of them. A path that leads to something leads through its parent, so the parent is a directory. -/

namespace Console.Files

variable {fs : Files}

/-! ### Names that lead on -/

/-- The names that lead on from a directory; the others stay in it. -/
def steps (names : List Text) : List Text := names.filter fun name => name != [] && name != ['.']

theorem mem_steps {names : List Text} {name : Text} :
    name ∈ steps names ↔ name ∈ names ∧ name ≠ [] ∧ name ≠ ['.'] := by
  simp [steps]

theorem walkThrough_nil_cons {n : Nat} (hn : fs.isDirectory n = true) (links : Nat)
    (names : List Text) :
    fs.walkThrough true links n ([] :: names) = fs.walkThrough true links n names := by
  obtain ⟨⟨parent, entries⟩, hd⟩ := Option.isSome_iff_exists.1 hn
  rw [walkThrough_eq, walkThrough_eq, walk, hd]
  rfl

theorem walkThrough_dot_cons {n : Nat} (hn : fs.isDirectory n = true) (links : Nat)
    (names : List Text) :
    fs.walkThrough true links n (['.'] :: names) = fs.walkThrough true links n names := by
  obtain ⟨⟨parent, entries⟩, hd⟩ := Option.isSome_iff_exists.1 hn
  rw [walkThrough_eq, walkThrough_eq, walk, hd]
  rfl

/-- A walk arrives at the same node without the names that stay where they are. -/
theorem walkThrough_steps {links at_ n : Nat} {names : List Text}
    (h : fs.walkThrough true links at_ names = .ok (.there n)) :
    fs.walkThrough true links at_ (steps names) = .ok (.there n) := by
  induction names generalizing links at_ with
  | nil => exact h
  | cons name rest ih =>
    have hdirectory := isDirectory_of_walkThrough h
    by_cases hnil : name = []
    · subst hnil
      rw [walkThrough_nil_cons hdirectory] at h
      exact ih h
    by_cases hdot : name = ['.']
    · subst hdot
      rw [walkThrough_dot_cons hdirectory] at h
      exact ih h
    -- a name that leads on is gone along in both walks
    rw [← List.singleton_append] at h
    obtain ⟨m, hm⟩ := exists_walkThrough h
    obtain ⟨left, hleft⟩ := walkThrough_append hm
    have hsteps : steps (name :: rest) = [name] ++ steps rest := by
      rw [steps, List.filter_cons_of_pos (by simp [hnil, hdot])]
      rfl
    rw [hleft] at h
    rw [hsteps, hleft]
    exact ih h

/-! ### The parent -/

/-- The parent of a path is empty, or made of the names that lead on without the last. -/
theorem parent?_eq_some {t parent : Text} (h : parent? t = some parent) (hne : parent ≠ []) :
    ∃ above last, steps (Text.splitOn '/' t) = above ++ [last] ∧
      parent = (if t.head? = some '/' then ['/'] else []) ++ Text.join ['/'] above := by
  unfold parent? at h
  dsimp only at h
  split at h
  · split at h
    · exact nomatch h
    · exact absurd (Option.some.inj h).symm hne
  · rename_i last above hreverse
    refine ⟨above.reverse, last, ?_, (Option.some.inj h).symm⟩
    rw [← List.reverse_cons, ← hreverse, List.reverse_reverse]
    rfl

/-- A walk along a path that leads to something is at a directory before the last name. -/
theorem exists_above {links at_ n : Nat} {above : List Text} {last : Text}
    (h : fs.walkThrough true links at_ (above ++ [last]) = .ok (.there n)) :
    ∃ d, fs.walkThrough true links at_ above = .ok (.there d) ∧ fs.isDirectory d = true := by
  obtain ⟨d, hd⟩ := exists_walkThrough h
  obtain ⟨left, hleft⟩ := walkThrough_append hd
  rw [hleft] at h
  exact ⟨d, hd, isDirectory_of_walkThrough h⟩

/-- From a directory a walk along a path that is joined from names is a walk along the names. -/
theorem walkThrough_join {n : Nat} (hn : fs.isDirectory n = true) (links : Nat)
    {names : List Text} (h : ∀ name ∈ names, '/' ∉ name) :
    fs.walkThrough true links n (Text.splitOn '/' (Text.join ['/'] names)) =
      fs.walkThrough true links n names := by
  by_cases hnames : names = []
  · subst hnames
    exact walkThrough_nil_cons hn links []
  · rw [Text.splitOn_join hnames h]

theorem splitOn_slash_cons (rest : Text) :
    Text.splitOn '/' ('/' :: rest) = [] :: Text.splitOn '/' rest := Text.splitOn_append '/' [] rest

theorem start_slash_cons (base : Nat) (rest : Text) :
    start base ('/' :: rest) = (root, [] :: Text.splitOn '/' rest) := by
  rw [start, List.head?_cons, if_pos rfl, splitOn_slash_cons]

/-- A path that is joined from names that lead on is not rooted. -/
theorem head?_join {names : List Text} (h : ∀ name ∈ names, name ≠ [] ∧ '/' ∉ name) :
    (Text.join ['/'] names).head? ≠ some '/' := by
  cases names with
  | nil => exact nofun
  | cons name names =>
    obtain ⟨hne, hslash⟩ := h name List.mem_cons_self
    have hhead : (Text.join ['/'] (name :: names)).head? = name.head? := by
      cases names with
      | nil => rfl
      | cons other names =>
        rw [Text.join_cons _ _ (List.cons_ne_nil _ _), List.head?_append_of_ne_nil _ hne]
    rw [hhead]
    exact fun h => hslash (List.mem_of_mem_head? h)

/-- The names of a path that lead on are names, and have no slash. -/
theorem of_mem_steps_splitOn {t name : Text} (h : name ∈ steps (Text.splitOn '/' t)) :
    name ≠ [] ∧ '/' ∉ name :=
  ⟨(mem_steps.1 h).2.1, Text.notMem_of_mem_splitOn (mem_steps.1 h).1⟩

/-- A part of a path is a path that can be walked, since it is not too long either. -/
theorem hasDirectory_of_sublist {base d : Nat} {t p : Text}
    (ht : '\x00' ∉ t ∧ t ≠ [] ∧ t.length < pathLimit) (hsub : p.Sublist t) (hp : p ≠ [])
    (hwalk : fs.walkThrough true mostLinks (start base p).1 (start base p).2 = .ok (.there d))
    (hd : fs.isDirectory d = true) : fs.HasDirectory base p := by
  obtain ⟨hnul, -, hlong⟩ := ht
  have hshort : p.length < pathLimit := Nat.lt_of_le_of_lt hsub.length_le hlong
  exact ⟨d, locate_eq_ok.2 (resolve_eq_ok.2
    ⟨⟨fun hmem => hnul (hsub.subset hmem), hp, hshort⟩, hwalk⟩), hd⟩

/-- Where a path leads to something its parent leads to a directory. -/
theorem hasDirectory_parent {base n : Nat} {t parent : Text} (h : fs.locate base t true = .ok n)
    (hparent : parent? t = some parent) (hne : parent ≠ []) : fs.HasDirectory base parent := by
  obtain ⟨above, last, hsteps, rfl⟩ := parent?_eq_some hparent hne
  rw [locate_eq_ok, resolve_eq_ok] at h
  obtain ⟨ht, hwalk⟩ := h
  have hnames : ∀ name ∈ above, name ≠ [] ∧ '/' ∉ name := fun name hname =>
    of_mem_steps_splitOn (hsteps ▸ List.mem_append_left [last] hname)
  have habove {names : List Text} (h : steps names = above ++ [last]) : above.Sublist names :=
    (h ▸ List.sublist_append_left above [last]).trans List.filter_sublist
  by_cases hrooted : t.head? = some '/'
  case pos =>
    obtain ⟨rest, rfl⟩ := List.head?_eq_some_iff.1 hrooted
    rw [if_pos hrooted] at hne ⊢
    rw [List.singleton_append] at hne ⊢
    rw [splitOn_slash_cons] at hsteps
    rw [start_slash_cons] at hwalk
    have hroot := isDirectory_of_walkThrough hwalk
    rw [walkThrough_nil_cons hroot] at hwalk
    have hsteps' : steps (Text.splitOn '/' rest) = above ++ [last] := hsteps
    obtain ⟨d, hd, hdirectory⟩ := exists_above (hsteps' ▸ walkThrough_steps hwalk)
    refine hasDirectory_of_sublist ht ?_ hne ?_ hdirectory
    · rw [← Text.join_splitOn '/' rest]
      exact (Text.join_sublist ['/'] (habove hsteps')).cons_cons '/'
    · rw [start_slash_cons, walkThrough_nil_cons hroot,
        walkThrough_join hroot _ fun name hname => (hnames name hname).2]
      exact hd
  case neg =>
    rw [if_neg hrooted, List.nil_append] at hne ⊢
    have hnil : above ≠ [] := fun h => hne (by rw [h]; rfl)
    have hbase : start base (Text.join ['/'] above) = (base, above) := by
      rw [start, if_neg (head?_join hnames),
        Text.splitOn_join hnil fun name hname => (hnames name hname).2]
    have hstart : start base t = (base, Text.splitOn '/' t) := by rw [start, if_neg hrooted]
    rw [hstart] at hwalk
    obtain ⟨d, hd, hdirectory⟩ := exists_above (hsteps ▸ walkThrough_steps hwalk)
    refine hasDirectory_of_sublist ht ?_ hne ?_ hdirectory
    · have hsub := Text.join_sublist ['/'] (habove hsteps)
      rwa [Text.join_splitOn] at hsub
    · rw [hbase]
      exact hd

/-! ### Octets of a parent -/

/-- The parent of the octets of a text is the octets of its parent. -/
theorem parent?_ofText (t : Text) : parent? (Octets.ofText t) = (parent? t).map Octets.ofText := by
  have hslash : '/'.toNat < 128 := by decide
  have hdot : '.'.toNat < 128 := by decide
  have hsteps : steps ((Text.splitOn '/' t).map Octets.ofText) =
      (steps (Text.splitOn '/' t)).map Octets.ofText := by
    rw [steps, List.filter_map]
    refine congrArg (List.map Octets.ofText) (List.filter_congr fun name _ => ?_)
    simp only [Function.comp_apply, bne, beq_eq_decide, Octets.ofText_eq_nil,
      Octets.ofText_eq_singleton hdot]
  unfold steps at hsteps
  unfold parent?
  simp only [Octets.splitOn_ofText hslash, hsteps, ← List.map_reverse,
    Octets.head?_ofText hslash, Octets.ofText_eq_nil]
  cases ((Text.splitOn '/' t).filter fun name => name != [] && name != ['.']).reverse with
  | nil =>
    rw [List.map_nil]
    dsimp only
    split
    · rfl
    · rw [Option.map_some, Octets.ofText_eq_nil.2 rfl]
  | cons last above =>
    rw [List.map_cons]
    dsimp only
    rw [Option.map_some, Octets.ofText_append, Octets.ofText_join hslash, List.map_reverse]
    split
    · rw [(Octets.ofText_eq_singleton hslash).2 rfl]
    · rw [Octets.ofText_eq_nil.2 rfl]

end Console.Files

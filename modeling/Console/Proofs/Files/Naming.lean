import Console.Proofs.Except
import Console.Proofs.Files.Growth
import Console.Proofs.Text.Parts
import Mathlib.Data.List.TakeWhile

/-! Paths in parts. A walk along names behind names goes on where the walk along the first ones
    arrived. So what a path names is found from the directory that the path without its last name
    leads to, and a path that leads to something has such a directory. -/

namespace Console

namespace Files

variable {fs fs' : Files}

/-- Goes on along names from where a walk stopped. -/
def onward (fs : Files) (names : List Text) : Stop → Except Fault Stop
  | .arrived (.there n) => fs.walk true n names
  | .arrived (.free d name slash) =>
    if names.all List.isEmpty then .ok (.arrived (.free d name (slash || !names.isEmpty)))
    else .error .notFound
  | .through d target rest => .ok (.through d target (rest ++ names))

theorem walk_append (fs : Files) (front back : List Text) (at_ : Nat) :
    fs.walk true at_ (front ++ back) = (fs.walk true at_ front).bind (fs.onward back) := by
  induction front generalizing at_ with
  | nil => rfl
  | cons name front ih =>
    rw [List.cons_append, walk, walk]
    cases fs.directory? at_ with
    | none => rfl
    | some directory =>
      obtain ⟨parent, entries⟩ := directory
      dsimp only
      split
      · exact ih at_
      split
      · exact ih parent
      split
      · rfl
      cases entries.lookup name with
      | none =>
        dsimp only
        rw [List.all_append]
        cases front.all List.isEmpty with
        | true => cases front <;> cases back <;> simp [Except.bind, onward]
        | false => rfl
      | some n =>
        dsimp only
        cases fs.link? n with
        | none => exact ih n
        | some target => simp [Except.bind, onward]

/-- What a walk through links makes of where a walk stops. -/
def pass (fs : Files) : Nat → Stop → Except Fault Spot
  | _, .arrived spot => .ok spot
  | 0, .through _ _ _ => .error .tooManyLinks
  | links + 1, .through d target rest =>
    if target = [] then .error .notFound
    else fs.walkThrough true links (start d target).1 ((start d target).2 ++ rest)

theorem walkThrough_eq (fs : Files) (links at_ : Nat) (names : List Text) :
    fs.walkThrough true links at_ names = (fs.walk true at_ names).bind (fs.pass links) := by
  unfold walkThrough
  cases fs.walk true at_ names with
  | error e => rfl
  | ok stop => cases stop <;> cases links <;> rfl

/-- A walk that arrived goes on from there along whatever names follow. -/
theorem walkThrough_append {links at_ n : Nat} {front : List Text}
    (h : fs.walkThrough true links at_ front = .ok (.there n)) :
    ∃ left, ∀ back,
      fs.walkThrough true links at_ (front ++ back) = fs.walkThrough true left n back := by
  induction links using Nat.strongRecOn generalizing at_ front with
  | ind links ih =>
    rw [walkThrough_eq] at h
    obtain ⟨stop, hstop, h⟩ := bind_ok h
    cases stop with
    | arrived spot =>
      rw [pass] at h
      obtain rfl := Except.ok.inj h
      refine ⟨links, fun back => ?_⟩
      rw [walkThrough_eq, walkThrough_eq, walk_append, hstop]
      rfl
    | through d target rest =>
      cases links with
      | zero => exact nomatch h
      | succ links =>
        rw [pass] at h
        split at h
        · exact nomatch h
        rename_i htarget
        obtain ⟨left, hleft⟩ := ih links links.lt_succ_self h
        refine ⟨left, fun back => ?_⟩
        rw [walkThrough_eq, walk_append, hstop, ← hleft, List.append_assoc]
        exact if_neg htarget

/-- A walk that arrives has arrived somewhere in between. -/
theorem exists_walkThrough {links at_ m : Nat} {front back : List Text}
    (h : fs.walkThrough true links at_ (front ++ back) = .ok (.there m)) :
    ∃ n, fs.walkThrough true links at_ front = .ok (.there n) := by
  induction links using Nat.strongRecOn generalizing at_ front with
  | ind links ih =>
    rw [walkThrough_eq, walk_append] at h
    obtain ⟨stop', hstop', h⟩ := bind_ok h
    obtain ⟨stop, hstop, honward⟩ := bind_ok hstop'
    rw [walkThrough_eq, hstop]
    cases stop with
    | arrived spot =>
      cases spot with
      | there n => exact ⟨n, rfl⟩
      | free d name slash =>
        rw [onward] at honward
        split at honward
        · obtain rfl := Except.ok.inj honward
          exact nomatch h
        · exact nomatch honward
    | through d target rest =>
      obtain rfl := Except.ok.inj honward
      cases links with
      | zero => exact nomatch h
      | succ links =>
        rw [pass] at h
        split at h
        · exact nomatch h
        rename_i htarget
        rw [← List.append_assoc] at h
        obtain ⟨n, hn⟩ := ih links links.lt_succ_self h
        exact ⟨n, (if_neg htarget).trans hn⟩

/-! ### The last name -/

/-- A text is what is left when its end is dropped, and the end that was dropped. -/
theorem reverse_dropWhile_append (p : Char → Bool) (t : Text) :
    (t.reverse.dropWhile p).reverse ++ (t.reverse.takeWhile p).reverse = t := by
  rw [← List.reverse_append, List.takeWhile_append_dropWhile, List.reverse_reverse]

/-- A path is the path without its last name, that name, and slashes. -/
theorem splitLast_spec (t : Text) : ∃ k,
    t = (splitLast t).1 ++ ((splitLast t).2 ++ List.replicate k '/') ∧ '/' ∉ (splitLast t).2 ∧
      ((splitLast t).1 = [] ∨ ∃ above, (splitLast t).1 = above ++ ['/']) := by
  have hslashes : (t.reverse.takeWhile (· == '/')).reverse =
      List.replicate (t.reverse.takeWhile (· == '/')).length '/' := by
    refine List.eq_replicate_iff.2 ⟨List.length_reverse, fun c hc => ?_⟩
    simpa using List.mem_takeWhile_imp (List.mem_reverse.1 hc)
  refine ⟨(t.reverse.takeWhile (· == '/')).length, ?_, fun hmem => ?_, ?_⟩
  · have hshort := reverse_dropWhile_append (· != '/') (t.reverse.dropWhile (· == '/')).reverse
    rw [List.reverse_reverse] at hshort
    rw [← hslashes, ← List.append_assoc]
    exact ((congrArg (· ++ _) hshort).trans (reverse_dropWhile_append (· == '/') t)).symm
  · simpa using List.mem_takeWhile_imp (List.mem_reverse.1 hmem)
  · have hhead := List.head?_dropWhile_not (· != '/') (t.reverse.dropWhile (· == '/'))
    unfold splitLast
    dsimp only
    cases hfront : (t.reverse.dropWhile (· == '/')).dropWhile (· != '/') with
    | nil => exact .inl rfl
    | cons c above =>
      rw [hfront] at hhead
      obtain rfl : c = '/' := by simpa using hhead
      exact .inr ⟨above.reverse, List.reverse_cons⟩

theorem splitOn_name {name : Text} (h : '/' ∉ name) (k : Nat) :
    Text.splitOn '/' (name ++ List.replicate k '/') = name :: List.replicate k [] := by
  induction k generalizing name with
  | zero => rw [List.replicate_zero, List.append_nil, Text.splitOn_of_notMem _ _ h]; rfl
  | succ k ih =>
    have hrest := @ih [] List.not_mem_nil
    rw [List.nil_append] at hrest
    rw [List.replicate_succ, Text.splitOn_append, Text.splitOn_of_notMem _ _ h, hrest]
    rfl

theorem walk_empties {n : Nat} (h : fs.isDirectory n = true) (k : Nat) :
    fs.walk true n (List.replicate k []) = .ok (.arrived (.there n)) := by
  obtain ⟨⟨parent, entries⟩, hd⟩ := Option.isSome_iff_exists.1 h
  induction k with
  | zero => rfl
  | succ k ih =>
    rw [List.replicate_succ, walk, hd]
    exact ih

theorem resolve_eq_ok {base : Nat} {t : Text} {follows : Bool} {spot : Spot} :
    fs.resolve base t follows = .ok spot ↔ ('\x00' ∉ t ∧ t ≠ [] ∧ t.length < pathLimit) ∧
      fs.walkThrough follows mostLinks (start base t).1 (start base t).2 = .ok spot := by
  unfold resolve
  by_cases hnul : '\x00' ∈ t
  · rw [if_pos hnul]
    exact iff_of_false (by simp) fun h => h.1.1 hnul
  by_cases hne : t = []
  · rw [if_neg hnul, if_pos hne]
    exact iff_of_false (by simp) fun h => h.1.2.1 hne
  by_cases hlong : t.length ≥ pathLimit
  · rw [if_neg hnul, if_neg hne, if_pos hlong]
    exact iff_of_false (by simp) fun h => absurd hlong (Nat.not_le.2 h.1.2.2)
  · rw [if_neg hnul, if_neg hne, if_neg hlong]
    exact (and_iff_right ⟨hnul, hne, Nat.lt_of_not_le hlong⟩).symm

/-- A path begins where the path in front of one of its slashes begins. -/
theorem start_append (base : Nat) (above back : Text) :
    start base (above ++ '/' :: back) =
      ((start base (above ++ ['/'])).1, Text.splitOn '/' above ++ Text.splitOn '/' back) := by
  unfold start
  rw [Text.splitOn_append]
  cases above <;> rfl

/-- Names can be gone along only from a directory. -/
theorem isDirectory_of_walkThrough {links n : Nat} {name : Text} {rest : List Text} {spot : Spot}
    (h : fs.walkThrough true links n (name :: rest) = .ok spot) : fs.isDirectory n = true := by
  rw [walkThrough_eq, walk] at h
  unfold isDirectory
  cases hd : fs.directory? n with
  | none => rw [hd] at h; cases h
  | some directory => rfl

theorem walkThrough_empties {n : Nat} (h : fs.isDirectory n = true) (links k : Nat) :
    fs.walkThrough true links n (List.replicate k []) = .ok (.there n) := by
  rw [walkThrough_eq, walk_empties h]
  rfl

/-- A name that can be given to something. -/
structure Nameable (name : Text) : Prop where
  ne_nil : name ≠ []
  ne_dot : name ≠ ['.']
  ne_dots : name ≠ ['.', '.']
  length_le : name.length ≤ longestName

theorem walkThrough_name {d n : Nat} {name : Text} (hname : Nameable name)
    (hholds : fs.Holds d name n) (hn : fs.isDirectory n = true) (links k : Nat) :
    fs.walkThrough true links d (name :: List.replicate k []) = .ok (.there n) := by
  obtain ⟨parent, entries, hd, hlookup, hlink⟩ := hholds
  rw [walkThrough_eq, walk, hd]
  dsimp only
  rw [if_neg (not_or.2 ⟨hname.ne_nil, hname.ne_dot⟩), if_neg hname.ne_dots,
    if_neg (Nat.not_lt.2 hname.length_le), hlookup]
  dsimp only
  rw [hlink]
  dsimp only
  rw [walk_empties hn]
  rfl

/-- A path that leads to something has a directory in front of its last name. -/
theorem locate_front {base m : Nat} {t : Text} (h : fs.locate base t true = .ok m)
    (hfront : (splitLast t).1 ≠ []) : ∃ d, fs.locate base (splitLast t).1 true = .ok d := by
  obtain ⟨k, ht, hname, habove⟩ := splitLast_spec t
  obtain ⟨above, habove⟩ := habove.resolve_left hfront
  rw [locate_eq_ok, resolve_eq_ok] at h
  obtain ⟨⟨hnul, -, hlong⟩, hwalk⟩ := h
  rw [habove] at ht ⊢
  rw [ht] at hnul hlong
  rw [ht, List.append_assoc, List.singleton_append, start_append, splitOn_name hname] at hwalk
  obtain ⟨n, hn⟩ := exists_walkThrough hwalk
  obtain ⟨left, hleft⟩ := walkThrough_append hn
  rw [hleft] at hwalk
  refine ⟨n, locate_eq_ok.2 (resolve_eq_ok.2 ⟨⟨fun h => hnul ?_, by simp, ?_⟩, ?_⟩)⟩
  · exact List.mem_append_left _ h
  · rw [List.length_append] at hlong
    omega
  · rw [start_append]
    exact (hleft _).trans (walkThrough_empties (isDirectory_of_walkThrough hwalk) left 1)

/-- The directory in front of the last name of a path. -/
def InFront (fs : Files) (base : Nat) (t : Text) (d : Nat) : Prop :=
  (splitLast t).1 = [] ∧ d = base ∨ fs.locate base (splitLast t).1 true = .ok d

theorem InFront.grows {base d : Nat} {t : Text} (h : fs.InFront base t d) (hgrows : Grows fs fs') :
    fs'.InFront base t d :=
  h.imp_right hgrows.locate

/-- A path leads to the directory that has its last name in the directory in front of it. -/
theorem InFront.locate {base d n : Nat} {t : Text} (h : fs.InFront base t d)
    (ht : '\x00' ∉ t ∧ t ≠ [] ∧ t.length < pathLimit) (hname : Nameable (splitLast t).2)
    (hholds : fs.Holds d (splitLast t).2 n) (hn : fs.isDirectory n = true) :
    fs.locate base t true = .ok n := by
  refine locate_eq_ok.2 (resolve_eq_ok.2 ⟨ht, ?_⟩)
  obtain ⟨k, hparts, hslash, habove⟩ := splitLast_spec t
  generalize (splitLast t).2 = name at *
  obtain ⟨hfront, rfl⟩ | hfront := h
  · rw [hfront, List.nil_append] at hparts
    have hhead : t.head? ≠ some '/' := fun hhead => by
      rw [hparts, List.head?_append_of_ne_nil _ hname.ne_nil] at hhead
      exact hslash (List.mem_of_mem_head? hhead)
    have hstart : start d t = (d, name :: List.replicate k []) := by
      rw [start, if_neg hhead, hparts, splitOn_name hslash]
    rw [hstart]
    exact walkThrough_name hname hholds hn _ k
  · rw [locate_eq_ok, resolve_eq_ok] at hfront
    obtain ⟨⟨-, hne, -⟩, hwalk⟩ := hfront
    obtain ⟨above, habove⟩ := habove.resolve_left hne
    rw [habove, start_append] at hwalk
    obtain ⟨m, hm⟩ := exists_walkThrough hwalk
    obtain ⟨left, hleft⟩ := walkThrough_append hm
    have hempty := (hleft _).symm.trans hwalk
    have hdirectory : fs.isDirectory m = true := isDirectory_of_walkThrough hempty
    obtain rfl : m = d :=
      Spot.there.inj (Except.ok.inj ((walkThrough_empties hdirectory left 1).symm.trans hempty))
    have hstart : start base t = ((start base (above ++ ['/'])).1,
        Text.splitOn '/' above ++ name :: List.replicate k []) := by
      rw [hparts, habove, List.append_assoc, List.singleton_append, start_append,
        splitOn_name hslash]
    rw [hstart]
    exact (hleft _).trans (walkThrough_name hname hholds hn left k)

/-- What is known of a path when the directory in front of its last name is found. -/
theorem placeOf_spec {base d : Nat} {t name : Text} (h : fs.placeOf base t = .ok (d, name)) :
    ('\x00' ∉ t ∧ t ≠ [] ∧ t.length < pathLimit) ∧ fs.InFront base t d ∧
      name = (splitLast t).2 ∧ name.length ≤ longestName := by
  unfold placeOf at h
  split at h
  · exact nomatch h
  rename_i hnul
  split at h
  · exact nomatch h
  rename_i hne
  split at h
  · exact nomatch h
  rename_i hlong
  dsimp only at h
  split at h
  · exact nomatch h
  rename_i habove
  split at h
  · exact nomatch h
  split at h
  · exact nomatch h
  rename_i hname
  obtain ⟨rfl, rfl⟩ := Prod.mk.inj (Except.ok.inj h)
  refine ⟨⟨hnul, hne, Nat.lt_of_not_le hlong⟩, ?_, rfl, Nat.le_of_not_lt hname⟩
  split at habove
  · rename_i hfront
    exact .inl ⟨hfront, (Except.ok.inj habove).symm⟩
  · exact .inr habove

/-- The directory in front of the last name is not what is missing if the path leads to something. -/
theorem placeOf_ne_notFound {base m : Nat} {t : Text} (h : fs.locate base t true = .ok m) :
    fs.placeOf base t ≠ .error .notFound := by
  obtain ⟨⟨-, hne, -⟩, -⟩ := resolve_eq_ok.1 (locate_eq_ok.1 h)
  unfold placeOf
  rw [if_neg hne]
  split
  · exact fun h => nomatch h
  split
  · exact fun h => nomatch h
  dsimp only
  split
  · rename_i habove
    split at habove
    · exact nomatch habove
    · rename_i hfront
      obtain ⟨d, hd⟩ := locate_front h hfront
      exact nomatch habove.symm.trans hd
  · split
    · exact fun h => nomatch h
    split <;> exact fun h => nomatch h

end Files

end Console

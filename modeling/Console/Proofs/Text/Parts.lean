import Console.Text.Basic
import Mathlib.Data.List.TakeWhile

/-! Texts in parts. A text contains a part that stands somewhere in it. A text that is split at a
    separator is got back by joining its parts, and parts without the separator are got back by
    splitting. The part behind the last newline is the last line. -/

namespace Console

namespace Text

theorem contains_iff_infix (part t : Text) : contains part t = true ↔ part <:+: t := by
  induction t with
  | nil => rw [contains, List.isEmpty_iff, List.infix_nil]
  | cons c rest ih =>
    rw [contains, Bool.or_eq_true, List.isPrefixOf_iff_prefix, ih, List.infix_cons_iff]

theorem splitOn_ne_nil (separator : Char) (t : Text) : splitOn separator t ≠ [] := by
  cases t with
  | nil => exact List.cons_ne_nil _ _
  | cons c rest =>
    unfold splitOn
    split
    · exact List.cons_ne_nil _ _
    · split <;> exact List.cons_ne_nil _ _

/-- The parts behind a separator follow those in front of it. -/
theorem splitOn_append (separator : Char) (front back : Text) :
    splitOn separator (front ++ separator :: back) =
      splitOn separator front ++ splitOn separator back := by
  induction front with
  | nil =>
    rw [List.nil_append, splitOn, splitOn]
    split
    · rename_i hnil
      exact absurd hnil (splitOn_ne_nil _ _)
    · rename_i heq
      rw [heq, if_pos rfl]
      rfl
  | cons c front ih =>
    rw [List.cons_append, splitOn, splitOn, ih]
    cases hfront : splitOn separator front with
    | nil => exact absurd hfront (splitOn_ne_nil _ _)
    | cons part parts =>
      simp only [List.cons_append]
      split <;> rfl

/-- A text without a separator is one part. -/
theorem splitOn_of_notMem (separator : Char) (t : Text) (h : separator ∉ t) :
    splitOn separator t = [t] := by
  induction t with
  | nil => rfl
  | cons c rest ih =>
    rw [List.mem_cons, not_or] at h
    rw [splitOn, ih h.2]
    exact if_neg (Ne.symm h.1)

theorem join_cons (separator part : Text) {parts : List Text} (h : parts ≠ []) :
    join separator (part :: parts) = part ++ (separator ++ join separator parts) := by
  cases parts with
  | nil => exact absurd rfl h
  | cons _ _ => exact List.append_assoc _ _ _

theorem join_splitOn (separator : Char) (t : Text) :
    join [separator] (splitOn separator t) = t := by
  induction t with
  | nil => rfl
  | cons c rest ih =>
    unfold splitOn
    split
    · rename_i hnil
      exact absurd hnil (splitOn_ne_nil _ _)
    rename_i part parts hparts
    rw [hparts] at ih
    split
    · rename_i hc
      rw [join_cons _ _ (List.cons_ne_nil _ _), ih, hc]
      rfl
    · rw [← ih]
      cases parts <;> rfl

theorem notMem_of_mem_splitOn {separator : Char} {t part : Text}
    (h : part ∈ splitOn separator t) : separator ∉ part := by
  induction t generalizing part with
  | nil =>
    obtain rfl := List.mem_singleton.1 h
    exact List.not_mem_nil
  | cons c rest ih =>
    unfold splitOn at h
    split at h
    · rename_i hnil
      exact absurd hnil (splitOn_ne_nil _ _)
    rename_i first parts hparts
    rw [hparts, List.forall_mem_cons] at ih
    split at h
    · obtain rfl | h := List.mem_cons.1 h
      · exact List.not_mem_nil
      obtain rfl | h := List.mem_cons.1 h
      · exact ih.1
      · exact ih.2 part h
    · rename_i hc
      obtain rfl | h := List.mem_cons.1 h
      · exact List.not_mem_cons_of_ne_of_not_mem (Ne.symm hc) ih.1
      · exact ih.2 part h

/-- Parts without a separator are got back from between separators. -/
theorem splitOn_join {separator : Char} {parts : List Text} (hne : parts ≠ [])
    (h : ∀ part ∈ parts, separator ∉ part) : splitOn separator (join [separator] parts) = parts := by
  induction parts with
  | nil => exact absurd rfl hne
  | cons part parts ih =>
    rw [List.forall_mem_cons] at h
    by_cases hparts : parts = []
    · subst hparts
      exact splitOn_of_notMem separator part h.1
    · rw [join_cons _ _ hparts, List.singleton_append, splitOn_append, ih hparts h.2,
        splitOn_of_notMem separator part h.1]
      rfl

/-- Fewer parts make a text with less in it. -/
theorem join_sublist (separator : Text) {parts parts' : List Text} (h : parts.Sublist parts') :
    (join separator parts).Sublist (join separator parts') := by
  induction h with
  | slnil => exact .refl _
  | @cons parts parts' part h ih =>
    by_cases hparts' : parts' = []
    · subst hparts'
      rw [List.eq_nil_of_sublist_nil h]
      exact List.nil_sublist _
    · rw [join_cons _ _ hparts']
      exact (ih.trans (List.sublist_append_right _ _)).trans (List.sublist_append_right _ _)
  | @cons_cons parts parts' part h ih =>
    by_cases hparts : parts = []
    · subst hparts
      cases parts' with
      | nil => exact .refl _
      | cons _ _ =>
        rw [join_cons _ _ (List.cons_ne_nil _ _)]
        exact List.sublist_append_left _ _
    · have hparts' : parts' ≠ [] := by
        rintro rfl
        exact hparts (List.eq_nil_of_sublist_nil h)
      rw [join_cons _ _ hparts, join_cons _ _ hparts']
      exact (ih.append_left _).append_left _

/-! ### The last line -/

/-- The last line is the last of the parts between newlines. -/
theorem getLastD_splitOn_newline (t : Text) : (splitOn '\n' t).getLastD [] = lastLine t := by
  by_cases h : '\n' ∈ t
  · obtain ⟨line, front, hreverse, hline⟩ :=
      List.eq_append_cons_of_mem (List.mem_reverse.2 h)
    have ht : t = front.reverse ++ '\n' :: line.reverse := by
      simpa using congrArg List.reverse hreverse
    have hall : ∀ c ∈ line, (c != '\n') = true := fun c hc =>
      bne_iff_ne.2 fun hnewline => hline (hnewline ▸ hc)
    have hlast : lastLine t = line.reverse := by
      rw [lastLine, hreverse, List.takeWhile_append_of_pos hall, List.takeWhile_cons_of_neg (by simp),
        List.append_nil]
    have hpart : splitOn '\n' line.reverse = [line.reverse] :=
      splitOn_of_notMem _ _ (mt List.mem_reverse.1 hline)
    rw [hlast, ht, splitOn_append, hpart, List.getLastD_concat]
  · have hall : ∀ c ∈ t.reverse, (c != '\n') = true := fun c hc =>
      bne_iff_ne.2 fun hnewline => h (List.mem_reverse.1 (hnewline ▸ hc))
    rw [splitOn_of_notMem _ _ h, lastLine, List.takeWhile_eq_self_iff.2 hall, List.reverse_reverse]
    rfl

end Text

end Console

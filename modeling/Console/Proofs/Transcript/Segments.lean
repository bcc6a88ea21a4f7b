import Console.Proofs.Text.Parts
import Console.Proofs.Transcript.Extraction
import Mathlib.Data.List.Infix

/-! The expression by a split from the left. Such a split cuts a text at every prompt that it meets
    and goes on behind it; the last segment, trimmed, is the expression. The transcript looks for
    the rightmost prompt instead, which may begin inside the prompt that the split met last. Then a
    piece of the segment is taken for a piece of a prompt. The piece holds every character of the
    prompt, so it is not all blank, and the expression really is another one. A prompt that cannot
    begin inside itself rules this out. -/

namespace Console

namespace Text

/-! ### Segments -/

/-- The segments of a text between the markers that are met from the left. A segment ends where a
    marker begins, and the next one begins behind it, so no two of the markers overlap. -/
def segments (marker : Text) : Text → List Text
  | [] => [[]]
  | c :: rest =>
    if marker ≠ [] ∧ marker <+: c :: rest then
      [] :: segments marker ((c :: rest).drop marker.length)
    else (segments marker rest).modifyHead (c :: ·)
termination_by t => t.length
decreasing_by
  · rename_i h
    have := List.length_pos_iff.2 h.1
    simp only [List.length_drop, List.length_cons]
    omega
  · exact Nat.lt_succ_self _

/-- A segment that was ended by a marker is followed by another one. -/
theorem segments_marker_append {marker : Text} (hmarker : marker ≠ []) (t : Text) :
    segments marker (marker ++ t) = [] :: segments marker t := by
  obtain ⟨c, rest, rfl⟩ := List.exists_cons_of_ne_nil hmarker
  rw [List.cons_append, segments, if_pos ⟨hmarker, ⟨t, rfl⟩⟩, ← List.cons_append, List.drop_left]

/-- The last segment holds no marker. It is the whole text, or what follows some marker. -/
theorem exists_segments {marker : Text} (hmarker : marker ≠ []) (t : Text) :
    ∃ front last, segments marker t = front ++ [last] ∧ ¬ marker <:+: last ∧
      (front = [] ∧ last = t ∨ front ≠ [] ∧ ∃ before, t = before ++ (marker ++ last)) := by
  fun_induction segments marker t with
  | case1 => exact ⟨[], [], rfl, mt List.infix_nil.1 hmarker, .inl ⟨rfl, rfl⟩⟩
  | case2 c rest h ih =>
    obtain ⟨behind, hbehind⟩ := h.2
    rw [← hbehind, List.drop_left] at ih ⊢
    obtain ⟨front, last, hfront, hlast, ⟨rfl, rfl⟩ | ⟨-, before, rfl⟩⟩ := ih
    · exact ⟨[[]], last, by rw [hfront]; rfl, hlast, .inr ⟨List.cons_ne_nil _ _, [], rfl⟩⟩
    · exact ⟨[] :: front, last, by rw [hfront]; rfl, hlast,
        .inr ⟨List.cons_ne_nil _ _, marker ++ before, (List.append_assoc _ _ _).symm⟩⟩
  | case3 c rest h ih =>
    obtain ⟨front, last, hfront, hlast, ⟨rfl, rfl⟩ | ⟨hne, before, rfl⟩⟩ := ih
    · refine ⟨[], c :: last, by rw [hfront]; rfl, fun hwithin => ?_, .inl ⟨rfl, rfl⟩⟩
      obtain hhead | hwithin := List.infix_cons_iff.1 hwithin
      · exact h ⟨hmarker, hhead⟩
      · exact hlast hwithin
    · obtain ⟨part, parts, rfl⟩ := List.exists_cons_of_ne_nil hne
      exact ⟨(c :: part) :: parts, last, by rw [hfront]; rfl, hlast,
        .inr ⟨List.cons_ne_nil _ _, c :: before, rfl⟩⟩

/-- A text with a marker ends with a marker and the last segment. -/
theorem getLastD_segments {marker t : Text} (hmarker : marker ≠ []) (h : marker <:+: t) :
    ¬ marker <:+: (segments marker t).getLastD [] ∧
      ∃ before, t = before ++ (marker ++ (segments marker t).getLastD []) := by
  obtain ⟨front, last, hfront, hlast, ⟨rfl, rfl⟩ | ⟨-, hbefore⟩⟩ := exists_segments hmarker t
  · exact absurd h hlast
  · rw [hfront, List.getLastD_concat]
    exact ⟨hlast, hbefore⟩

/-- A text without a marker is one segment. -/
theorem segments_of_absent {marker t : Text} (hmarker : marker ≠ []) (h : ¬ marker <:+: t) :
    segments marker t = [t] := by
  obtain ⟨front, last, hfront, -, ⟨rfl, rfl⟩ | ⟨-, before, rfl⟩⟩ := exists_segments hmarker t
  · exact hfront
  · exact absurd ⟨before, last, List.append_assoc _ _ _⟩ h

/-! ### Overlaps -/

/-- A text can begin again inside itself if one of its endings, neither empty nor the whole, is also
    a beginning of it. -/
def Overlapping (t : Text) : Prop :=
  ∃ ending, ending <:+ t ∧ ending <+: t ∧ ending ≠ [] ∧ ending ≠ t

/-- The endings of a text are few, so whether it overlaps itself can be computed. -/
instance (t : Text) : Decidable (Overlapping t) :=
  decidable_of_iff (∃ ending ∈ t.tails, ending <+: t ∧ ending ≠ [] ∧ ending ≠ t)
    (by simp only [List.mem_tails, Overlapping])

/-- A text that begins again further on is made of the characters that it is moved over. -/
theorem mem_of_moved {t front passed : Text} (h : t ++ passed = front ++ t) (hfront : front ≠ [])
    {c : Char} (hc : c ∈ t) : c ∈ passed := by
  obtain ⟨between, -, rfl⟩ | ⟨between, ht, hpassed⟩ := List.append_eq_append_iff.1 h
  · exact List.mem_append_right _ hc
  -- what the two places share is a shorter text, moved over the same characters
  · have hshort : between.length < t.length := by
      have := List.length_pos_iff.2 hfront
      rw [ht, List.length_append]
      omega
    obtain hc | hc := List.mem_append.1 (hpassed ▸ hc)
    · exact mem_of_moved (hpassed.symm.trans ht) hfront hc
    · exact hc
termination_by t.length

/-- A text that begins again inside itself overlaps itself. One that begins again behind itself is
    part of what it is moved over. -/
theorem overlapping_or_within_of_moved {t front passed : Text} (h : t ++ passed = front ++ t)
    (hfront : front ≠ []) : Overlapping t ∨ t <:+: passed := by
  obtain ⟨between, -, hpassed⟩ | ⟨between, ht, hpassed⟩ := List.append_eq_append_iff.1 h
  · exact .inr ⟨between, [], by rw [hpassed, List.append_nil]⟩
  by_cases hbetween : between = []
  · subst hbetween
    exact .inr (hpassed ▸ List.infix_rfl)
  · refine .inl ⟨between, ⟨front, ht.symm⟩, ⟨passed, hpassed.symm⟩, hbetween, fun heq => ?_⟩
    rw [heq] at ht
    exact hfront (List.append_left_eq_self.1 ht.symm)

/-! ### Blanks -/

theorem ne_nil_of_allBlank_eq_false {t : Text} (h : allBlank t = false) : t ≠ [] := by
  rintro rfl
  exact nomatch h

/-- Trimming drops blanks only. -/
theorem filter_trim (t : Text) : (trim t).filter (!isBlank ·) = t.filter (!isBlank ·) := by
  have hstart : ∀ s : Text, (s.dropWhile isBlank).filter (!isBlank ·) = s.filter (!isBlank ·) := by
    intro s
    induction s with
    | nil => rfl
    | cons c s ih => by_cases hc : isBlank c = true <;> simp_all
  rw [trim, trimEnd, List.filter_reverse, hstart, List.filter_reverse, List.reverse_reverse,
    trimStart, hstart]

/-- What is trimmed away in front is blank. -/
theorem allBlank_of_trim_append_eq {passed rest : Text} (h : trim (passed ++ rest) = trim rest) :
    allBlank passed = true := by
  have hfilter := congrArg (List.filter (!isBlank ·)) h
  rw [filter_trim, filter_trim, List.filter_append, List.append_left_eq_self,
    List.filter_eq_nil_iff] at hfilter
  exact List.all_eq_true.2 fun c hc => by simpa using hfilter c hc

end Text

namespace Transcript

/-- A line with nothing typed ends with the prompt and at least one blank. -/
def NothingTyped (prompt line : Text) : Prop :=
  ∃ before blanks, line = before ++ (prompt ++ blanks) ∧ blanks ≠ [] ∧ Text.allBlank blanks = true

/-- Whether nothing is typed can be read off the line. -/
instance (prompt line : Text) : Decidable (NothingTyped prompt line) :=
  decidable_of_iff _ endsIdle_iff

/-- The expression by a split from the left: empty if nothing is typed in the last line, else the
    last segment, trimmed. A text without the prompt has no expression. -/
def lastSegment (prompt full : Text) : Text :=
  if NothingTyped prompt ((Text.splitOn '\n' full).getLastD []) then []
  else if prompt <:+: full then Text.trim ((Text.segments prompt full).getLastD []) else []

/-- Where nothing is typed the transcript finds no expression either. -/
theorem extract_of_nothingTyped {t : Transcript} {full : Text}
    (h : NothingTyped t.prompt ((Text.splitOn '\n' full).getLastD [])) : t.extract full = [] := by
  rw [Text.getLastD_splitOn_newline] at h
  rw [extract, endsIdle_iff.2 h, if_pos rfl]

/-- What a prompt is moved over is not all blank. -/
theorem allBlank_of_moved {prompt front passed : Text} (hprompt : Text.allBlank prompt = false)
    (h : prompt ++ passed = front ++ prompt) (hfront : front ≠ []) : Text.allBlank passed = false := by
  refine Bool.eq_false_iff.2 fun hblank => Bool.eq_false_iff.1 hprompt ?_
  rw [Text.allBlank, List.all_eq_true] at hblank ⊢
  exact fun c hc => hblank c (Text.mem_of_moved h hfront hc)

/-- The last segment is what follows the rightmost prompt, or else it has something in front of
    that, and the rightmost prompt is the prompt in front of the segment moved over it. -/
theorem getLastD_segments_eq_or_moved {prompt full rest : Text} (hprompt : prompt ≠ [])
    (h : Text.afterLast? prompt full = some rest) :
    (Text.segments prompt full).getLastD [] = rest ∨
      ∃ front passed, front ≠ [] ∧ (Text.segments prompt full).getLastD [] = passed ++ rest ∧
        prompt ++ passed = front ++ prompt := by
  obtain ⟨-, before, hbefore⟩ := Text.getLastD_segments hprompt (Text.infix_of_afterLast? h)
  obtain ⟨found, hfound, passed, hpassed⟩ :=
    Text.afterLast?_marker_append prompt ((Text.segments prompt full).getLastD [])
  have hsome := Text.afterLast?_append hfound before
  rw [← hbefore, h] at hsome
  obtain rfl := Option.some.inj hsome
  obtain ⟨front, hfront⟩ := Text.exists_of_afterLast? hfound
  have hmoved : (prompt ++ passed) ++ rest = (front ++ prompt) ++ rest := by
    rw [List.append_assoc, hpassed, hfront, List.append_assoc]
  by_cases hnil : front = []
  · subst hnil
    exact .inl (List.append_cancel_left hfront)
  · exact .inr ⟨front, passed, hnil, hpassed.symm, List.append_cancel_right hmoved⟩

/-- The last segment and what follows the rightmost prompt are not trimmed to the same text unless
    they are the same. -/
theorem trim_getLastD_segments_iff {prompt full rest : Text} (hprompt : Text.allBlank prompt = false)
    (h : Text.afterLast? prompt full = some rest) :
    Text.trim rest = Text.trim ((Text.segments prompt full).getLastD []) ↔
      (Text.segments prompt full).getLastD [] = rest := by
  refine ⟨fun htrim => ?_, fun heq => by rw [heq]⟩
  obtain heq | ⟨front, passed, hfront, hlast, hmoved⟩ :=
    getLastD_segments_eq_or_moved (Text.ne_nil_of_allBlank_eq_false hprompt) h
  · exact heq
  · rw [hlast] at htrim
    have hblank := allBlank_of_moved hprompt hmoved hfront
    rw [Text.allBlank_of_trim_append_eq htrim.symm] at hblank
    exact nomatch hblank

/-- The two ways agree on a text exactly if nothing is typed in its last line, or the rightmost
    prompt is one that the split meets. -/
theorem extract_eq_lastSegment_iff_met {t : Transcript} (hprompt : Text.allBlank t.prompt = false)
    (full : Text) : t.extract full = lastSegment t.prompt full ↔
      NothingTyped t.prompt ((Text.splitOn '\n' full).getLastD []) ∨
        ∀ rest, Text.FollowsRightmost t.prompt full rest →
          (Text.segments t.prompt full).getLastD [] = rest := by
  by_cases hidle : NothingTyped t.prompt ((Text.splitOn '\n' full).getLastD [])
  · rw [extract_of_nothingTyped hidle, lastSegment, if_pos hidle]
    exact ⟨fun _ => .inl hidle, fun _ => rfl⟩
  rw [or_iff_right hidle, extract_eq, lastSegment, if_neg hidle]
  simp only [← Text.afterLast?_eq_some_iff]
  cases hfound : Text.afterLast? t.prompt full with
  | none =>
    rw [if_neg (Text.afterLast?_eq_none_iff.1 hfound)]
    exact ⟨fun _ => nofun, fun _ => rfl⟩
  | some rest =>
    rw [if_pos (Text.infix_of_afterLast? hfound), Option.map_some, Option.getD_some,
      trim_getLastD_segments_iff hprompt hfound]
    simp only [Option.some.injEq, forall_eq']

/-- A prompt that does not overlap itself is met by the split wherever it stands rightmost. -/
theorem getLastD_segments_of_not_overlapping {prompt full rest : Text} (hprompt : prompt ≠ [])
    (hoverlap : ¬ Text.Overlapping prompt) (h : Text.afterLast? prompt full = some rest) :
    (Text.segments prompt full).getLastD [] = rest := by
  obtain heq | ⟨front, passed, hfront, hlast, hmoved⟩ := getLastD_segments_eq_or_moved hprompt h
  · exact heq
  obtain hself | hwithin := Text.overlapping_or_within_of_moved hmoved hfront
  · exact absurd hself hoverlap
  -- the last segment holds no prompt
  · have habsent := (Text.getLastD_segments hprompt (Text.infix_of_afterLast? h)).1
    rw [hlast] at habsent
    exact absurd (hwithin.trans (List.prefix_append _ _).isInfix) habsent

/-- A text that ends with the prompt has something typed in its last line. -/
theorem not_nothingTyped_of_suffix {prompt full : Text} (hprompt : Text.allBlank prompt = false)
    (h : prompt <:+ full) : ¬ NothingTyped prompt ((Text.splitOn '\n' full).getLastD []) := by
  rw [Text.getLastD_splitOn_newline]
  rintro ⟨before, blanks, hline, hblanks, hblank⟩
  have hidle : prompt ++ blanks <:+ full :=
    List.IsSuffix.trans ⟨before, hline.symm⟩ (Text.lastLine_suffix full)
  obtain ⟨front, hfront⟩ := List.suffix_of_suffix_length_le h hidle
    (by rw [List.length_append]; exact Nat.le_add_right _ _)
  have hfrontne : front ≠ [] := by
    rintro rfl
    exact hblanks (List.append_right_eq_self.1 hfront.symm)
  rw [allBlank_of_moved hprompt hfront.symm hfrontne] at hblank
  exact nomatch hblank

/-- A prompt that overlaps itself, written over its own ending, has an expression for the split and
    none behind the rightmost prompt. -/
theorem exists_extract_ne_lastSegment {t : Transcript} (hprompt : Text.allBlank t.prompt = false)
    (hoverlap : Text.Overlapping t.prompt) :
    ∃ full, t.extract full ≠ lastSegment t.prompt full := by
  have hne : t.prompt ≠ [] := Text.ne_nil_of_allBlank_eq_false hprompt
  obtain ⟨ending, ⟨front, hfront⟩, ⟨passed, hpassed⟩, hending, hwhole⟩ := hoverlap
  have hmoved : t.prompt ++ passed = front ++ t.prompt := calc
    t.prompt ++ passed = (front ++ ending) ++ passed := by rw [hfront]
    _ = front ++ (ending ++ passed) := List.append_assoc _ _ _
    _ = front ++ t.prompt := by rw [hpassed]
  refine ⟨t.prompt ++ passed, fun heq => ?_⟩
  obtain hidle | hmet := (extract_eq_lastSegment_iff_met hprompt _).1 heq
  · exact not_nothingTyped_of_suffix hprompt ⟨front, hmoved.symm⟩ hidle
  have hwithin : ¬ t.prompt <:+: passed := fun h => by
    have hlen := congrArg List.length hpassed
    have := h.length_le
    have := List.length_pos_iff.2 hending
    rw [List.length_append] at hlen
    omega
  have hrest : Text.FollowsRightmost t.prompt (t.prompt ++ passed) [] := by
    obtain ⟨rest, hrest, hsuffix⟩ := Text.afterLast?_marker_append t.prompt []
    obtain rfl := List.suffix_nil.1 hsuffix
    rw [List.append_nil] at hrest
    rw [hmoved]
    exact Text.afterLast?_eq_some_iff.1 (Text.afterLast?_append hrest front)
  have hpassed' := hmet [] hrest
  rw [Text.segments_marker_append hne, Text.segments_of_absent hne hwithin] at hpassed'
  obtain rfl : passed = [] := hpassed'
  exact hwhole (by rw [← hpassed, List.append_nil])

/-- Where the transcript finds what a split from the left finds. On one text the two expressions are
    the same exactly if nothing is typed in its last line, or the rightmost prompt is one that the
    split meets; on all texts exactly if the prompt does not overlap itself. -/
theorem extract_eq_lastSegment_iff {t : Transcript} (hprompt : Text.allBlank t.prompt = false) :
    (∀ full, t.extract full = lastSegment t.prompt full ↔
      NothingTyped t.prompt ((Text.splitOn '\n' full).getLastD []) ∨
        ∀ rest, Text.FollowsRightmost t.prompt full rest →
          (Text.segments t.prompt full).getLastD [] = rest) ∧
    ((∀ full, t.extract full = lastSegment t.prompt full) ↔ ¬ Text.Overlapping t.prompt) := by
  refine ⟨extract_eq_lastSegment_iff_met hprompt, ?_, fun hoverlap full => ?_⟩
  · intro hall hoverlap
    obtain ⟨full, hfull⟩ := exists_extract_ne_lastSegment hprompt hoverlap
    exact hfull (hall full)
  · have hne : t.prompt ≠ [] := Text.ne_nil_of_allBlank_eq_false hprompt
    refine (extract_eq_lastSegment_iff_met hprompt full).2 (.inr fun rest hrest => ?_)
    exact getLastD_segments_of_not_overlapping hne hoverlap (Text.afterLast?_eq_some_iff.2 hrest)

/-- The prompt `sh>` does not overlap itself, so the split finds the same expression in every text. -/
theorem extract_eq_lastSegment_of_shell :
    Text.allBlank "sh>".toList = false ∧
      ∀ full, (⟨[], [], "sh>".toList, 0⟩ : Transcript).extract full =
        lastSegment "sh>".toList full :=
  ⟨by decide, (extract_eq_lastSegment_iff (t := ⟨[], [], "sh>".toList, 0⟩) (by decide)).2.2
    (by decide)⟩

/-- The prompt `>>` does overlap itself: in `>>>1` the split finds `>1`, the transcript `1`. -/
theorem not_forall_extract_eq_lastSegment :
    ¬ ∀ (t : Transcript) (full : Text), Text.allBlank t.prompt = false →
      t.extract full = lastSegment t.prompt full := by
  intro h
  have hextract : (⟨[], [], ">>".toList, 0⟩ : Transcript).extract ">>>1".toList = ['1'] := by decide
  have hsegments : Text.segments ">>".toList ">>>1".toList = [[], ">1".toList] := by
    change Text.segments ">>".toList (">>".toList ++ ">1".toList) = _
    rw [Text.segments_marker_append (by decide), Text.segments_of_absent (by decide) (by decide)]
  have hlast : lastSegment ">>".toList ">>>1".toList = ">1".toList := by
    rw [lastSegment, if_neg (by decide), if_pos (by decide), hsegments]
    decide
  have heq := h ⟨[], [], ">>".toList, 0⟩ ">>>1".toList (by decide)
  rw [hextract, hlast] at heq
  exact absurd heq (by decide)

end Transcript

end Console

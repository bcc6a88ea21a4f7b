import Console.Transcript
import Mathlib.Data.List.Basic
import Mathlib.Data.List.TakeWhile

/-! Where the newest expression is found. What follows the rightmost prompt of a text is settled by
    any ending of the text that holds a prompt, and what follows the rightmost prompt of `prompt ++
    behind` lies in `behind`. So the idle-prompt test on the last line never changes the answer, and
    an expression is read off the same way whatever stands before the last prompt. -/

namespace Console

namespace Text

/-! ### The rightmost occurrence -/

/-- What follows the rightmost marker does follow a marker. -/
theorem exists_of_afterLast? {marker rest : Text} :
    ∀ {t : Text}, afterLast? marker t = some rest → ∃ before, t = before ++ (marker ++ rest)
  | [], h => ⟨[], (List.isPrefixOf?_eq_some_iff_append_eq.1 h).symm⟩
  | c :: t, h => by
    unfold afterLast? at h
    cases ht : afterLast? marker t with
    | some found =>
      rw [ht] at h
      obtain rfl : found = rest := by simpa using h
      obtain ⟨before, rfl⟩ := exists_of_afterLast? ht
      exact ⟨c :: before, rfl⟩
    | none =>
      rw [ht] at h
      exact ⟨[], (List.isPrefixOf?_eq_some_iff_append_eq.1 (by simpa using h)).symm⟩

/-- The rightmost marker of an ending is the rightmost marker of the whole text. -/
theorem afterLast?_append {marker t rest : Text} (h : afterLast? marker t = some rest) :
    ∀ before : Text, afterLast? marker (before ++ t) = some rest
  | [] => h
  | c :: before => by
    simp only [List.cons_append, afterLast?, afterLast?_append h before, Option.orElse_some]

/-- A text that begins with a marker has a rightmost one, and what follows it follows the first. -/
theorem afterLast?_marker_append (marker behind : Text) :
    ∃ rest, afterLast? marker (marker ++ behind) = some rest ∧ rest <:+ behind := by
  have hsome : ∃ rest, afterLast? marker (marker ++ behind) = some rest := by
    have hhead : marker.isPrefixOf? (marker ++ behind) = some behind :=
      List.isPrefixOf?_eq_some_iff_append_eq.2 rfl
    cases ht : marker ++ behind with
    | nil => exact ⟨behind, by rw [afterLast?, ← ht, hhead]⟩
    | cons c t =>
      rw [afterLast?, ← ht, hhead]
      cases afterLast? marker t with
      | none => exact ⟨behind, rfl⟩
      | some rest => exact ⟨rest, rfl⟩
  obtain ⟨rest, hrest⟩ := hsome
  obtain ⟨before, hbefore⟩ := exists_of_afterLast? hrest
  refine ⟨rest, hrest, ?_⟩
  have hlen : rest.length ≤ behind.length := by
    have := congrArg List.length hbefore
    simp only [List.length_append] at this
    omega
  have hsuffix : rest <:+ marker ++ behind := ⟨before ++ marker, by rw [hbefore, List.append_assoc]⟩
  exact List.suffix_of_suffix_length_le hsuffix ⟨marker, rfl⟩ hlen

/-- What follows the rightmost marker: it follows a marker, and no marker begins later. -/
def FollowsRightmost (marker t rest : Text) : Prop :=
  ∃ before, t = before ++ (marker ++ rest) ∧
    ∀ before' rest', t = before' ++ (marker ++ rest') → before'.length ≤ before.length

/-- What is found behind the rightmost marker ends what follows any marker. -/
theorem suffix_of_afterLast? {marker t rest : Text} (h : afterLast? marker t = some rest)
    {before behind : Text} (ht : t = before ++ (marker ++ behind)) : rest <:+ behind := by
  obtain ⟨found, hfound, hsuffix⟩ := afterLast?_marker_append marker behind
  rw [ht, afterLast?_append hfound] at h
  obtain rfl := Option.some.inj h
  exact hsuffix

/-- The search finds what follows the rightmost marker and nothing else. -/
theorem afterLast?_eq_some_iff {marker t rest : Text} :
    afterLast? marker t = some rest ↔ FollowsRightmost marker t rest := by
  constructor
  · intro h
    obtain ⟨before, ht⟩ := exists_of_afterLast? h
    refine ⟨before, ht, fun before' rest' ht' => ?_⟩
    have hle : rest.length ≤ rest'.length := (suffix_of_afterLast? h ht').length_le
    have hlen := congrArg List.length (ht.symm.trans ht')
    simp only [List.length_append] at hlen
    omega
  · rintro ⟨before, ht, hlast⟩
    obtain ⟨found, hfound, hsuffix⟩ := afterLast?_marker_append marker rest
    have hsome := ht ▸ afterLast?_append hfound before
    obtain ⟨before', ht'⟩ := exists_of_afterLast? hsome
    -- the marker that is found begins no later, so nothing of `rest` is missing behind it
    have hle : before'.length ≤ before.length := hlast before' found ht'
    have hlen := congrArg List.length (ht.symm.trans ht')
    simp only [List.length_append] at hlen
    rw [hsome, hsuffix.eq_of_length_le (by omega)]

/-- A marker that is found is part of the text. -/
theorem infix_of_afterLast? {marker t rest : Text} (h : afterLast? marker t = some rest) :
    marker <:+: t := by
  obtain ⟨before, rfl⟩ := exists_of_afterLast? h
  exact ⟨before, rest, List.append_assoc _ _ _⟩

/-- The search fails on the texts without a marker, and on no others. -/
theorem afterLast?_eq_none_iff {marker t : Text} :
    afterLast? marker t = none ↔ ¬ marker <:+: t := by
  constructor
  · rintro h ⟨before, behind, rfl⟩
    obtain ⟨found, hfound, -⟩ := afterLast?_marker_append marker behind
    rw [List.append_assoc, afterLast?_append hfound] at h
    exact nomatch h
  · intro h
    cases hfound : afterLast? marker t with
    | none => rfl
    | some rest => exact absurd (infix_of_afterLast? hfound) h

/-! ### Blanks -/

theorem allBlank_of_suffix {s t : Text} (hs : s <:+ t) (ht : allBlank t = true) :
    allBlank s = true := by
  rw [allBlank, List.all_eq_true] at ht ⊢
  exact fun c hc => ht c (hs.subset hc)

theorem trim_eq_nil_of_allBlank {t : Text} (h : allBlank t = true) : trim t = [] := by
  rw [allBlank, List.all_eq_true] at h
  have hstart : trimStart t = [] := List.dropWhile_eq_nil_iff.2 h
  rw [trim, hstart]
  rfl

theorem lastLine_suffix (t : Text) : lastLine t <:+ t := by
  have h : t.reverse.takeWhile (· != '\n') <+: t.reverse := List.takeWhile_prefix _
  simpa [lastLine] using List.reverse_suffix.2 h

end Text

namespace Transcript

/-- A line ends idle exactly when it ends with the prompt and some blanks. -/
theorem endsIdle_iff {prompt : Text} : ∀ {line : Text}, endsIdle prompt line = true ↔
    ∃ before blanks, line = before ++ (prompt ++ blanks) ∧ blanks ≠ [] ∧
      Text.allBlank blanks = true
  | [] => by
    simp only [endsIdle, Bool.false_eq_true, false_iff]
    rintro ⟨before, blanks, hline, hne, -⟩
    simp_all
  | c :: rest => by
    rw [endsIdle, Bool.or_eq_true, endsIdle_iff]
    constructor
    · rintro (h | ⟨before, blanks, rfl, hne, hblank⟩)
      · split at h
        · rename_i behind hbehind
          simp only [Bool.and_eq_true, Bool.not_eq_true', List.isEmpty_eq_false_iff] at h
          exact ⟨[], behind, (List.isPrefixOf?_eq_some_iff_append_eq.1 hbehind).symm, h.1, h.2⟩
        · exact absurd h (by decide)
      · exact ⟨c :: before, blanks, rfl, hne, hblank⟩
    · rintro ⟨before, blanks, hline, hne, hblank⟩
      cases before with
      | nil =>
        have hhead : prompt.isPrefixOf? (c :: rest) = some blanks :=
          List.isPrefixOf?_eq_some_iff_append_eq.2 hline.symm
        left
        rw [hhead]
        simp [hblank, hne]
      | cons d before =>
        rw [List.cons_append, List.cons.injEq] at hline
        exact .inr ⟨before, blanks, hline.2, hne, hblank⟩

/-- The idle-prompt test never changes the answer: the newest expression is always the trimmed text
    behind the rightmost prompt. -/
theorem extract_eq (t : Transcript) (full : Text) :
    t.extract full = ((Text.afterLast? t.prompt full).map Text.trim).getD [] := by
  rw [extract]
  split
  · rename_i hidle
    obtain ⟨before, blanks, hline, -, hblank⟩ := endsIdle_iff.1 hidle
    obtain ⟨front, hfront⟩ := Text.lastLine_suffix full
    obtain ⟨rest, hrest, hsuffix⟩ := Text.afterLast?_marker_append t.prompt blanks
    rw [hline, ← List.append_assoc] at hfront
    rw [← hfront, Text.afterLast?_append hrest, Option.map_some, Option.getD_some,
      Text.trim_eq_nil_of_allBlank (Text.allBlank_of_suffix hsuffix hblank)]
  · rfl

/-- The newest expression is what follows the rightmost prompt, trimmed, and it is empty where no
    prompt is. The idle-prompt test has no part in it: a last line that passes the test has nothing
    but blanks behind the rightmost prompt. This holds for every prompt and every text. -/
theorem extract_follows_rightmost (t : Transcript) (full : Text) :
    ((∃ rest, Text.FollowsRightmost t.prompt full rest ∧ t.extract full = Text.trim rest) ∨
      (¬ t.prompt <:+: full ∧ t.extract full = [])) ∧
    t.extract full = ((Text.afterLast? t.prompt full).map Text.trim).getD [] := by
  refine ⟨?_, extract_eq t full⟩
  rw [extract_eq]
  cases hfound : Text.afterLast? t.prompt full with
  | some rest => exact .inl ⟨rest, Text.afterLast?_eq_some_iff.1 hfound, rfl⟩
  | none => exact .inr ⟨Text.afterLast?_eq_none_iff.1 hfound, rfl⟩

/-- Of two prompts that overlap the later one counts. -/
example : extract ⟨[], [], "a a".toList, 0⟩ "a a a x ".toList = ['x'] := by decide

/-- What stands before the last prompt has no part in the newest expression. -/
theorem extract_append (t : Transcript) (before typed : Text) :
    t.extract (before ++ (promptText t.prompt ++ typed)) =
      t.extract (promptText t.prompt ++ typed) := by
  obtain ⟨rest, hrest, -⟩ := Text.afterLast?_marker_append t.prompt ([' '] ++ typed)
  rw [← List.append_assoc, ← promptText] at hrest
  rw [extract_eq, extract_eq, Text.afterLast?_append hrest, hrest]

/-- Nothing has been typed behind a fresh prompt. -/
theorem extract_eq_nil_of_suffix {t : Transcript} {full : Text}
    (h : promptText t.prompt <:+ full) : t.extract full = [] := by
  obtain ⟨before, rfl⟩ := h
  obtain ⟨rest, hrest, hsuffix⟩ := Text.afterLast?_marker_append t.prompt [' ']
  rw [extract_eq, promptText, Text.afterLast?_append hrest, Option.map_some, Option.getD_some]
  exact Text.trim_eq_nil_of_allBlank (Text.allBlank_of_suffix hsuffix (by decide))

end Transcript

end Console

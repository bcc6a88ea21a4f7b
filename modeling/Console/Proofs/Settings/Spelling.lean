import Console.Proofs.Text.Numeral
import Console.Proofs.Toml.Strings
import Console.Settings.Environment

/-! What the text of a variable stands for. A numeral below `2 ^ 64` stands for its number, the two
    truth values for themselves, a text in double quotes for what is quoted, and a text that begins
    like nothing else for itself. So every size, every truth value and every text can be spelled. -/

namespace Console.Environment

open Settings

/-! ### Spellings -/

/-- The characters with which a number begins, or a value in brackets, braces or quotes. -/
def isMark (c : Char) : Bool := c.isDigit || ['+', '-', '.', '[', '\x7b', '"', '\''].contains c

/-- Whether a text stands for itself: it begins with no mark, is no truth value, and has no blanks
    at its ends. -/
def isVerbatim (t : Text) : Bool :=
  !t.head?.any isMark && !t.head?.any isBlank && !t.getLast?.any isBlank &&
    t != "true".toList && t != "false".toList

/-- The texts that stand for a piece of data. -/
inductive Spells : Text → Data → Prop where
  | numeral (zeros n : Nat) (h : n < Word.limit) :
    Spells (List.replicate zeros '0' ++ Text.ofNat n) (.natural n)
  | truth (b : Bool) : Spells (if b then "true".toList else "false".toList) (.boolean b)
  | quoted (t : Text) : Spells ('"' :: (Toml.escapeLine t ++ ['"'])) (.text t)
  | verbatim (t : Text) (h : isVerbatim t = true) : Spells t (.text t)

/-! ### Plain values -/

/-- The blanks around values are blanks of Unicode. -/
theorem isSpace_eq_false {c : Char} (h : isBlank c = false) : isSpace c = false := by
  rw [← Bool.not_eq_true] at h ⊢
  refine mt (fun hspace => ?_) h
  simp only [isSpace, Bool.or_eq_true, beq_iff_eq] at hspace
  obtain (((rfl | rfl) | rfl) | rfl) | rfl := hspace <;> decide

/-- Separators are neither blanks nor digits. -/
theorem of_isSeparator {c : Char} (h : isSeparator c = true) :
    isSpace c = false ∧ c.isDigit = false := by
  simp only [isSeparator, Bool.or_eq_true, beq_iff_eq] at h
  obtain (((rfl | rfl) | rfl) | rfl) | rfl := h <;> decide

/-- Nothing is dropped from a text whose first character stays. -/
theorem dropWhile_eq_self {p : Char → Bool} {t : Text} (h : ∀ c ∈ t.head?, p c = false) :
    t.dropWhile p = t := by
  cases t with
  | nil => rfl
  | cons c t => exact List.dropWhile_cons_of_neg (by simp [h c rfl])

theorem skipSpaces_eq_self {t : Text} (h : ∀ c ∈ t.head?, isSpace c = false) :
    skipSpaces t = t := dropWhile_eq_self h

/-- What begins neither like a truth value nor with a bracket, a brace or a quote is a plain value
    up to the next separator. -/
theorem valueOf_plain {t : Text} (hspace : ∀ c ∈ t.head?, isSpace c = false)
    (hmark : ∀ c ∈ t.head?, c ≠ '\x7b' ∧ c ≠ '[' ∧ c ≠ '"' ∧ c ≠ '\'')
    (htrue : ¬ "true".toList <+: t) (hfalse : ¬ "false".toList <+: t) (fuel : Nat) :
    valueOf (fuel + 1) t =
      some (plainValue (Text.trim (t.takeWhile fun c => !isSeparator c)),
        skipSpaces (t.dropWhile fun c => !isSeparator c)) := by
  rw [valueOf, skipSpaces_eq_self hspace]
  split
  · exact absurd ⟨_, rfl⟩ htrue
  · exact absurd ⟨_, rfl⟩ hfalse
  · exact absurd rfl (hmark _ rfl).1
  · exact absurd rfl (hmark _ rfl).2.1
  · exact absurd rfl (hmark _ rfl).2.2.1
  · exact absurd rfl (hmark _ rfl).2.2.2
  · rfl

theorem trim_eq_self {t : Text} (hhead : ∀ c ∈ t.head?, isBlank c = false)
    (hlast : ∀ c ∈ t.getLast?, isBlank c = false) : Text.trim t = t := by
  have hreverse : t.reverse.dropWhile isBlank = t.reverse :=
    dropWhile_eq_self (by rwa [List.head?_reverse])
  rw [Text.trim, Text.trimStart, dropWhile_eq_self hhead, Text.trimEnd, hreverse,
    List.reverse_reverse]

theorem integer?_eq_none {c : Char} {t : Text} (hplus : c ≠ '+') (hminus : c ≠ '-')
    (hdigit : c.isDigit = false) : integer? (c :: t) = none := by
  unfold integer?
  split
  rename_i negative digits heq
  have hdigits : digits = c :: t := by
    split at heq
    · rename_i hcons
      exact absurd (List.cons.inj hcons).1 hminus
    · rename_i hcons
      exact absurd (List.cons.inj hcons).1 hplus
    · exact (Prod.mk.inj heq).2.symm
  have hnone : Text.toNat? (c :: t) = none :=
    Text.toNat?_eq_none fun d hd => Option.some.inj hd ▸ hdigit
  rw [hdigits, hnone]
  rfl

/-- A text that begins like no number is no number. -/
theorem plainValue_eq_text {t : Text} (h : ∀ c ∈ t.head?, isMark c = false) :
    plainValue t = .text t := by
  cases t with
  | nil => rfl
  | cons c t =>
    obtain ⟨hdigit, hmark⟩ := Bool.or_eq_false_iff.1 (h c rfl)
    have hsign : c ≠ '+' ∧ c ≠ '-' ∧ c ≠ '.' := by
      refine ⟨?_, ?_, ?_⟩ <;> rintro rfl <;> exact absurd hmark (by decide)
    have hnone : Text.toNat? (c :: t) = none :=
      Text.toNat?_eq_none fun d hd => Option.some.inj hd ▸ hdigit
    have hnatural : natural? (c :: t) = none := by simp [natural?, hsign, hnone]
    have hfloat : float? (c :: t) = none := by simp [float?, hsign, hdigit]
    rw [plainValue, hnatural, integer?_eq_none hsign.1 hsign.2.1 hdigit, hfloat, ite_self]

theorem plainValue_numeral (zeros : Nat) {n : Nat} (h : n < Word.limit) :
    plainValue (List.replicate zeros '0' ++ Text.ofNat n) = .natural n := by
  have hdigits : ∀ c ∈ List.replicate zeros '0' ++ Text.ofNat n, c.isDigit = true := fun c hc =>
    Text.isDigit_of_mem_zeros_ofNat hc
  have hpoint : (List.replicate zeros '0' ++ Text.ofNat n).any (· == '.') = false := by
    rw [List.any_eq_false]
    exact fun c hc hdot => absurd (beq_iff_eq.1 hdot ▸ hdigits c hc) (by decide)
  have hnatural : natural? (List.replicate zeros '0' ++ Text.ofNat n) = some n := by
    unfold natural?
    split
    · rename_i heq
      exact absurd (hdigits '+' (heq ▸ List.mem_cons_self)) (by decide)
    · dsimp only
      rw [Text.toNat?_zeros_ofNat, Option.bind_some, if_pos h]
  rw [plainValue, hpoint, if_neg Bool.false_ne_true, hnatural]

/-! ### What is spelled -/

/-- The ends of a text are no blanks. -/
def Trimmed (t : Text) : Prop :=
  (∀ c ∈ t.head?, isBlank c = false) ∧ ∀ c ∈ t.getLast?, isBlank c = false

/-- What is not read to its end is taken as it stands. -/
theorem valueOfText_of_rest {t rest : Text} {d : Data} (hne : rest ≠ [])
    (h : ∀ fuel, valueOf (fuel + 1) t = some (d, rest)) : valueOfText t = .text t := by
  obtain ⟨c, rest, rfl⟩ := List.exists_cons_of_ne_nil hne
  rw [valueOfText, h]

/-- A plain value is the whole text, or the text is taken as it stands. -/
theorem valueOfText_plain {t : Text} (htrim : Trimmed t)
    (hmark : ∀ c ∈ t.head?, c ≠ '\x7b' ∧ c ≠ '[' ∧ c ≠ '"' ∧ c ≠ '\'')
    (htrue : ¬ "true".toList <+: t) (hfalse : ¬ "false".toList <+: t) :
    valueOfText t = if t.any isSeparator then .text t else plainValue t := by
  have hspace : ∀ c ∈ t.head?, isSpace c = false := fun c hc => isSpace_eq_false (htrim.1 c hc)
  have hvalue := valueOf_plain hspace hmark htrue hfalse
  split
  · rename_i hseparator
    obtain ⟨c, hc, hseparator⟩ := List.any_eq_true.1 hseparator
    refine valueOfText_of_rest (fun hnil => ?_) hvalue
    have hrest : c ∈ t.dropWhile fun c => !isSeparator c := by
      rw [← List.takeWhile_append_dropWhile (p := fun c => !isSeparator c) (l := t)] at hc
      refine (List.mem_append.1 hc).resolve_left fun htake => ?_
      simpa [hseparator] using List.mem_takeWhile_imp htake
    exact absurd (List.dropWhile_eq_nil_iff.1 hnil c hrest)
      (by simp [(of_isSeparator hseparator).1])
  · rename_i hnone
    rw [Bool.not_eq_true, List.any_eq_false] at hnone
    have htake : (t.takeWhile fun c => !isSeparator c) = t := by
      rw [List.takeWhile_eq_self_iff]
      exact fun c hc => by simp [hnone c hc]
    have hdrop : (t.dropWhile fun c => !isSeparator c) = [] := by
      rw [List.dropWhile_eq_nil_iff]
      exact fun c hc => by simp [hnone c hc]
    rw [valueOfText, hvalue, htake, hdrop, trim_eq_self htrim.1 htrim.2]
    rfl

/-- A value in front of more than blanks is only the beginning of a text. -/
theorem skipSpaces_ne_nil {front rest : Text} (hne : rest ≠ []) (h : Trimmed (front ++ rest)) :
    skipSpaces rest ≠ [] := by
  intro hnil
  have hspace := List.dropWhile_eq_nil_iff.1 hnil _ (List.getLast_mem hne)
  have hlast : (front ++ rest).getLast? = some (rest.getLast hne) := by
    rw [List.getLast?_append_of_ne_nil _ hne, List.getLast?_eq_some_getLast hne]
  rw [isSpace_eq_false (h.2 _ hlast)] at hspace
  exact nomatch hspace

/-- A text that begins like nothing else stands for itself. A truth value may be its beginning, but
    is not the whole of it. -/
theorem valueOfText_verbatim {t : Text} (h : isVerbatim t = true) : valueOfText t = .text t := by
  simp only [isVerbatim, Bool.and_eq_true, Bool.not_eq_true', Option.any_eq_false, bne_iff_ne,
    ne_eq] at h
  obtain ⟨⟨⟨⟨hmark, hhead⟩, hlast⟩, hnotTrue⟩, hnotFalse⟩ := h
  have htrim : Trimmed t := ⟨hhead, hlast⟩
  by_cases htrue : "true".toList <+: t
  · obtain ⟨rest, rfl⟩ := htrue
    have hne : rest ≠ [] := fun hnil => hnotTrue (by rw [hnil, List.append_nil])
    exact valueOfText_of_rest (skipSpaces_ne_nil hne htrim) fun fuel => by rw [valueOf]; rfl
  by_cases hfalse : "false".toList <+: t
  · obtain ⟨rest, rfl⟩ := hfalse
    have hne : rest ≠ [] := fun hnil => hnotFalse (by rw [hnil, List.append_nil])
    exact valueOfText_of_rest (skipSpaces_ne_nil hne htrim) fun fuel => by rw [valueOf]; rfl
  rw [valueOfText_plain htrim ?_ htrue hfalse, plainValue_eq_text hmark, ite_self]
  intro c hc
  refine ⟨?_, ?_, ?_, ?_⟩ <;> rintro rfl <;> exact absurd (hmark _ hc) (by decide)

theorem valueOfText_numeral (zeros : Nat) {n : Nat} (h : n < Word.limit) :
    valueOfText (List.replicate zeros '0' ++ Text.ofNat n) = .natural n := by
  have hdigits : ∀ c ∈ List.replicate zeros '0' ++ Text.ofNat n, c.isDigit = true := fun c hc =>
    Text.isDigit_of_mem_zeros_ofNat hc
  have hhead : ∀ c ∈ (List.replicate zeros '0' ++ Text.ofNat n).head?, c.isDigit = true :=
    fun c hc => hdigits c (List.mem_of_mem_head? hc)
  have htrim : Trimmed (List.replicate zeros '0' ++ Text.ofNat n) :=
    ⟨fun c hc => Text.isBlank_of_isDigit (hhead c hc),
      fun c hc => Text.isBlank_of_isDigit (hdigits c (List.mem_of_getLast? hc))⟩
  have hseparator : (List.replicate zeros '0' ++ Text.ofNat n).any isSeparator = false := by
    refine List.any_eq_false.2 fun c hc hseparator => ?_
    exact absurd ((hdigits c hc).symm.trans (of_isSeparator hseparator).2) Bool.noConfusion
  rw [valueOfText_plain htrim, hseparator, if_neg Bool.false_ne_true, plainValue_numeral zeros h]
  · intro c hc
    refine ⟨?_, ?_, ?_, ?_⟩ <;> rintro rfl <;> exact absurd (hhead _ hc) (by decide)
  · exact fun htrue => absurd (hdigits 't' (htrue.subset List.mem_cons_self)) (by decide)
  · exact fun hfalse => absurd (hdigits 'f' (hfalse.subset List.mem_cons_self)) (by decide)

theorem valueOfText_quoted (t : Text) :
    valueOfText ('"' :: (Toml.escapeLine t ++ ['"'])) = .text t := by
  have hvalue (fuel : Nat) : valueOf (fuel + 1) ('"' :: (Toml.escapeLine t ++ ['"'])) =
      some (.text t, []) := by
    have hskip : skipSpaces ('"' :: (Toml.escapeLine t ++ ['"'])) =
        '"' :: (Toml.escapeLine t ++ ['"']) := skipSpaces_eq_self (by simp; decide)
    rw [valueOf, hskip]
    change Option.map _ (Option.map _ (Toml.basicBody (Toml.escapeLine t ++ '"' :: []))) = _
    rw [Toml.basicBody_escapeLine]
    rfl
  rw [valueOfText, hvalue]

/-- A spelling stands for what it spells. -/
theorem Spells.valueOfText_eq {t : Text} {d : Data} (h : Spells t d) : valueOfText t = d := by
  cases h with
  | numeral zeros n h => exact valueOfText_numeral zeros h
  | truth b => cases b <;> rfl
  | quoted t => exact valueOfText_quoted t
  | verbatim _ h => exact valueOfText_verbatim h

end Console.Environment

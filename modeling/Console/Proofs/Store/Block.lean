import Console.Proofs.Json.Scalar
import Console.Store.Stored

/-! Blocks read back. The lines between the brackets of a block give the items of a list or the
    members of an object again, whatever text stands behind the block. Each member is read from its
    value alone, and what one member makes is where the next one begins. -/

namespace Console

namespace Json

/-! ### Blanks -/

@[simp] theorem skipBlanks_space (t : Text) : skipBlanks (' ' :: t) = skipBlanks t := rfl

theorem skipBlanks_replicate (n : Nat) (t : Text) :
    skipBlanks (List.replicate n ' ' ++ t) = skipBlanks t := by
  induction n with
  | zero => rfl
  | succ n ih => exact ih

/-! ### Between items -/

theorem nextItem_first {t more : Text} (h : skipBlanks t = '"' :: more) :
    nextItem true t = .ok (some ('"' :: more)) := by
  simp [nextItem, h]

theorem nextItem_comma {t more : Text} (h : skipBlanks t = '"' :: more) :
    nextItem false (',' :: t) = .ok (some ('"' :: more)) := by
  have hcomma : skipBlanks (',' :: t) = ',' :: t := rfl
  simp [nextItem, hcomma, h]

theorem nextItem_end {first : Bool} {t rest : Text} (h : skipBlanks t = ']' :: rest) :
    nextItem first t = .ok none := by
  simp [nextItem, h]

theorem endList_eq {t rest : Text} (h : skipBlanks t = ']' :: rest) : endList t = .ok rest := by
  simp [endList, h]

theorem nextKey_first {key t rest : Text} (h : skipBlanks t = quote key ++ rest) :
    nextKey true t = .ok (some (key, rest)) := by
  rw [quote_append] at h
  simp [nextKey, h, stringBody_flatMap, Except.map]

theorem nextKey_comma {key t rest : Text} (h : skipBlanks t = quote key ++ rest) :
    nextKey false (',' :: t) = .ok (some (key, rest)) := by
  have hcomma : skipBlanks (',' :: t) = ',' :: t := rfl
  rw [quote_append] at h
  simp [nextKey, hcomma, h, stringBody_flatMap, Except.map]

theorem nextKey_end {first : Bool} {t rest : Text} (h : skipBlanks t = '\x7d' :: rest) :
    nextKey first t = .ok none := by
  simp [nextKey, h]

theorem endObject_eq {t rest : Text} (h : skipBlanks t = '\x7d' :: rest) :
    endObject t = .ok rest := by
  simp [endObject, h]

@[simp] theorem colon_space (t : Text) : colon (": ".toList ++ t) = .ok (' ' :: t) := rfl

end Json

namespace Stored

open Json

/-! ### Blocks -/

/-- The break in front of an item of a block. -/
def line (indent : Nat) : Text := '\n' :: List.replicate indent ' '

@[simp] theorem length_line (indent : Nat) : (line indent).length = indent + 1 := by
  simp [line]

@[simp] theorem skipBlanks_line (indent : Nat) (t : Text) :
    skipBlanks (line indent ++ t) = skipBlanks t := skipBlanks_replicate indent t

/-- What stands behind the first item of a block and in front of a text. -/
def blockTail (closing : Char) (indent : Nat) (rest : Text) : List Text → Text
  | [] => line indent ++ closing :: rest
  | item :: items =>
    ',' :: (line (indent + 2) ++ (item ++ blockTail closing indent rest items))

theorem join_append_eq_blockTail (closing : Char) (indent : Nat) (rest : Text) (item : Text)
    (items : List Text) :
    Text.join (',' :: line (indent + 2)) (item :: items) ++ (line indent ++ closing :: rest) =
      item ++ blockTail closing indent rest items := by
  induction items generalizing item with
  | nil => rfl
  | cons next items ih =>
    rw [Text.join, blockTail, List.append_assoc, ih next, List.append_assoc]
    · rfl
    · exact List.cons_ne_nil _ _

theorem block_cons_append (opening closing : Char) (indent : Nat) (item : Text)
    (items : List Text) (rest : Text) :
    block opening closing indent (item :: items) ++ rest =
      opening :: (line (indent + 2) ++ (item ++ blockTail closing indent rest items)) := by
  rw [← join_append_eq_blockTail]
  simp [block, line]

/-- A block goes on with a comma or with a new line. -/
theorem pastNumber_blockTail (closing : Char) (indent : Nat) (rest : Text) (items : List Text) :
    PastNumber (blockTail closing indent rest items) := by
  cases items <;> simp [PastNumber, blockTail, line]

theorem length_le_blockTail (closing : Char) (indent : Nat) (rest : Text) (items : List Text) :
    items.length ≤ (blockTail closing indent rest items).length := by
  induction items with
  | nil => exact Nat.zero_le _
  | cons item items ih =>
    simp only [blockTail, List.length_cons, List.length_append]
    omega

/-! ### Lists -/

/-- The strings behind the first one of a list are read, as long as the fuel lasts. -/
theorem items_blockTail (indent : Nat) (rest : Text) (ts : List Text) (fuel : Nat)
    (h : ts.length < fuel) :
    items string fuel false (blockTail ']' indent rest (ts.map quote)) = .ok (ts, rest) := by
  obtain ⟨fuel, rfl⟩ := Nat.exists_eq_add_one_of_ne_zero (Nat.ne_zero_of_lt h)
  induction ts generalizing fuel with
  | nil =>
    have hclose : skipBlanks (blockTail ']' indent rest []) = ']' :: rest :=
      skipBlanks_line indent _
    rw [List.map_nil, items, nextItem_end hclose]
    simp only [bind, Except.bind, pure, Except.pure, endList_eq hclose]
  | cons t ts ih =>
    obtain ⟨fuel, rfl⟩ :=
      Nat.exists_eq_add_one_of_ne_zero (Nat.ne_zero_of_lt (Nat.lt_of_succ_lt_succ h))
    have hread := string_quote t (blockTail ']' indent rest (ts.map quote))
    rw [quote_append] at hread
    rw [List.map_cons, blockTail, quote_append, items, nextItem_comma (skipBlanks_line _ _)]
    simp only [bind, Except.bind, pure, Except.pure, hread, ih fuel (Nat.lt_of_succ_lt_succ h)]

/-- A list of strings is read back from its block. -/
theorem list_block (indent : Nat) (ts : List Text) (rest : Text) :
    list string (block '[' ']' indent (ts.map quote) ++ rest) = .ok (ts, rest) := by
  cases ts with
  | nil => rfl
  | cons t ts =>
    have hread := string_quote t (blockTail ']' indent rest (ts.map quote))
    have hlength := length_le_blockTail ']' indent rest (ts.map quote)
    rw [List.length_map] at hlength
    rw [quote_append] at hread
    rw [List.map_cons, block_cons_append, quote_append]
    have hitems := items_blockTail indent rest ts
      (line (indent + 2) ++ '"' :: (t.flatMap escapeChar ++ '"' ::
        blockTail ']' indent rest (ts.map quote))).length
      (by simp only [List.length_append, List.length_cons]; omega)
    show items string (_ + 1) true _ = _
    rw [items, nextItem_first (skipBlanks_line _ _)]
    simp only [bind, Except.bind, pure, Except.pure, hread, hitems]

/-! ### Objects -/

/-- The members of an object, by their keys and the texts of their values, are read one after the
    other, each from its value and whatever may stand behind a value. -/
inductive Fills {σ : Type} (member : σ → Text → Reader σ) : σ → List (Text × Text) → σ → Prop where
  | nil (s : σ) : Fills member s [] s
  | cons {s s' s'' : σ} {key value : Text} {fields : List (Text × Text)}
    (read : ∀ rest, PastNumber rest →
      member s key (": ".toList ++ (value ++ rest)) = .ok (s', rest))
    (more : Fills member s' fields s'') : Fills member s ((key, value) :: fields) s''

/-- The text of a field. -/
def fieldText (field : Text × Text) : Text := memberText field.1 field.2

theorem fieldText_append (key value rest : Text) :
    fieldText (key, value) ++ rest = quote key ++ (": ".toList ++ (value ++ rest)) := by
  simp [fieldText, memberText]

theorem skipBlanks_quote (t rest : Text) : skipBlanks (quote t ++ rest) = quote t ++ rest := rfl

variable {σ : Type} {member : σ → Text → Reader σ}

/-- The members behind the first one of an object are read, as long as the fuel lasts. -/
theorem Fills.members_blockTail {s s' : σ} {fields : List (Text × Text)}
    (h : Fills member s fields s') (indent : Nat) (rest : Text) (fuel : Nat)
    (hfuel : fields.length < fuel) :
    members member fuel false s (blockTail '\x7d' indent rest (fields.map fieldText)) =
      .ok (s', rest) := by
  obtain ⟨fuel, rfl⟩ := Nat.exists_eq_add_one_of_ne_zero (Nat.ne_zero_of_lt hfuel)
  induction h generalizing fuel with
  | nil s =>
    have hclose : skipBlanks (blockTail '\x7d' indent rest []) = '\x7d' :: rest :=
      skipBlanks_line indent _
    rw [List.map_nil, members, nextKey_end hclose]
    simp only [bind, Except.bind, pure, Except.pure, endObject_eq hclose]
  | @cons _ _ _ key value fields read more ih =>
    obtain ⟨fuel, rfl⟩ :=
      Nat.exists_eq_add_one_of_ne_zero (Nat.ne_zero_of_lt (Nat.lt_of_succ_lt_succ hfuel))
    have hread := read _ (pastNumber_blockTail '\x7d' indent rest (fields.map fieldText))
    rw [List.map_cons, blockTail, fieldText_append, members,
      nextKey_comma ((skipBlanks_line _ _).trans (skipBlanks_quote _ _))]
    simp only [bind, Except.bind, hread, ih fuel (Nat.lt_of_succ_lt_succ hfuel)]

/-- An object is read back from its block, behind its brace. -/
theorem Fills.objectBody_block {s s' : σ} {fields : List (Text × Text)}
    (h : Fills member s fields s') (indent : Nat) (rest : Text) :
    ∃ body, block '\x7b' '\x7d' indent (fields.map fieldText) ++ rest = '\x7b' :: body ∧
      objectBody member s body = .ok (s', rest) := by
  cases h with
  | nil => exact ⟨_, rfl, rfl⟩
  | @cons _ _ _ key value fields read more =>
    have hread := read _ (pastNumber_blockTail '\x7d' indent rest (fields.map fieldText))
    have hlength := length_le_blockTail '\x7d' indent rest (fields.map fieldText)
    rw [List.length_map] at hlength
    refine ⟨_, by rw [List.map_cons, block_cons_append, fieldText_append], ?_⟩
    have hmembers := more.members_blockTail indent rest
      (line (indent + 2) ++ (quote key ++ (": ".toList ++ (value ++
        blockTail '\x7d' indent rest (fields.map fieldText))))).length
      (by simp only [List.length_append, length_line]; omega)
    rw [objectBody, members,
      nextKey_first ((skipBlanks_line _ _).trans (skipBlanks_quote _ _))]
    simp only [bind, Except.bind, hread, hmembers]

end Stored

end Console

import Console.Proofs.Files.Naming
import Console.Text.Octets

/-! Octets of texts that have parts. In UTF-8 a character below 128 is one byte, and that byte is in
    no other character. So a text that is split at slashes has the octets of its parts between the
    same slashes. -/

namespace Console

/-! ### Octets -/

namespace Octets

/-- The octets of a character. -/
def ofChar (c : Char) : Text := (String.utf8EncodeChar c).map fun b => Char.ofNat b.toNat

theorem toList_loop (bytes : ByteArray) (i : Nat) (front : List UInt8) :
    ByteArray.toList.loop bytes i front = front.reverse ++ bytes.data.toList.drop i := by
  fun_induction ByteArray.toList.loop bytes i front with
  | case1 i front hi ih =>
    have hi' : i < bytes.data.toList.length := by simpa using hi
    rw [ih, List.reverse_cons, List.append_assoc, List.drop_eq_getElem_cons hi']
    simp [ByteArray.get!, getElem!_pos bytes.data i (by simpa using hi)]
  | case2 i front hi =>
    have hi' : bytes.data.toList.length ≤ i := by simpa using hi
    rw [List.drop_of_length_le hi', List.append_nil]

theorem ofText_eq_flatMap (t : Text) : ofText t = t.flatMap ofChar := by
  have hbytes : (Text.toUtf8 t).data.toList = t.flatMap String.utf8EncodeChar := by
    rw [Text.toUtf8, String.toUTF8_eq_toByteArray, String.toByteArray_ofList, List.utf8Encode,
      List.toList_data_toByteArray]
  rw [ofText, ByteArray.toList, toList_loop, List.reverse_nil, List.nil_append, List.drop_zero,
    hbytes, List.map_flatMap]
  rfl

theorem ofText_cons (c : Char) (t : Text) : ofText (c :: t) = ofChar c ++ ofText t := by
  rw [ofText_eq_flatMap, ofText_eq_flatMap, List.flatMap_cons]

theorem ofText_append (t t' : Text) : ofText (t ++ t') = ofText t ++ ofText t' := by
  simp only [ofText_eq_flatMap, List.flatMap_append]

/-- A character below 128 is one byte. -/
theorem ofChar_of_lt {c : Char} (h : c.toNat < 128) : ofChar c = [c] := by
  have hsmall : c.val.toNat ≤ 127 := Nat.le_of_lt_succ h
  have hbyte : (UInt8.ofNat c.val.toNat).toNat = c.toNat := by
    rw [UInt8.toNat_ofNat']
    exact Nat.mod_eq_of_lt (by omega)
  rw [ofChar, String.utf8EncodeChar, if_pos hsmall, List.map_singleton, hbyte, Char.ofNat_toNat]

/-- The bytes of any other character are 128 and more. -/
theorem le_of_mem_utf8EncodeChar {c : Char} {b : UInt8} (hc : 128 ≤ c.toNat)
    (h : b ∈ String.utf8EncodeChar c) : 128 ≤ b.toNat := by
  have hlarge : ¬ c.val.toNat ≤ 127 := Nat.not_le.2 hc
  unfold String.utf8EncodeChar at h
  dsimp only at h
  rw [if_neg hlarge] at h
  split at h
  · simp only [List.mem_cons, List.not_mem_nil, or_false] at h
    obtain rfl | rfl := h <;> rw [UInt8.toNat_ofNat'] <;> omega
  split at h
  · simp only [List.mem_cons, List.not_mem_nil, or_false] at h
    obtain rfl | rfl | rfl := h <;> rw [UInt8.toNat_ofNat'] <;> omega
  · simp only [List.mem_cons, List.not_mem_nil, or_false] at h
    obtain rfl | rfl | rfl | rfl := h <;> rw [UInt8.toNat_ofNat'] <;> omega

/-- A character below 128 is among the octets of no other one. -/
theorem eq_of_mem_ofChar {a c : Char} (ha : a.toNat < 128) (h : a ∈ ofChar c) : a = c := by
  by_cases hc : c.toNat < 128
  · rw [ofChar_of_lt hc] at h
    exact List.mem_singleton.1 h
  · obtain ⟨b, hb, rfl⟩ := List.mem_map.1 h
    have hlarge := le_of_mem_utf8EncodeChar (Nat.le_of_not_lt hc) hb
    have hvalid : b.toNat.isValidChar := .inl (Nat.lt_trans b.toNat_lt (by decide))
    rw [Char.ofNat, dif_pos hvalid] at ha
    exact absurd ha (Nat.not_lt.2 hlarge)

theorem mem_ofText {a : Char} (ha : a.toNat < 128) {t : Text} : a ∈ ofText t ↔ a ∈ t := by
  rw [ofText_eq_flatMap, List.mem_flatMap]
  constructor
  · rintro ⟨c, hc, hmem⟩
    exact eq_of_mem_ofChar ha hmem ▸ hc
  · intro hmem
    refine ⟨a, hmem, ?_⟩
    rw [ofChar_of_lt ha]
    exact List.mem_singleton_self a

/-- Characters below 128 at the front are the same in the octets. -/
theorem head?_ofText {a : Char} (ha : a.toNat < 128) (t : Text) :
    (ofText t).head? = some a ↔ t.head? = some a := by
  cases t with
  | nil => rw [ofText_eq_flatMap, List.flatMap_nil]
  | cons c t =>
    have hne : ofChar c ≠ [] := by
      rw [ofChar, ne_eq, List.map_eq_nil_iff]
      exact String.utf8EncodeChar_ne_nil
    rw [ofText_cons, List.head?_append_of_ne_nil _ hne, List.head?_cons]
    constructor
    · intro h
      rw [eq_of_mem_ofChar ha (List.mem_of_mem_head? h)]
    · intro h
      obtain rfl := Option.some.inj h
      rw [ofChar_of_lt ha]
      rfl

theorem ofText_eq_nil {t : Text} : ofText t = [] ↔ t = [] := by
  rw [ofText_eq_flatMap, List.flatMap_eq_nil_iff]
  constructor
  · intro h
    refine List.eq_nil_iff_forall_not_mem.2 fun c hc => ?_
    have := h c hc
    rw [ofChar, List.map_eq_nil_iff] at this
    exact String.utf8EncodeChar_ne_nil this
  · rintro rfl c hc
    exact nomatch hc

theorem ofText_eq_singleton {a : Char} (ha : a.toNat < 128) {t : Text} :
    ofText t = [a] ↔ t = [a] := by
  constructor
  · intro h
    cases t with
    | nil => rw [ofText_eq_nil.2 rfl] at h; exact nomatch h
    | cons c t =>
      have hhead := (head?_ofText ha (c :: t)).1 (by rw [h]; rfl)
      obtain rfl := Option.some.inj hhead
      rw [ofText_cons, ofChar_of_lt ha] at h
      rw [ofText_eq_nil.1 (List.cons.inj h).2]
  · rintro rfl
    rw [ofText_cons, ofChar_of_lt ha, ofText_eq_nil.2 rfl]
    rfl

theorem ofText_join {a : Char} (ha : a.toNat < 128) (parts : List Text) :
    ofText (Text.join [a] parts) = Text.join [a] (parts.map ofText) := by
  induction parts with
  | nil => exact ofText_eq_nil.2 rfl
  | cons part parts ih =>
    by_cases hparts : parts = []
    · subst hparts
      rfl
    · have hparts' : parts.map ofText ≠ [] := by rwa [ne_eq, List.map_eq_nil_iff]
      rw [Text.join_cons _ _ hparts, List.map_cons, Text.join_cons _ _ hparts', ofText_append,
        ofText_append, (ofText_eq_singleton ha).2 rfl, ih]

/-- The octets of a text are split where the text is. -/
theorem splitOn_ofText {a : Char} (ha : a.toNat < 128) (t : Text) :
    Text.splitOn a (ofText t) = (Text.splitOn a t).map ofText := by
  rw [← Text.join_splitOn a t, ofText_join ha, Text.join_splitOn]
  refine Text.splitOn_join ?_ fun part hpart => ?_
  · rw [ne_eq, List.map_eq_nil_iff]
    exact Text.splitOn_ne_nil a t
  · obtain ⟨own, hown, rfl⟩ := List.mem_map.1 hpart
    rw [mem_ofText ha]
    exact Text.notMem_of_mem_splitOn hown

end Octets

end Console

import Console.Proofs.Except
import Console.Proofs.Store.Block

/-! The JSON form of a stored content reads back as that content, its lists by title in their order.
    Whatever text is read as a content, its size is below the limit of the numerals, so it can be
    written and read again. -/

namespace Console

namespace Json

/-! ### What was read -/

/-- What every member preserves, a whole object preserves. -/
theorem members_preserve {σ : Type} {member : σ → Text → Reader σ} {P : σ → Prop}
    (hmember : ∀ {s key t s' rest}, P s → member s key t = .ok (s', rest) → P s') {fuel : Nat}
    {first : Bool} {s s' : σ} {t rest : Text} (hs : P s)
    (h : members member fuel first s t = .ok (s', rest)) : P s' := by
  induction fuel generalizing first s t with
  | zero => exact nomatch h
  | succ fuel ih =>
    obtain ⟨key, -, h⟩ := bind_ok h
    cases key with
    | none =>
      obtain ⟨_, -, h⟩ := bind_ok h
      exact (Prod.mk.inj (Except.ok.inj h)).1 ▸ hs
    | some key =>
      obtain ⟨⟨s₁, _⟩, hread, h⟩ := bind_ok h
      exact ih (hmember hs hread) h

end Json

/-! ### Lists by title -/

namespace Buckets

/-- A title behind all others goes to the end. -/
theorem insertEntry_of_lt (title : Text) (commands : List Text) :
    ∀ entries : List (Text × List Text), (∀ entry ∈ entries, entry.1 < title) →
      insertEntry title commands entries = entries ++ [(title, commands)]
  | [], _ => rfl
  | (other, kept) :: rest, h => by
    have hlt : other < title := h (other, kept) List.mem_cons_self
    rw [insertEntry, if_neg (List.lt_asymm hlt), if_neg fun heq => List.lt_irrefl _ (heq ▸ hlt),
      insertEntry_of_lt title commands rest fun entry he => h entry (List.mem_cons_of_mem _ he)]
    rfl

/-- Entries in their order are put behind those that are there. -/
theorem entries_foldl_insert (entries : List (Text × List Text)) (b : Buckets)
    (h : (b.entries ++ entries).Pairwise fun a b => a.1 < b.1) :
    (entries.foldl (fun b entry => b.insert entry.1 entry.2) b).entries = b.entries ++ entries := by
  induction entries generalizing b with
  | nil => simp
  | cons entry entries ih =>
    have hlt : ∀ before ∈ b.entries, before.1 < entry.1 := fun before hb =>
      (List.pairwise_append.1 h).2.2 before hb entry List.mem_cons_self
    have hinsert : (b.insert entry.1 entry.2).entries = b.entries ++ [entry] :=
      insertEntry_of_lt entry.1 entry.2 b.entries hlt
    rw [List.foldl_cons, ih _ (by rw [hinsert]; simpa using h), hinsert, List.append_assoc]
    rfl

theorem ext_entries {b b' : Buckets} (h : b.entries = b'.entries) : b = b' := by
  cases b
  cases b'
  cases h
  rfl

instance : DecidableEq Buckets := fun b b' =>
  decidable_of_iff (b.entries = b'.entries) ⟨ext_entries, congrArg entries⟩

/-- The entries of lists by title make the same lists again. -/
theorem foldl_insert_entries (b : Buckets) :
    b.entries.foldl (fun b entry => b.insert entry.1 entry.2) .empty = b :=
  ext_entries (entries_foldl_insert b.entries .empty (by simpa [empty] using b.ordered))

end Buckets

deriving instance DecidableEq for Stored

namespace Stored

open Json

/-- The key of a bucket and the text of its list. -/
def bucketField (entry : Text × List Text) : Text × Text :=
  (entry.1, block '[' ']' 4 (entry.2.map quote))

theorem readBucket_block (b : Buckets) (title : Text) (commands : List Text) (rest : Text) :
    readBucket b title (": ".toList ++ (block '[' ']' 4 (commands.map quote) ++ rest)) =
      .ok (b.insert title commands, rest) := by
  have hlist : list string (' ' :: (block '[' ']' 4 (commands.map quote) ++ rest)) =
      .ok (commands, rest) := list_block 4 commands rest
  rw [readBucket, colon_space]
  simp only [bind, Except.bind, pure, Except.pure, hlist]

theorem fills_buckets (b : Buckets) (entries : List (Text × List Text)) :
    Fills readBucket b (entries.map bucketField)
      (entries.foldl (fun b entry => b.insert entry.1 entry.2) b) := by
  induction entries generalizing b with
  | nil => exact .nil b
  | cons entry entries ih =>
    exact .cons (fun rest _ => readBucket_block b entry.1 entry.2 rest) (ih _)

/-- The text of the lists by title. -/
def bucketsText (b : Buckets) : Text :=
  block '\x7b' '\x7d' 2 ((b.entries.map bucketField).map fieldText)

theorem readBuckets_text (b : Buckets) (rest : Text) :
    readBuckets (' ' :: (bucketsText b ++ rest)) = .ok (b, rest) := by
  obtain ⟨body, hbody, hread⟩ := (fills_buckets .empty b.entries).objectBody_block 2 rest
  rw [Buckets.foldl_insert_entries] at hread
  rw [bucketsText, hbody]
  exact hread

/-- The text of the size. -/
def sizeText : Option Nat → Text
  | none => "null".toList
  | some n => Text.ofNat n

theorem readSize_text {size : Option Nat} {rest : Text} (h : ∀ n ∈ size, n < naturalLimit)
    (hrest : PastNumber rest) : readSize (' ' :: (sizeText size ++ rest)) = .ok (size, rest) := by
  cases size with
  | none => rfl
  | some n =>
    obtain ⟨c, more, hcons, hc⟩ := exists_ofNat_append n rest
    have hread := natural_ofNat (h n rfl) hrest
    rw [hcons] at hread
    rw [readSize, sizeText, Json.optional, hcons, skipBlanks_space, skipBlanks_of_isDigit hc]
    split
    · rename_i heq
      rw [(List.cons.inj heq).1] at hc
      exact absurd hc (by decide)
    · rw [hread]
      rfl

/-! ### The whole content -/

/-- The fields of the object. -/
def fields (s : Stored) : List (Text × Text) :=
  [(bucketsKey, bucketsText s.buckets), (sizeKey, sizeText s.size)]

theorem toJson_eq (s : Stored) : s.toJson = block '\x7b' '\x7d' 0 (s.fields.map fieldText) := by
  unfold toJson fields sizeText bucketsText
  rw [List.map_map]
  rfl

theorem fills_fields (s : Stored) (h : ∀ n ∈ s.size, n < naturalLimit) :
    Fills readMember ⟨none, none⟩ s.fields ⟨some s.buckets, some s.size⟩ := by
  have hsize : Fills readMember ⟨some s.buckets, none⟩ [(sizeKey, sizeText s.size)]
      ⟨some s.buckets, some s.size⟩ := by
    refine .cons (fun rest hrest => ?_) (.nil _)
    rw [readMember, if_neg (by decide), if_pos rfl, colon_space]
    simp only [bind, Except.bind, pure, Except.pure, readSize_text h hrest]
    rfl
  refine .cons (fun rest _ => ?_) hsize
  rw [readMember, if_pos rfl, colon_space]
  simp only [bind, Except.bind, pure, Except.pure, readBuckets_text]
  rfl

/-- What is written is read back. -/
theorem ofJson_toJson (s : Stored) (h : ∀ n ∈ s.size, n < naturalLimit) :
    ofJson s.toJson = .ok s := by
  obtain ⟨body, hbody, hread⟩ := (fills_fields s h).objectBody_block 0 []
  rw [List.append_nil] at hbody
  have hdraft : read s.toJson = .ok (s, []) := by
    rw [toJson_eq, hbody]
    show (objectBody readMember ⟨none, none⟩ body).map _ = _
    rw [hread]
    rfl
  rw [ofJson, readAll]
  simp only [bind, Except.bind, hdraft]
  rfl

/-! ### Sizes that are read -/

theorem readSize_lt {t rest : Text} {size : Option Nat} (h : readSize t = .ok (size, rest)) :
    ∀ n ∈ size, n < naturalLimit := by
  rintro n rfl
  unfold readSize Json.optional at h
  split at h
  · obtain ⟨_, -, h⟩ := map_ok h
    simp at h
  · obtain ⟨⟨m, _⟩, hread, h⟩ := map_ok h
    simp only [Prod.mk.injEq, Option.some.injEq] at h
    exact h.1 ▸ natural_lt hread

/-- A size in a draft can be written. -/
def Draft.Writable (d : Draft) : Prop := ∀ size ∈ d.size, ∀ n ∈ size, n < naturalLimit

theorem Draft.Writable.readMember {d d' : Draft} {key t rest : Text} (h : d.Writable)
    (hread : readMember d key t = .ok (d', rest)) : d'.Writable := by
  unfold Stored.readMember at hread
  split at hread
  · split at hread
    · exact nomatch hread
    · obtain ⟨_, -, hread⟩ := bind_ok hread
      obtain ⟨⟨b, _⟩, -, hread⟩ := bind_ok hread
      obtain ⟨rfl, -⟩ := Prod.mk.inj (Except.ok.inj hread)
      exact h
  split at hread
  · split at hread
    · exact nomatch hread
    · obtain ⟨_, -, hread⟩ := bind_ok hread
      obtain ⟨⟨size, _⟩, hsize, hread⟩ := bind_ok hread
      obtain ⟨rfl, -⟩ := Prod.mk.inj (Except.ok.inj hread)
      rintro _ ⟨⟩
      exact readSize_lt hsize
  · obtain ⟨_, -, hread⟩ := bind_ok hread
    obtain ⟨_, -, hread⟩ := bind_ok hread
    obtain ⟨rfl, -⟩ := Prod.mk.inj (Except.ok.inj hread)
    exact h

theorem readPlaces_lt {t rest : Text} {s : Stored} (h : readPlaces t = .ok (s, rest)) :
    ∀ n ∈ s.size, n < naturalLimit := by
  obtain ⟨first, -, h⟩ := bind_ok h
  cases first with
  | none =>
    obtain ⟨_, -, h⟩ := bind_ok h
    obtain ⟨rfl, -⟩ := Prod.mk.inj (Except.ok.inj h)
    exact fun _ hn => nomatch hn
  | some first =>
    obtain ⟨⟨b, _⟩, -, h⟩ := bind_ok h
    obtain ⟨second, -, h⟩ := bind_ok h
    cases second with
    | none =>
      obtain ⟨_, -, h⟩ := bind_ok h
      obtain ⟨rfl, -⟩ := Prod.mk.inj (Except.ok.inj h)
      exact fun _ hn => nomatch hn
    | some second =>
      obtain ⟨⟨size, _⟩, hsize, h⟩ := bind_ok h
      obtain ⟨_, -, h⟩ := bind_ok h
      obtain ⟨rfl, -⟩ := Prod.mk.inj (Except.ok.inj h)
      exact readSize_lt hsize

/-- A size that is read can be written. -/
theorem size_lt_of_ofJson {t : Text} {s : Stored} (h : ofJson t = .ok s) :
    ∀ n ∈ s.size, n < naturalLimit := by
  obtain ⟨⟨s', rest⟩, hread, h⟩ := bind_ok h
  obtain rfl : s' = s := by
    dsimp only at h
    split at h
    · exact Except.ok.inj h
    · exact nomatch h
  unfold read at hread
  split at hread
  · obtain ⟨⟨d, _⟩, hmembers, hread⟩ := map_ok hread
    obtain ⟨rfl, -⟩ := Prod.mk.inj hread
    have hd : d.Writable := members_preserve (P := Draft.Writable)
      Draft.Writable.readMember (by simp [Draft.Writable]) hmembers
    intro n hn
    cases hsize : d.size with
    | none => simp [Draft.stored, hsize] at hn
    | some size =>
      rw [Draft.stored, hsize] at hn
      exact hd size hsize n hn
  · exact readPlaces_lt hread
  · exact nomatch hread

end Stored

end Console

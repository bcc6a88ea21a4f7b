import Console.History
import Console.Proofs.Text.Lowercase
import Console.Proofs.Text.Parts

/-! What a search finds. The entries are found newest first, each as often as it occurs, if the
    lowercase of the query occurs in theirs. An entry in which the query itself occurs is among
    them, unless the rest of the entry decides the form of a capital sigma of the query. In ASCII a
    search ignores the case of letters, and nothing else. -/

namespace Console.History

theorem mem_search_iff {h : History} {query e : Text} :
    e ∈ h.search query ↔ e ∈ h.entries ∧ query.lower <:+: e.lower := by
  rw [search, List.mem_filter, List.mem_reverse, Text.contains_iff_infix]

theorem search_sublist (h : History) (query : Text) :
    (h.search query).Sublist h.entries.reverse := List.filter_sublist

/-- An entry that is found is found as often as it occurs. -/
theorem count_search {h : History} {query e : Text} (he : e ∈ h.search query) :
    (h.search query).count e = h.entries.count e := by
  obtain ⟨-, hfound⟩ := List.mem_filter.1 he
  have hcount : (h.search query).count e = h.entries.reverse.count e :=
    List.count_filter (p := fun e' : Text => Text.contains query.lower e'.lower) hfound
  exact hcount.trans List.count_reverse

/-- A query is found wherever it occurs if its sigmas are settled within it, and only then. -/
theorem forall_mem_search_iff (query : Text) :
    (∀ h : History, ∀ e ∈ h.entries, query <:+: e → e ∈ h.search query) ↔ query.Settled := by
  constructor
  · intro hall
    by_contra hsettled
    obtain ⟨e, hoccurs, hmissed⟩ := Text.exists_not_lower_infix hsettled
    have hfound := hall (.ofEntries [e] defaultLimit) e (List.mem_singleton_self e) hoccurs
    exact hmissed (mem_search_iff.1 hfound).2
  · intro hsettled h e he hoccurs
    exact mem_search_iff.2 ⟨he, hsettled.lower_infix hoccurs⟩

/-- Without a capital sigma in it, a query is found wherever it occurs. -/
theorem mem_search_of_infix {h : History} {query e : Text} (hquery : 'Σ' ∉ query)
    (he : e ∈ h.entries) (hoccurs : query <:+: e) : e ∈ h.search query :=
  (forall_mem_search_iff query).2 (Text.settled_of_notMem hquery) h e he hoccurs

/-- In ASCII an entry is found if some part of it is the query up to the case of letters. -/
theorem mem_search_ascii_iff {h : History} {query e : Text} (he : e ∈ h.entries)
    (hquery : ∀ c ∈ query, c.toNat < 128) (hentry : ∀ c ∈ e, c.toNat < 128) :
    e ∈ h.search query ↔ ∃ part : Text, part <:+: e ∧ part.lowerAscii = query.lowerAscii := by
  rw [mem_search_iff, Text.lower_of_lt hquery, Text.lower_of_lt hentry, Text.lowerAscii,
    Text.lowerAscii, List.infix_map_iff]
  simp only [he, true_and, eq_comm, Text.lowerAscii]

/-- A search finds every entry in which the query occurs, in every history, exactly if the sigmas of
    the query are settled within it. Always it finds entries newest first, each that it finds as
    often as it occurs, and in ASCII it finds an entry exactly if a part of it is the query up to
    the case of letters. -/
theorem search_finds_occurrences (query : Text) :
    ((∀ h : History, ∀ e ∈ h.entries, query <:+: e → e ∈ h.search query) ↔ query.Settled) ∧
    ∀ h : History, (h.search query).Sublist h.entries.reverse ∧
      (∀ e ∈ h.search query, (h.search query).count e = h.entries.count e) ∧
      ((∀ c ∈ query, c.toNat < 128) → ∀ e ∈ h.entries, (∀ c ∈ e, c.toNat < 128) →
        (e ∈ h.search query ↔ ∃ part : Text, part <:+: e ∧ part.lowerAscii = query.lowerAscii)) :=
  ⟨forall_mem_search_iff query, fun h => ⟨search_sublist h query, fun _ he => count_search he,
    fun hquery _ he hentry => mem_search_ascii_iff he hquery hentry⟩⟩

/-- A command that was given twice is found twice, and a sigma in front of a letter is found. -/
theorem search_finds_occurrences_of_settled :
    ∃ h : History, h = .ofEntries [['L', 'S'], ['ο', 'Σ', 'Ο'], ['L', 'S']] 3 ∧
      (h.search ['s']).count ['L', 'S'] = 2 ∧ ['ο', 'Σ', 'Ο'] ∈ h.search ['Σ', 'Ο'] := by
  refine ⟨_, rfl, ?_, ?_⟩
  · obtain ⟨-, hcount, hascii⟩ := (search_finds_occurrences ['s']).2
      (.ofEntries [['L', 'S'], ['ο', 'Σ', 'Ο'], ['L', 'S']] 3)
    have hpart : ∃ part : Text, part <:+: ['L', 'S'] ∧ part.lowerAscii = Text.lowerAscii ['s'] :=
      ⟨['S'], by decide, rfl⟩
    exact hcount _ ((hascii (by simp) ['L', 'S'] (by decide) (by simp)).2 hpart)
  · have hsettled : Text.Settled ['Σ', 'Ο'] := by
      intro before after hsplit
      have hletter : Text.nextCased? ['Ο'] = some true := by decide +kernel
      cases before with
      | nil =>
        have hrest : ['Ο'] = after := (List.cons.inj hsplit).2
        rw [← hrest]
        exact .inr (.inl hletter)
      | cons c before =>
        have hlater : 'Σ' ∈ before ++ 'Σ' :: after := List.mem_append_right _ List.mem_cons_self
        have hrest : ['Ο'] = before ++ 'Σ' :: after := (List.cons.inj hsplit).2
        rw [← hrest] at hlater
        exact absurd hlater (by decide)
    exact (search_finds_occurrences ['Σ', 'Ο']).1.2 hsettled _ _ (by decide) (by decide)

/-- A sigma that ends a word is missed, although it occurs. -/
theorem not_forall_mem_search_of_infix :
    ¬ ∀ (h : History) (query : Text), ∀ e ∈ h.entries, query <:+: e → e ∈ h.search query := by
  intro hall
  have hfound := hall (.ofEntries [['Α', 'Σ']] defaultLimit) ['Σ'] ['Α', 'Σ'] (by decide)
    (by decide)
  revert hfound
  decide +kernel

end Console.History

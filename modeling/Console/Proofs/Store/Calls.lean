import Console.Store.Basic
import Console.Word
import Mathlib.Data.List.Basic

/-! What the calls of a store may do. A relation between two stores that every call preserves makes
    the two answer alike; a store that its content relates in this way to memory does not fail. More
    loosely, each call may end as in memory or fail and change nothing. A schedule decides call by
    call which of the two it is. -/

namespace Console

/-! ### Buckets -/

namespace Buckets

theorem lookup_cons_ite (key other : Text) (kept : List Text) (rest : List (Text × List Text)) :
    ((key, kept) :: rest).lookup other = if other = key then some kept else rest.lookup other := by
  rw [List.lookup_cons]
  by_cases h : other = key
  · simp [h]
  · simp [h, beq_false_of_ne h]

theorem lookup_insertEntry (title other : Text) (commands : List Text) :
    ∀ entries : List (Text × List Text), (insertEntry title commands entries).lookup other =
      if other = title then some commands else entries.lookup other
  | [] => lookup_cons_ite title other commands []
  | (key, kept) :: rest => by
    unfold insertEntry
    split
    · exact lookup_cons_ite title other commands _
    split
    · rename_i heq
      subst heq
      rw [lookup_cons_ite, lookup_cons_ite]
      split <;> rfl
    · rename_i hne
      rw [lookup_cons_ite, lookup_cons_ite, lookup_insertEntry title other commands rest]
      by_cases hkey : other = key
      · rw [if_pos hkey, if_pos hkey, if_neg (hkey ▸ Ne.symm hne)]
      · rw [if_neg hkey, if_neg hkey]

/-- A save is found under its own title, and nothing else changes. -/
theorem find?_insert (b : Buckets) (title other : Text) (commands : List Text) :
    (b.insert title commands).find? other =
      if other = title then some commands else b.find? other :=
  lookup_insertEntry title other commands b.entries

theorem find?_insert_self (b : Buckets) (title : Text) (commands : List Text) :
    (b.insert title commands).find? title = some commands := by
  rw [find?_insert, if_pos rfl]

theorem find?_insert_of_ne (b : Buckets) {title other : Text} (h : other ≠ title)
    (commands : List Text) : (b.insert title commands).find? other = b.find? other := by
  rw [find?_insert, if_neg h]

end Buckets

/-- The commands stored under a title. A title without a bucket has none. -/
def Stored.commands (s : Stored) (title : Text) : List Text := (s.buckets.find? title).getD []

namespace Store

variable {σ τ : Type} [Store σ] [Store τ]

/-! ### Stores that answer alike -/

omit [Store σ] [Store τ] in
/-- Two outcomes that are the same but for the stores, which are related. -/
structure Agree {β : Type} (R : σ → τ → Prop) (c : β × σ) (c' : β × τ) : Prop where
  answer : c'.1 = c.1
  store : R c.2 c'.2

/-- A relation between two stores that the calls about one title preserve, with the same answers on
    both sides. Of the sizes only those need be saved that fit, and those that a command can set
    do. -/
structure SimAt (title : Text) (fits : Nat → Prop) (R : σ → τ → Prop) : Prop where
  fits_of_lt {size : Nat} : size < Word.limit → fits size
  loadHistory {s : σ} {t : τ} : R s t →
    Agree R (Store.loadHistory s title) (Store.loadHistory t title)
  saveHistory {s : σ} {t : τ} (commands : List Text) : R s t →
    Agree R (Store.saveHistory s title commands) (Store.saveHistory t title commands)
  loadSize {s : σ} {t : τ} : R s t → Agree R (Store.loadSize s) (Store.loadSize t)
  saveSize {s : σ} {t : τ} {size : Nat} : fits size → R s t →
    Agree R (Store.saveSize s size) (Store.saveSize t size)

/-- A relation between two stores that all calls preserve. -/
abbrev Sim (fits : Nat → Prop) (R : σ → τ → Prop) : Prop := ∀ title, SimAt title fits R

/-- A map between two stores that all calls respect. -/
abbrev Hom (f : σ → τ) : Prop := Sim (fun _ => True) fun s t => f s = t

theorem Hom.of_calls {f : σ → τ}
    (loadHistory : ∀ s title, Store.loadHistory (f s) title = (Store.loadHistory s title).map id f)
    (saveHistory : ∀ s title commands,
      Store.saveHistory (f s) title commands = (Store.saveHistory s title commands).map id f)
    (loadSize : ∀ s, Store.loadSize (f s) = (Store.loadSize s).map id f)
    (saveSize : ∀ s size, Store.saveSize (f s) size = (Store.saveSize s size).map id f) :
    Hom f := by
  refine fun title => ⟨fun _ => trivial, ?_, ?_, ?_, ?_⟩
  · rintro s _ rfl
    exact loadHistory s title ▸ ⟨rfl, rfl⟩
  · rintro s _ commands rfl
    exact saveHistory s title commands ▸ ⟨rfl, rfl⟩
  · rintro s _ rfl
    exact loadSize s ▸ ⟨rfl, rfl⟩
  · rintro s _ size - rfl
    exact saveSize s size ▸ ⟨rfl, rfl⟩

/-! ### Stores that do not fail -/

/-- A store that does not fail as long as it is healthy: it answers as memory does that holds its
    content, and it stays healthy. Memory is healthy whatever it holds, and any size fits; a file
    takes no sizes of more than 64 bits. -/
abbrev Reliable (content : σ → Stored) (healthy : σ → Prop) (fits : Nat → Prop) : Prop :=
  Sim fits fun s stored => healthy s ∧ content s = stored

/-- Memory does not fail. -/
theorem reliable_memory : Reliable (id : Stored → Stored) (fun _ => True) fun _ => True := by
  refine fun title => ⟨fun _ => trivial, ?_, fun commands => ?_, ?_, fun _ => ?_⟩ <;>
    exact fun ⟨_, h⟩ => h ▸ ⟨rfl, trivial, rfl⟩

namespace Reliable

variable {content : σ → Stored} {healthy : σ → Prop} {fits : Nat → Prop} {s : σ}

theorem loadHistory (h : Reliable content healthy fits) (hs : healthy s) (title : Text) :
    healthy (Store.loadHistory s title).2 ∧
      (Store.loadHistory s title).1 = .ok ((content s).buckets.find? title) ∧
      content (Store.loadHistory s title).2 = content s := by
  obtain ⟨hanswer, hhealthy, hcontent⟩ := (h title).loadHistory ⟨hs, rfl⟩
  exact ⟨hhealthy, hanswer.symm, hcontent⟩

theorem saveHistory (h : Reliable content healthy fits) (hs : healthy s) (title : Text)
    (commands : List Text) :
    healthy (Store.saveHistory s title commands).2 ∧
      content (Store.saveHistory s title commands).2 =
        { content s with buckets := (content s).buckets.insert title commands } :=
  ((h title).saveHistory commands ⟨hs, rfl⟩).store

theorem loadSize (h : Reliable content healthy fits) (hs : healthy s) :
    healthy (Store.loadSize s).2 ∧ (Store.loadSize s).1 = .ok (content s).size ∧
      content (Store.loadSize s).2 = content s := by
  obtain ⟨hanswer, hhealthy, hcontent⟩ := (h []).loadSize ⟨hs, rfl⟩
  exact ⟨hhealthy, hanswer.symm, hcontent⟩

end Reliable

/-! ### Stores that may fail -/

/-- A call ends as it does in memory, or it fails and changes nothing. -/
def EndsOrFails {β : Type} (content : σ → Stored) (s : σ) (call : Call σ β)
    (inMemory : Call Stored β) : Prop :=
  call.map id content = inMemory ∨ (∃ e, call.1 = .error e) ∧ content call.2 = content s

/-- A store of which any single call may fail. -/
structure Fallible (content : σ → Stored) : Prop where
  loadHistory (s : σ) (title : Text) :
    EndsOrFails content s (Store.loadHistory s title) (Store.loadHistory (content s) title)
  saveHistory (s : σ) (title : Text) (commands : List Text) :
    EndsOrFails content s (Store.saveHistory s title commands)
      (Store.saveHistory (content s) title commands)
  loadSize (s : σ) : EndsOrFails content s (Store.loadSize s) (Store.loadSize (content s))
  saveSize (s : σ) (size : Nat) :
    EndsOrFails content s (Store.saveSize s size) (Store.saveSize (content s) size)

namespace Fallible

variable {content : σ → Stored}

theorem saveHistory_cases (h : Fallible content) (s : σ) (title : Text) (commands : List Text) :
    let c := Store.saveHistory s title commands
    c.1 = .ok () ∧ content c.2 =
        { content s with buckets := (content s).buckets.insert title commands } ∨
      (∃ e, c.1 = .error e) ∧ content c.2 = content s := by
  refine (h.saveHistory s title commands).imp_left fun hc => ?_
  exact ⟨congrArg Prod.fst hc, congrArg Prod.snd hc⟩

theorem loadHistory_content (h : Fallible content) (s : σ) (title : Text) :
    content (Store.loadHistory s title).2 = content s := by
  obtain hc | ⟨-, hc⟩ := h.loadHistory s title
  · exact congrArg Prod.snd hc
  · exact hc

theorem loadSize_content (h : Fallible content) (s : σ) :
    content (Store.loadSize s).2 = content s := by
  obtain hc | ⟨-, hc⟩ := h.loadSize s
  · exact congrArg Prod.snd hc
  · exact hc

theorem saveSize_buckets (h : Fallible content) (s : σ) (size : Nat) :
    (content (Store.saveSize s size).2).buckets = (content s).buckets := by
  obtain hc | ⟨-, hc⟩ := h.saveSize s size
  · exact congrArg (fun c => (Prod.snd c).buckets) hc
  · rw [hc]

theorem loadHistory_entries (h : Fallible content) {s s' : σ} {title : Text}
    {entries : Option (List Text)} (hload : Store.loadHistory s title = (.ok entries, s')) :
    entries = (content s).buckets.find? title := by
  obtain hc | ⟨⟨e, he⟩, -⟩ := h.loadHistory s title
  · rw [hload] at hc
    exact Except.ok.inj (congrArg Prod.fst hc)
  · rw [hload] at he
    exact nomatch he

theorem loadSize_size (h : Fallible content) {s s' : σ} {size : Option Nat}
    (hload : Store.loadSize s = (.ok size, s')) : size = (content s).size := by
  obtain hc | ⟨⟨e, he⟩, -⟩ := h.loadSize s
  · rw [hload] at hc
    exact Except.ok.inj (congrArg Prod.fst hc)
  · rw [hload] at he
    exact nomatch he

end Fallible

end Store

/-! ### A schedule of refusals -/

/-- A store with a schedule, which says of each coming call whether it is refused; calls past the
    end of the schedule are made. -/
structure Scheduled (σ : Type) where
  store : σ
  refusals : List Bool

namespace Scheduled

variable {σ : Type}

/-- Makes or refuses the next call. -/
def call {β : Type} (s : Scheduled σ) (name : Text) (f : σ → Call σ β) : Call (Scheduled σ) β :=
  if s.refusals.headD false then (.error (.refused name), ⟨s.store, s.refusals.tail⟩)
  else ((f s.store).1, ⟨(f s.store).2, s.refusals.tail⟩)

instance [Store σ] : Store (Scheduled σ) where
  loadHistory s title := s.call "load_history".toList (Store.loadHistory · title)
  saveHistory s title commands := s.call "save_history".toList (Store.saveHistory · title commands)
  loadSize s := s.call "load_buffer_size".toList Store.loadSize
  saveSize s size := s.call "save_buffer_size".toList (Store.saveSize · size)

theorem call_endsOrFails {β : Type} (s : Scheduled Stored) (name : Text)
    (f : Stored → Call Stored β) :
    Store.EndsOrFails Scheduled.store s (s.call name f) (f s.store) := by
  unfold call
  split
  · exact .inr ⟨⟨_, rfl⟩, rfl⟩
  · exact .inl rfl

/-- Memory under a schedule may fail at any call that the schedule names. -/
theorem fallible : Store.Fallible (Scheduled.store (σ := Stored)) :=
  ⟨fun s _ => s.call_endsOrFails _ _, fun s _ _ => s.call_endsOrFails _ _,
    fun s => s.call_endsOrFails _ _, fun s _ => s.call_endsOrFails _ _⟩

end Scheduled

end Console

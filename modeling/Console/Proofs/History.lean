import Console.History
import Console.Word
import Mathlib.Data.List.Basic

/-! The command history beside an account of it. The account keeps every command that ever came in,
    and counts how many of them are left: one more at a push, but never more than the limit of the
    moment. The entries are the last commands of the account, as many as it counts, so what went
    went from the old end. The cursor never leaves the entries. -/

namespace Console.History

variable {h : History}

/-! ### Single actions -/

/-- Walking over the commands does not change them. -/
theorem previous_entries (h : History) : h.previous.2.entries = h.entries := by
  unfold previous
  split <;> rfl

theorem next_entries (h : History) : h.next.2.entries = h.entries := by
  unfold next
  split <;> rfl

theorem previous_limit (h : History) : h.previous.2.limit = h.limit := by
  unfold previous
  split <;> rfl

theorem next_limit (h : History) : h.next.2.limit = h.limit := by
  unfold next
  split <;> rfl

/-- A step back goes one entry back, as long as there is one. -/
theorem previous_cursor (hcursor : h.cursor ≤ h.entries.length) :
    h.previous.2.cursor = h.cursor - 1 := by
  unfold previous
  split
  · rename_i hstays
    have hzero : h.cursor = 0 := by
      obtain hzero | hnil := hstays
      · exact hzero
      · rw [hnil] at hcursor
        exact Nat.le_zero.1 hcursor
    show h.cursor = h.cursor - 1
    omega
  · rfl

/-- A step forward goes one entry on, at most behind the newest. -/
theorem next_cursor (h : History) :
    h.next.2.cursor = min (h.cursor + 1) h.entries.length := by
  unfold next
  split
  · rename_i hlt
    exact (Nat.min_eq_left (Nat.le_of_lt hlt)).symm
  · rename_i hge
    exact (Nat.min_eq_right (Nat.le_of_not_lt hge)).symm

/-! ### What is kept -/

theorem newest_suffix (limit : Nat) (entries : List Text) : newest limit entries <:+ entries :=
  List.drop_suffix _ _

theorem length_newest (limit : Nat) (entries : List Text) :
    (newest limit entries).length = min entries.length limit := by
  rw [newest, List.length_drop]
  omega

theorem length_newest_le (limit : Nat) (entries : List Text) :
    (newest limit entries).length ≤ limit :=
  length_newest limit entries ▸ Nat.min_le_right _ _

theorem newest_of_le {limit : Nat} {entries : List Text} (hle : entries.length ≤ limit) :
    newest limit entries = entries := by
  rw [newest, Nat.sub_eq_zero_of_le hle, List.drop_zero]

/-- Something goes exactly when there is more than the limit. -/
theorem newest_ne_iff {limit : Nat} {entries : List Text} :
    newest limit entries ≠ entries ↔ limit < entries.length := by
  refine ⟨fun hne => Nat.lt_of_not_le fun hle => hne (newest_of_le hle), fun hlt heq => ?_⟩
  have hlength := length_newest limit entries
  rw [heq] at hlength
  omega

/-- Commands that are not cut off stay as they are. -/
theorem setLimit_entries {size : Nat} (hkept : (h.setLimit size).1 = false) :
    (h.setLimit size).2.entries = h.entries :=
  newest_of_le (Nat.le_of_not_lt (of_decide_eq_false hkept))

/-- A command for which there is room is added to those that are there. -/
theorem push_entries {command : Text} (hroom : h.entries.length + 1 ≤ h.limit) :
    (h.push command).2.entries = h.entries ++ [command] :=
  newest_of_le (by rwa [List.length_append, List.length_singleton])

/-- A push tells whether something went. -/
theorem push_evicts_iff {command : Text} :
    (h.push command).1 = true ↔ (h.push command).2.entries ≠ h.entries ++ [command] :=
  decide_eq_true_iff.trans newest_ne_iff.symm

/-- A change of the limit tells whether something went. -/
theorem setLimit_evicts_iff {limit : Nat} :
    (h.setLimit limit).1 = true ↔ (h.setLimit limit).2.entries ≠ h.entries :=
  decide_eq_true_iff.trans newest_ne_iff.symm

/-- Behind the newest command the cursor stays there when the limit changes. -/
theorem setLimit_cursor (hcursor : h.cursor = h.entries.length) (limit : Nat) :
    (h.setLimit limit).2.cursor = (h.setLimit limit).2.entries.length := by
  have hlength := length_newest limit h.entries
  change min h.cursor (newest limit h.entries).length = (newest limit h.entries).length
  omega

/-! ### Runs -/

/-- What can be done to a history. -/
inductive Action where
  | push (command : Text)
  | setLimit (limit : Nat)
  | previous
  | next
  deriving DecidableEq, Repr

/-- Whether an action cuts the commands to the limit. -/
def Action.cuts : Action → Bool
  | .push _ | .setLimit _ => true
  | .previous | .next => false

/-- The history after an action. -/
def act (h : History) : Action → History
  | .push command => (h.push command).2
  | .setLimit limit => (h.setLimit limit).2
  | .previous => h.previous.2
  | .next => h.next.2

/-- The history after actions. -/
def run (h : History) (actions : List Action) : History := actions.foldl act h

/-- An account of a history: all commands that came in, how many of them are left, and the limit. -/
structure Account where
  all : List Text
  kept : Nat
  limit : Nat
  deriving DecidableEq, Repr

/-- The account after an action. -/
def Account.act (a : Account) : Action → Account
  | .push command => ⟨a.all ++ [command], min (a.kept + 1) a.limit, a.limit⟩
  | .setLimit limit => ⟨a.all, min a.kept limit, limit⟩
  | .previous | .next => a

/-- The account after actions. -/
def Account.run (a : Account) (actions : List Action) : Account := actions.foldl Account.act a

/-- A history is as its account says. -/
structure Follows (h : History) (a : Account) : Prop where
  entries : h.entries <:+ a.all
  kept : h.entries.length = a.kept
  limit : h.limit = a.limit
  cursor : h.cursor ≤ h.entries.length

variable {a : Account}

theorem Follows.act (hf : Follows h a) (action : Action) :
    Follows (h.act action) (a.act action) := by
  cases action with
  | push command =>
    have hgrown : h.entries ++ [command] <:+ a.all ++ [command] := by
      obtain ⟨old, hall⟩ := hf.entries
      exact ⟨old, by rw [← hall, List.append_assoc]⟩
    refine ⟨(newest_suffix _ _).trans hgrown, ?_, hf.limit, Nat.le_refl _⟩
    change (newest h.limit (h.entries ++ [command])).length = min (a.kept + 1) a.limit
    rw [length_newest, List.length_append, hf.kept, hf.limit]
    rfl
  | setLimit limit =>
    refine ⟨(newest_suffix _ _).trans hf.entries, ?_, rfl, Nat.min_le_right _ _⟩
    change (newest limit h.entries).length = min a.kept limit
    rw [length_newest, hf.kept]
  | previous =>
    have hentries := previous_entries h
    have hcursor := previous_cursor hf.cursor
    refine ⟨hentries ▸ hf.entries, hentries ▸ hf.kept, (previous_limit h).trans hf.limit, ?_⟩
    have := hf.cursor
    change h.previous.2.cursor ≤ h.previous.2.entries.length
    rw [hentries, hcursor]
    omega
  | next =>
    have hentries := next_entries h
    refine ⟨hentries ▸ hf.entries, hentries ▸ hf.kept, (next_limit h).trans hf.limit, ?_⟩
    change h.next.2.cursor ≤ h.next.2.entries.length
    rw [hentries, next_cursor]
    exact Nat.min_le_right _ _

theorem Follows.run (hf : Follows h a) (actions : List Action) :
    Follows (h.run actions) (a.run actions) := by
  induction actions generalizing h a with
  | nil => exact hf
  | cons action actions ih => exact ih (hf.act action)

/-- An action that cuts leaves no more than the limit, and the others leave it so. -/
theorem act_length_le {action : Action}
    (h₀ : action.cuts = false → h.entries.length ≤ h.limit) :
    (h.act action).entries.length ≤ (h.act action).limit := by
  cases action with
  | push command => exact length_newest_le _ _
  | setLimit limit => exact length_newest_le _ _
  | previous =>
    change h.previous.2.entries.length ≤ h.previous.2.limit
    rw [previous_entries, previous_limit]
    exact h₀ rfl
  | next =>
    change h.next.2.entries.length ≤ h.next.2.limit
    rw [next_entries, next_limit]
    exact h₀ rfl

theorem run_length_le {actions : List Action}
    (h₀ : actions.any Action.cuts = false → h.entries.length ≤ h.limit) :
    (h.run actions).entries.length ≤ (h.run actions).limit := by
  induction actions generalizing h with
  | nil => exact h₀ rfl
  | cons action actions ih =>
    refine ih fun hlater => act_length_le fun hcuts => h₀ ?_
    rw [List.any_cons, hcuts, hlater]
    rfl

/-- A history of loaded commands, be they more than the limit, or a new one, after any actions. The
    entries are the last commands of all that came in, as many as the account counts, and the cursor
    is among them or behind them. From the first push or change of the limit on they are no more
    than the limit. A push puts the cursor behind the newest, a change of the limit leaves it there,
    and both tell whether something went. -/
theorem run_follows_account {h : History} {loaded : List Text} {limit : Nat}
    (hstart : h = .ofEntries loaded limit ∨ loaded = [] ∧ h = .empty limit)
    (actions : List Action) :
    let a := (Account.mk loaded loaded.length limit).run actions
    let now := h.run actions
    now.entries <:+ a.all ∧ now.entries.length = a.kept ∧ now.limit = a.limit ∧
      now.cursor ≤ now.entries.length ∧
      (actions.any Action.cuts = true → now.entries.length ≤ now.limit) ∧
      (∀ command, (now.push command).2.cursor = (now.push command).2.entries.length ∧
        ((now.push command).1 = true ↔ (now.push command).2.entries ≠ now.entries ++ [command])) ∧
      ∀ size, (now.cursor = now.entries.length →
          (now.setLimit size).2.cursor = (now.setLimit size).2.entries.length) ∧
        ((now.setLimit size).1 = true ↔ (now.setLimit size).2.entries ≠ now.entries) := by
  intro a now
  have hfollows : Follows h ⟨loaded, loaded.length, limit⟩ := by
    obtain rfl | ⟨rfl, rfl⟩ := hstart <;> exact ⟨List.suffix_rfl, rfl, rfl, Nat.le_refl _⟩
  obtain ⟨hentries, hkept, hlimit, hcursor⟩ := hfollows.run actions
  refine ⟨hentries, hkept, hlimit, hcursor, fun hcuts => ?_, fun command => ?_, fun size => ?_⟩
  · exact run_length_le fun hnone => absurd (hcuts.symm.trans hnone) (by decide)
  · exact ⟨rfl, push_evicts_iff⟩
  · exact ⟨(setLimit_cursor · size), setLimit_evicts_iff⟩

/-- Three commands are loaded over a limit of one. The limit falls to zero and rises to the largest
    word, with the cursor moved in between. -/
theorem run_follows_account_of_oversized :
    ∃ (h : History) (actions : List Action),
      h = .ofEntries [['a'], ['b'], ['c']] 1 ∧
      actions = [.previous, .previous, .push ['d'], .setLimit 0, .next, .setLimit (Word.limit - 1),
        .push ['e'], .push ['f'], .previous, .previous, .previous, .setLimit 1] ∧
      h.run actions = ⟨[['f']], 1, 0⟩ ∧
      (h.run actions).entries <:+ [['a'], ['b'], ['c'], ['d'], ['e'], ['f']] ∧
      (h.run actions).entries.length ≤ (h.run actions).limit := by
  refine ⟨_, _, rfl, rfl, by decide, ?_⟩
  obtain ⟨hsuffix, -, -, -, hlength, -⟩ := run_follows_account
    (h := .ofEntries [['a'], ['b'], ['c']] 1) (.inl rfl)
    [.previous, .previous, .push ['d'], .setLimit 0, .next, .setLimit (Word.limit - 1),
      .push ['e'], .push ['f'], .previous, .previous, .previous, .setLimit 1]
  exact ⟨hsuffix, hlength (by decide)⟩

end Console.History

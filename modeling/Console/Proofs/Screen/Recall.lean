import Console.Proofs.History
import Console.Proofs.Session.Outcome
import Console.Proofs.Session.Reachable

/-! Recalling commands with the arrow keys. Whatever a session has just done, be it that it was
    opened, recorded a command or was reset, its cursor stands behind the newest command. From there
    on every press of an arrow moves the cursor by one, within the commands and the place behind
    them, and the line is the command at the cursor. -/

namespace Console

/-! ### The cursor behind the newest command -/

namespace History

/-- Nothing is selected: the cursor stands where the next command will be. -/
def AtEnd (h : History) : Prop := h.cursor = h.entries.length

/-- The command at the cursor; behind the newest there is an empty line. -/
def entryAt (h : History) (cursor : Nat) : Text := h.entries[cursor]?.getD []

theorem evaluated_atEnd (h : History) (expression : Text) : (h.evaluated expression).AtEnd := by
  unfold evaluated
  split
  · exact setLimit_cursor rfl _
  · rfl

end History

section Session

variable {σ : Type} [Store σ]

/-- A history that has been loaded selects nothing. -/
theorem Session.loadHistory_atEnd {title : Text} {defaultSize : Nat} {s : σ} {history : History}
    (h : (loadHistory title defaultSize s).1 = .ok history) : history.AtEnd := by
  unfold loadHistory at h
  split at h
  · exact nomatch h
  split at h
  · exact nomatch h
  · exact Except.ok.inj h ▸ rfl

namespace Running

/-- A reset selects nothing, whether or not the store fails. -/
theorem reset_atEnd (r : Running σ) : r.reset.2.session.history.AtEnd := by
  obtain ⟨_, -, -, -, hempty⟩ | ⟨-, -, ⟨_, -, -, hempty⟩ | ⟨history, hload, -, hhistory⟩⟩ :=
    reset_cases r
  · exact hempty ▸ rfl
  · exact hempty ▸ rfl
  · exact hhistory ▸ Session.loadHistory_atEnd hload

theorem evaluate_atEnd (evaluator : Evaluator σ) (r : Running σ) (expression : Text) :
    (r.evaluate evaluator expression).2.session.history.AtEnd := by
  by_cases hreset : Command.parse? expression = some .reset
  · unfold evaluate
    rw [hreset]
    dsimp only
    rw [runSpecial_reset_session]
    exact reset_atEnd _
  · rw [evaluate_history evaluator r hreset]
    exact History.evaluated_atEnd _ _

end Running

/-- Whether a move ends with the cursor behind the newest command, wherever it stood before. -/
def Move.entersLine : Move → Bool
  | .commit _ | .evaluate _ | .append _ | .reset => true
  | .rest | .setBufferSize _ | .previous | .next => false

/-- The reachable states of a session that has just been opened, has just recorded a command or was
    just reset. -/
inductive Session.Fresh (opening : Opening σ) : Session → Prop where
  | opened {store store' : σ} {s : Session} :
      start opening.flavor opening.defaultSize store = (.ok s, store') → Fresh opening s
  | moved {s : Session} (store : σ) {m : Move} : m.entersLine = true → Reachable opening s →
      Fresh opening (Running.move opening.evaluator ⟨s, store, []⟩ m).session

theorem Session.Fresh.atEnd {opening : Opening σ} {s : Session} (h : Fresh opening s) :
    s.history.AtEnd := by
  cases h with
  | opened hstart =>
    obtain ⟨-, history, hload, rfl⟩ := start_ok hstart
    exact loadHistory_atEnd (congrArg Prod.fst hload)
  | @moved s store m hm _ =>
    cases m with
    | commit full => exact Running.evaluate_atEnd _ _ _
    | evaluate expression => exact Running.evaluate_atEnd _ _ _
    | append command =>
      have hsession := Running.addCommand_session ⟨s, store, []⟩ command
      exact (congrArg (·.history.AtEnd) hsession).mpr rfl
    | reset => exact Running.reset_atEnd _
    | rest | setBufferSize _ | previous | next => exact nomatch hm

end Session

/-! ### Presses -/

namespace Screen

/-- A line that is being edited, with the session behind it. -/
structure Editing (σ α : Type) where
  engine : Engine α
  store : σ
  line : Text

/-- Moves a cursor over so many commands. -/
def Arrow.shift (count : Nat) (cursor : Nat) : Arrow → Nat
  | .up => cursor - 1
  | .down => min (cursor + 1) count

namespace Editing

variable {σ α : Type}

/-- Presses an arrow key, which replaces the line or leaves it. -/
def press (l : Editing σ α) (arrow : Arrow) : Editing σ α :=
  let t := Screen.press arrow l.engine l.store
  ⟨t.engine, t.store, t.answer.getD l.line⟩

/-- Presses arrow keys, one after the other. -/
def pressAll (l : Editing σ α) (arrows : List Arrow) : Editing σ α := arrows.foldl press l

/-- Where the cursor is. -/
def cursor (l : Editing σ α) : Nat := l.engine.session.history.cursor

/-- The line with the cursor at a given place, and with the command that is there. -/
def at_ (e : Engine α) (store : σ) (cursor : Nat) : Editing σ α :=
  ⟨{ e with session := { e.session with history := { e.session.history with cursor := cursor } } },
    store, e.session.history.entryAt cursor⟩

variable {e : Engine α} {store : σ} {count c : Nat}

/-- Every press moves the cursor by one and recalls the command that is there. -/
theorem press_at (hcount : e.session.history.entries.length = count) (hc : c ≤ count)
    (arrow : Arrow) : (at_ e store c).press arrow = at_ e store (arrow.shift count c) := by
  subst hcount
  cases arrow with
  | up =>
    unfold press Screen.press Engine.previous Engine.quietly Running.previous History.previous at_
    dsimp only
    split
    · rename_i hstays
      -- at the oldest command, or with no commands, the line stays as it is
      obtain rfl : c = 0 := by
        obtain hzero | hnil := hstays
        · exact hzero
        · rw [hnil] at hc
          exact Nat.le_zero.1 hc
      rfl
    · rename_i hmoves
      have hlt : c - 1 < e.session.history.entries.length := by omega
      have hline (line : Text) :
          e.session.history.entries[c - 1]?.getD line = e.session.history.entryAt (c - 1) := by
        rw [History.entryAt, List.getElem?_eq_getElem hlt]
        rfl
      exact congrArg (Editing.mk _ store) (hline _)
  | down =>
    unfold press Screen.press Engine.next Engine.quietly Running.next History.next at_
    dsimp only
    split
    · rename_i hlt
      have hshift : Arrow.down.shift e.session.history.entries.length c = c + 1 :=
        Nat.min_eq_left (Nat.le_of_lt hlt)
      rw [hshift]
      rfl
    · rename_i hge
      have hshift : Arrow.down.shift e.session.history.entries.length c =
          e.session.history.entries.length := Nat.min_eq_right (Nat.le_of_not_lt hge)
      rw [hshift]
      simp [History.entryAt, Running.withHistory]

theorem shift_le (hc : c ≤ count) (arrow : Arrow) : arrow.shift count c ≤ count := by
  cases arrow with
  | up => exact (Nat.sub_le c 1).trans hc
  | down => exact Nat.min_le_right _ _

theorem foldl_shift_le (hc : c ≤ count) (arrows : List Arrow) :
    arrows.foldl (Arrow.shift count) c ≤ count := by
  induction arrows generalizing c with
  | nil => exact hc
  | cons arrow arrows ih => exact ih (shift_le hc arrow)

theorem pressAll_at (hcount : e.session.history.entries.length = count) (hc : c ≤ count)
    (arrows : List Arrow) :
    (at_ e store c).pressAll arrows = at_ e store (arrows.foldl (Arrow.shift count) c) := by
  induction arrows generalizing c with
  | nil => rfl
  | cons arrow arrows ih =>
    have hpress : (at_ e store c).press arrow = at_ e store (arrow.shift count c) :=
      press_at hcount hc arrow
    exact (congrArg (·.pressAll arrows) hpress).trans (ih (shift_le hc arrow))

theorem foldl_shift_up (count c k : Nat) :
    (List.replicate k Arrow.up).foldl (Arrow.shift count) c = c - k := by
  induction k generalizing c with
  | zero => rfl
  | succ k ih =>
    rw [List.replicate_succ, List.foldl_cons, ih, Arrow.shift]
    omega

theorem foldl_shift_down (hc : c ≤ count) (k : Nat) :
    (List.replicate k Arrow.down).foldl (Arrow.shift count) c = min (c + k) count := by
  induction k generalizing c with
  | zero => exact (Nat.min_eq_left hc).symm
  | succ k ih =>
    rw [List.replicate_succ, List.foldl_cons, ih (shift_le hc _), Arrow.shift]
    omega

end Editing

end Screen

/-- The command so many places before the end is the last of so many recent ones. -/
theorem History.getElem?_recent {h : History} {k : Nat} (hk : 1 ≤ k) (hle : k ≤ h.entries.length) :
    (h.recent k)[k - 1]? = some (h.entryAt (h.entries.length - k)) := by
  have hlt : h.entries.length - k < h.entries.length := by omega
  rw [recent, List.getElem?_take_of_lt (by omega), List.getElem?_reverse (by omega), entryAt,
    show h.entries.length - 1 - (k - 1) = h.entries.length - k by omega,
    List.getElem?_eq_getElem hlt]
  rfl

namespace Screen

variable {σ α : Type} [Store σ]

open Editing

/-- A fresh session with an empty line, and any presses of the arrow keys. They change nothing but
    the cursor and the line. Up moves the cursor back by one and stays at the oldest command, down
    moves it forward by one up to the place behind the newest, and the line is the command at the
    cursor, or empty behind the newest. So going up recalls the recent commands one by one and then
    keeps the oldest, and going down as often as up leads back to the empty line. -/
theorem presses_recall_entries {opening : Opening σ} {e : Engine α}
    (hfresh : Session.Fresh opening e.session) (store : σ) :
    let history := e.session.history
    let count := history.entries.length
    let after := (Editing.mk e store []).pressAll
    (∀ arrows, (after arrows).engine.session.history.entries = history.entries ∧
        (after arrows).store = store ∧ (after arrows).cursor ≤ count ∧
        ((after arrows).cursor < count →
          history.entries[(after arrows).cursor]? = some (after arrows).line) ∧
        ((after arrows).cursor = count → (after arrows).line = []) ∧
        (after (arrows ++ [.up])).cursor = (after arrows).cursor - 1 ∧
        (after (arrows ++ [.down])).cursor = min ((after arrows).cursor + 1) count) ∧
      (∀ k, 1 ≤ k → k ≤ count →
        (history.recent k)[k - 1]? = some (after (List.replicate k .up)).line) ∧
      (∀ k, count ≤ k → (after (List.replicate k .up)).line = history.entries.head?.getD []) ∧
      ∀ k ≤ count, after (List.replicate k .up ++ List.replicate k .down) = ⟨e, store, []⟩ := by
  intro history count after
  have hstart : Editing.mk e store [] = at_ e store count := by
    have hcursor : e.session.history.cursor = count := hfresh.atEnd
    have hempty : history.entryAt count = [] := by simp [History.entryAt, count]
    simp only [at_, ← hcursor, history] at hempty ⊢
    rw [hempty]
  have hafter (arrows : List Arrow) :
      after arrows = at_ e store (arrows.foldl (Arrow.shift count) count) := by
    have hpresses : (at_ e store count).pressAll arrows =
        at_ e store (arrows.foldl (Arrow.shift count) count) :=
      pressAll_at rfl (Nat.le_refl count) arrows
    exact (congrArg (·.pressAll arrows) hstart).trans hpresses
  refine ⟨fun arrows => ?_, fun k hk hle => ?_, fun k hle => ?_, fun k hle => ?_⟩
  · have hcursor := foldl_shift_le (Nat.le_refl count) arrows
    rw [hafter, hafter, hafter, List.foldl_append, List.foldl_append]
    generalize arrows.foldl (Arrow.shift count) count = c at hcursor ⊢
    refine ⟨rfl, rfl, hcursor, fun hlt => ?_, fun heq => ?_, rfl, rfl⟩
    · have hentry := List.getElem?_eq_getElem (l := history.entries) hlt
      exact hentry.trans (congrArg (fun o => some (Option.getD o [])) hentry).symm
    · have hnone := List.getElem?_eq_none (l := history.entries) (Nat.le_of_eq heq.symm)
      exact congrArg (·.getD []) hnone
  · rw [hafter, foldl_shift_up]
    exact History.getElem?_recent hk hle
  · rw [hafter, foldl_shift_up, Nat.sub_eq_zero_of_le hle, List.head?_eq_getElem?]
    rfl
  · rw [hafter, List.foldl_append, foldl_shift_up, foldl_shift_down (Nat.sub_le count k),
      Nat.sub_add_cancel hle, Nat.min_self, hstart]

/-- More commands are stored than the buffer holds, and the session has just been opened. -/
theorem presses_recall_entries_of_oversized :
    ∃ (opening : Opening Stored) (e : Engine Unit) (store : Stored),
      Session.Fresh opening e.session ∧ e.session.history = ⟨[['a'], [], ['c']], 2, 3⟩ ∧
      (let after := (Editing.mk e store []).pressAll
      (after [.down]).cursor = 3 ∧
      (after [.up]).line = ['c'] ∧ (after [.up, .up]).line = [] ∧
      (after [.up, .up, .up, .up]).line = ['a'] ∧
      (after [.up, .up, .down, .down]).line = [] ∧ (after [.up, .up, .down, .down]).cursor = 3) := by
  let opening : Opening Stored := ⟨⟨['T'], ['>'], []⟩, 2, .pure .ok⟩
  let stored : Stored := ⟨Buckets.empty.insert ['T'] [['a'], [], ['c']], none⟩
  obtain ⟨s, hstart, hhistory⟩ : ∃ s, Session.start opening.flavor opening.defaultSize stored =
      (.ok s, stored) ∧ s.history = ⟨[['a'], [], ['c']], 2, 3⟩ := ⟨_, rfl, rfl⟩
  have hfresh : Session.Fresh opening (Engine.ofSession s : Engine Unit).session := .opened hstart
  obtain ⟨hwalk, hrecent, holdest, hback⟩ := presses_recall_entries hfresh stored
  have hsession : (Engine.ofSession s : Engine Unit).session.history = _ := hhistory
  rw [hsession] at hrecent holdest hback
  obtain ⟨-, -, -, -, -, -, hdown⟩ := hwalk []
  have hmin : min (s.history.cursor + 1) s.history.entries.length = 3 := by rw [hhistory]; rfl
  refine ⟨opening, .ofSession s, stored, hfresh, hhistory, hdown.trans hmin, ?_, ?_,
    holdest 4 (by decide), ?_, ?_⟩
  · exact (Option.some.inj (hrecent 1 (by decide) (by decide))).symm
  · exact (Option.some.inj (hrecent 2 (by decide) (by decide))).symm
  · exact congrArg Editing.line (hback 2 (by decide))
  · exact (congrArg Editing.cursor (hback 2 (by decide))).trans (congrArg History.cursor hhistory)

end Screen

end Console

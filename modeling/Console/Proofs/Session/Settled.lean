import Console.Proofs.Session.Saving

/-! Sessions in memory, where no call fails. Such a session is always settled: its commands are the
    stored ones of its title, and its limit is the stored size, or the default while none is stored.
    So what an evaluation stores is a function of what was stored before. -/

namespace Console

/-! ### What is stored -/

namespace Stored

/-- Puts commands under a title. -/
def save (s : Stored) (title : Text) (commands : List Text) : Stored :=
  { s with buckets := s.buckets.insert title commands }

/-- Adds a command under a title, and keeps the newest ones. -/
def record (s : Stored) (title : Text) (limit : Nat) (command : Text) : Stored :=
  s.save title (History.newest limit (s.commands title ++ [command]))

/-- Sets the size, and cuts the commands of a title if they are more. -/
def resize (s : Stored) (title : Text) (size : Nat) : Stored :=
  let s' := { s with size := some size }
  if size < (s.commands title).length then s'.save title (History.newest size (s.commands title))
  else s'

/-- The content after an evaluation by a session of a title. -/
def after (s : Stored) (title : Text) (defaultSize : Nat) (expression : Text) : Stored :=
  let recorded := s.record title (s.size.getD defaultSize) expression
  match Command.parse? expression with
  | some .reset => recorded.save title []
  | some (.setBufferSize size) => recorded.resize title size
  | _ => recorded

@[simp] theorem commands_save (s : Stored) (title : Text) (commands : List Text) :
    (s.save title commands).commands title = commands :=
  congrArg (·.getD []) (Buckets.find?_insert_self s.buckets title commands)

end Stored

/-! ### Settled sessions -/

namespace Running

/-- The store knows the commands and the limit of the session. -/
structure Settled (r : Running Console.Stored) : Prop where
  entries : r.session.history.entries = r.store.commands r.session.flavor.title
  limit : r.session.history.limit = r.store.size.getD r.session.defaultSize

variable {r : Running Console.Stored}

/-- After a save a session is settled if its limit is known. -/
theorem settled_persist (h : r.session.history.limit = r.store.size.getD r.session.defaultSize) :
    r.persist.store = r.store.save r.session.flavor.title r.session.history.entries ∧
      r.persist.Settled := by
  have hstore := persist_store r
  refine ⟨hstore, ?_, ?_⟩
  · rw [hstore, persist_session]
    exact (Stored.commands_save r.store _ _).symm
  · rw [hstore, persist_session]
    exact h

theorem Settled.addCommand (h : r.Settled) (command : Text) :
    (r.addCommand command).store =
        r.store.record r.session.flavor.title (r.store.size.getD r.session.defaultSize) command ∧
      (r.addCommand command).Settled := by
  obtain ⟨r', hsession, hstore, heq⟩ := addCommand_eq r command
  have hlimit : r'.session.history.limit = r'.store.size.getD r'.session.defaultSize := by
    rw [hsession, hstore]
    exact h.limit
  obtain ⟨hsaved, hsettled⟩ := settled_persist hlimit
  rw [heq]
  refine ⟨?_, hsettled⟩
  rw [hsaved, hsession, hstore]
  change r.store.save _ (History.newest r.session.history.limit (_ ++ [command])) = _
  rw [h.entries, h.limit]
  rfl

theorem Settled.setBufferSize (h : r.Settled) (size : Nat) :
    (r.setBufferSize size).store = r.store.resize r.session.flavor.title size ∧
      (r.setBufferSize size).Settled := by
  obtain ⟨r', hsession, hstore, heq⟩ := setBufferSize_eq r size
  have hlimit : r'.session.history.limit = r'.store.size.getD r'.session.defaultSize := by
    rw [hsession, hstore]
    rfl
  have hcut : (r.session.history.setLimit size).1 =
      decide (size < (r.store.commands r.session.flavor.title).length) := by
    rw [← h.entries]
    rfl
  rw [heq, hcut, Stored.resize]
  by_cases hlt : size < (r.store.commands r.session.flavor.title).length
  · obtain ⟨hsaved, hsettled⟩ := settled_persist hlimit
    simp only [hlt, decide_true, if_true]
    refine ⟨?_, hsettled⟩
    rw [hsaved, hsession, hstore, ← h.entries]
    rfl
  · simp only [hlt, decide_false, if_false, Bool.false_eq_true]
    refine ⟨hstore, ?_, hlimit⟩
    rw [hsession, hstore]
    refine (History.setLimit_entries ?_).trans h.entries
    rw [hcut, decide_eq_false hlt]

theorem Settled.runSpecial (h : r.Settled) (command : Command) :
    (r.runSpecial command).2.store =
        (match command with
          | .reset => r.store.save r.session.flavor.title []
          | .setBufferSize size => r.store.resize r.session.flavor.title size
          | _ => r.store) ∧
      (r.runSpecial command).2.Settled := by
  cases command with
  | clear | help | showBufferSize => exact ⟨rfl, h.entries, h.limit⟩
  | reset => exact ⟨rfl, rfl, rfl⟩
  | setBufferSize size =>
    have hrecord : (r.record (.special (.setBufferSize size))).Settled := ⟨h.entries, h.limit⟩
    obtain ⟨hstore, hsettled⟩ := hrecord.setBufferSize size
    exact ⟨hstore, hsettled.entries, hsettled.limit⟩

/-- An evaluation keeps a session settled, and what it stores depends on the expression and on what
    was stored before. -/
theorem Settled.evaluate (h : r.Settled) (answer : Text → Except Text Text) (expression : Text) :
    (r.evaluate (.pure answer) expression).2.store =
        r.store.after r.session.flavor.title r.session.defaultSize expression ∧
      (r.evaluate (.pure answer) expression).2.Settled := by
  obtain ⟨hstore, hsettled⟩ := h.addCommand expression
  have hsession := addCommand_session r expression
  unfold Running.evaluate Stored.after
  cases Command.parse? expression with
  | none =>
    dsimp only
    rw [← hstore]
    unfold runExpression Evaluator.pure
    cases answer expression with
    | ok output => exact ⟨rfl, hsettled.entries, hsettled.limit⟩
    | error message => exact ⟨rfl, hsettled.entries, hsettled.limit⟩
  | some command =>
    obtain ⟨hspecial, hdone⟩ := hsettled.runSpecial command
    refine ⟨hspecial.trans ?_, hdone⟩
    rw [hsession, hstore]
    cases command <;> rfl

end Running

end Console

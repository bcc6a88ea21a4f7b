import Console.Proofs.Session.Alone
import Console.Proofs.Store.Failing

/-! Sessions on a file that has become unreadable. All that a session does to its store is a trail of
    loads and saves, and on such a file they all fail before they change anything. So whatever the
    sessions do, resets and openings among it, the file keeps its bytes and stays unreadable. -/

namespace Console

open Store (Trail)

variable {α : Type} {e : Fault}

/-! ### One session -/

/-- A trail of calls on an unreadable file leaves it as it is, if the evaluator does. -/
theorem Store.Trail.unreadable {evaluator : Evaluator FileStore} {title : Text} {sized : Bool}
    {s s' : FileStore} (hspares : evaluator.Spares fun s => (s.read, s.bytes?))
    (h : Trail evaluator title sized s s') (hread : s.read = .error e) :
    s'.read = .error e ∧ s'.bytes? = s.bytes? := by
  induction h with
  | refl => exact ⟨hread, rfl⟩
  | loadSize _ ih => exact ih
  | loadHistory _ ih => exact ih
  | @saveHistory s' commands _ ih =>
    have hcall := congrArg Prod.snd
      (FileStore.answer_of_unreadable ih.1 (.saveHistory title commands))
    have hsame : (Store.saveHistory s' title commands).2 = s' := hcall
    rw [hsame]
    exact ih
  | @saveSize s' size _ _ ih =>
    have hcall := congrArg Prod.snd (FileStore.answer_of_unreadable ih.1 (.saveSize size))
    have hsame : (Store.saveSize s' size).2 = s' := hcall
    rw [hsame]
    exact ih
  | @answer s' expression _ ih =>
    obtain ⟨hread', hbytes⟩ := Prod.mk.inj (hspares expression s')
    exact ⟨hread'.trans ih.1, hbytes.trans ih.2⟩

/-! ### Desks -/

namespace Desk

variable {openings : List (Opening FileStore)} {d : Desk FileStore α}

theorem step_unreadable (hd : d.Hosts openings)
    (hspares : ∀ o ∈ openings, o.evaluator.Spares fun s => (s.read, s.bytes?))
    (hread : d.store.read = .error e) (i : Nat) (k : Step α) :
    (d.step i k).2.store.read = .error e ∧ (d.step i k).2.store.bytes? = d.store.bytes? := by
  cases hseat : d.seats[i]? with
  | none =>
    rw [step_eq_self hseat]
    exact ⟨hread, rfl⟩
  | some seat =>
    rw [step_eq hseat]
    have hopening := List.mem_of_getElem? (hd.opening hseat)
    exact (stepSeat_trail (hd.proper hseat) d.store k).unreadable (hspares _ hopening) hread

theorem run_unreadable
    (hspares : ∀ o ∈ openings, o.evaluator.Spares fun s => (s.read, s.bytes?))
    (steps : List (Nat × Step α)) (hd : d.Hosts openings) (hread : d.store.read = .error e) :
    (d.run steps).store.read = .error e ∧ (d.run steps).store.bytes? = d.store.bytes? := by
  induction steps generalizing d with
  | nil => exact ⟨hread, rfl⟩
  | cons p steps ih =>
    obtain ⟨hread', hbytes⟩ := step_unreadable hd hspares hread p.1 p.2
    obtain ⟨hlast, hbytes'⟩ := ih (hd.step p.1 p.2) hread'
    exact ⟨hlast, hbytes'.trans hbytes⟩

end Desk

/-! ### Failing requests -/

namespace FileStore

/-- A store in a file, whatever there is at its path. A load changes nothing, and a request that
    fails leaves the bytes of the file and everything else that is no directory as it was. If the
    file cannot be read, every request fails with this fault and changes nothing; so sessions at any
    desk with this store, whose evaluators leave the file alone, can make any steps, and the file
    keeps its bytes and stays unreadable. -/
theorem failing_requests_keep_bytes (α : Type) (s : FileStore) :
    (∀ request : Request, request.loads = true → (Store.answer s request).2 = s) ∧
      (∀ request e, (Store.answer s request).1 = .error e →
        Spared s (Store.answer s request).2) ∧
      ∀ e, s.read = .error e →
        (∀ request, Store.answer s request = (.error e, s)) ∧
          ∀ (openings : List (Opening FileStore)) (d : Desk FileStore α),
            d.Hosts openings → d.store = s →
            (∀ o ∈ openings, o.evaluator.Spares fun s => (s.read, s.bytes?)) →
            ∀ steps, (d.run steps).store.read = .error e ∧
              (d.run steps).store.bytes? = s.bytes? := by
  refine ⟨fun _ => answer_of_loads, fun _ _ => answer_error, fun e hread => ?_⟩
  refine ⟨answer_of_unreadable hread, ?_⟩
  rintro openings d hd rfl hspares steps
  exact Desk.run_unreadable hspares steps hd hread

/-- A session records a command, then somebody else spoils the file. What the session does from then
    on, a reset and an opening among it, does not reach the file. A save fails too where the file
    stands in place of a directory, and it does not reach the file either. -/
theorem failing_requests_keep_bytes_of_spoiled_file :
    ∃ (s : FileStore) (opening : Opening FileStore) (before after : List (Nat × Step Unit)),
      let opened : Desk FileStore Unit := (Desk.ofOpenings [opening] s).run before
      let garbage := Text.toUtf8 "not json".toList
      let files := opened.store.files.plant s.base s.path garbage
      let spoiled : FileStore := ⟨files, s.base, s.path⟩
      let below : FileStore := ⟨files, s.base, s.path ++ "/x".toList⟩
      opened.store.read = .ok ⟨Buckets.empty.insert ['A'] [['1']], none⟩ ∧
      spoiled.read = .error (.malformed .malformed) ∧ spoiled.bytes? = some garbage ∧
      after.length = 6 ∧
      (Desk.run ⟨opened.seats, spoiled⟩ after).store.bytes? = some garbage ∧
      (Store.answer below (.saveSize 5)).1 = .error (.directory .alreadyExists) ∧
      Spared below (Store.answer below (.saveSize 5)).2 := by
  let s : FileStore := ⟨Files.empty, Files.root, "d/h".toList⟩
  let opening : Opening FileStore := ⟨⟨['A'], ['>'], []⟩, 9, .pure .ok⟩
  let before : List (Nat × Step Unit) := [(0, .reopen), (0, .evaluate ['1'])]
  let after : List (Nat × Step Unit) := [(0, .evaluate ['2']), (0, .append ['3']),
    (0, .evaluate "buffer 2".toList), (0, .setBufferSize 3), (0, .reset), (0, .reopen)]
  let opened : Desk FileStore Unit := (Desk.ofOpenings [opening] s).run before
  let garbage := Text.toUtf8 "not json".toList
  let files := opened.store.files.plant s.base s.path garbage
  let spoiled : FileStore := ⟨files, s.base, s.path⟩
  let below : FileStore := ⟨files, s.base, s.path ++ "/x".toList⟩
  have hhosts := (Desk.ofOpenings_hosts (α := Unit) [opening] s).run before
  have hread : spoiled.read = .error (.malformed .malformed) := by decide +kernel
  have hbytes : spoiled.bytes? = some garbage := by decide +kernel
  have hfails : (Store.answer below (.saveSize 5)).1 = .error (.directory .alreadyExists) := by
    decide +kernel
  have hspares : ∀ o ∈ [opening], o.evaluator.Spares fun s => (s.read, s.bytes?) := by
    intro o ho
    obtain rfl := List.mem_singleton.1 ho
    exact fun _ _ => rfl
  obtain ⟨-, -, hrun⟩ := failing_requests_keep_bytes Unit spoiled
  obtain ⟨-, hspared, -⟩ := failing_requests_keep_bytes Unit below
  obtain ⟨-, hkept⟩ := (hrun _ hread).2 [opening] ⟨opened.seats, spoiled⟩
    ⟨hhosts.openings_eq, hhosts.proper⟩ rfl hspares after
  exact ⟨s, opening, before, after, by decide +kernel, hread, hbytes, rfl, hkept.trans hbytes, hfails,
    hspared _ _ hfails⟩

end FileStore

end Console

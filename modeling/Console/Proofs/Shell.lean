import Console.Proofs.Session.Alone
import Console.Shell.Basic

/-! The shell flavor on any system. A script has a result just when the system runs it and it ends
    with status zero, and the result is then its output. What scripts leave alone on the system is
    left alone by the evaluator; so sessions of the flavor store and show what those of any other
    flavor do. -/

namespace Console.Shell

variable {σ τ μ : Type} {system : System σ} {script : Text} {s : σ}

/-- A script has a result just when it can be started and ends with status zero. -/
theorem execute_eq_ok_iff {t : Text} : (execute system script s).1 = .ok t ↔
    '\x00' ∉ script ∧ ∃ outcome, (system script s).1 = .ok outcome ∧ outcome.status = some 0 ∧
      t = shown outcome.output := by
  unfold execute
  by_cases hnul : '\x00' ∈ script
  · simp [hnul]
  rw [if_neg hnul]
  obtain ⟨cause | ⟨status, output, errors⟩, s'⟩ := system script s
  · simp
  · match status with
    | none => simp [Outcome.result]
    | some 0 => simp [Outcome.result, hnul, eq_comm]
    | some (_ + 1) => simp [Outcome.result]

/-! ### What scripts leave alone -/

/-- What every script does on the system holds of every answer. -/
theorem evaluatorOn_rel {R : σ → σ → Prop} (hrefl : ∀ s, R s s)
    (h : ∀ script s, R s (system script s).2) (script : Text) (s : σ) :
    R s (evaluatorOn system script s).2 := by
  have hsystem := h script s
  unfold evaluatorOn execute
  split
  · exact hrefl s
  · generalize system script s = run at hsystem
    obtain ⟨cause | outcome, s'⟩ := run <;> exact hsystem

theorem evaluatorOn_keeps {content : σ → Stored}
    (h : ∀ script s, content (system script s).2 = content s) :
    (evaluatorOn system).Keeps content :=
  evaluatorOn_rel (R := fun s s' => content s' = content s) (fun _ => rfl) h

theorem evaluatorOn_preserves {content : σ → Stored} {healthy : σ → Prop}
    (h : ∀ script s, healthy s →
      healthy (system script s).2 ∧ content (system script s).2 = content s) :
    (evaluatorOn system).Preserves content healthy :=
  evaluatorOn_rel (R := fun s s' => healthy s → healthy s' ∧ content s' = content s)
    (fun _ hs => ⟨hs, rfl⟩) h

theorem evaluatorOn_spares {part : σ → μ} (h : ∀ script s, part (system script s).2 = part s) :
    (evaluatorOn system).Spares part :=
  evaluatorOn_rel (R := fun s s' => part s' = part s) (fun _ => rfl) h

/-- Where a part of the system is all that scripts use, the evaluator is that of the part. -/
theorem evaluatorOn_along {f : σ → τ} {other : System τ}
    (h : ∀ script s, other script (f s) = (system script s).map id f) :
    Evaluator.Along f (evaluatorOn system) (evaluatorOn other) := by
  intro script s
  unfold evaluatorOn execute
  rw [h script s]
  split
  · rfl
  · obtain ⟨cause | outcome, s'⟩ := system script s <;> rfl

end Console.Shell

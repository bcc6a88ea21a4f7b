import Console.Proofs.Session.Reply
import Console.Proofs.Transcript.Extraction
import Console.Session.Desk

/-! The states that a session can be in. A step at a desk makes at most one move of the session, and
    a move leaves the transcript as it is or gives a reply to some text. Every reply ends with a
    fresh prompt, so every state reached from the opening is at rest: the text ends with the prompt
    and a space, input begins at its end, and nothing has been typed yet. The store may answer
    anything at any call, and may change between two moves. -/

namespace Console

/-! ### Moves -/

/-- What a step at a desk does to the session itself. -/
inductive Move where
  | rest
  | commit (full : Text)
  | evaluate (expression : Text)
  | append (command : Text)
  | setBufferSize (size : Nat)
  | previous
  | next
  | reset
  deriving DecidableEq, Repr

/-- Makes a move. -/
def Running.move {σ : Type} [Store σ] (evaluator : Evaluator σ) (r : Running σ) : Move → Running σ
  | .rest => r
  | .commit full => (r.commit evaluator full).2
  | .evaluate expression => (r.evaluate evaluator expression).2
  | .append command => r.addCommand command
  | .setBufferSize size => r.setBufferSize size
  | .previous => r.previous.2
  | .next => r.next.2
  | .reset => r.reset.2

/-- The move that a step makes when the transcript has this text. -/
def Step.move {α : Type} (text : Text) : Step α → Move
  | .commit full => .commit full
  | .evaluate expression => .evaluate expression
  | .append command => .append command
  | .setBufferSize size => .setBufferSize size
  | .submit line => .commit (text ++ line)
  | .executeOnce expression => .commit (text ++ expression)
  | .previous | .press .up => .previous
  | .next | .press .down => .next
  | .reset => .reset
  | .reopen | .promptText | .search _ | .recent _ | .flavor | .subscribe _ | .unsubscribe _ => .rest

section Moves

variable {σ α : Type} [Store σ]

/-- A step at a desk is its move, as far as the session and the store go. -/
theorem Desk.stepEngine_move (evaluator : Evaluator σ) (e : Engine α) (store : σ) (k : Step α) :
    let r := Running.move evaluator ⟨e.session, store, []⟩ (k.move e.session.transcript.text)
    (Desk.stepEngine evaluator e store k).2.1.session = r.session ∧
      (Desk.stepEngine evaluator e store k).2.2 = r.store := by
  cases k with
  | press arrow => cases arrow <;> exact ⟨rfl, rfl⟩
  | _ => exact ⟨rfl, rfl⟩

/-- A move replies to some text or leaves the transcript alone, and it keeps the flavor. -/
theorem Running.move_session (evaluator : Evaluator σ) (r : Running σ) (m : Move) :
    ∃ transcript history lastOutput, (r.move evaluator m).session =
        { r.session with transcript := transcript, history := history, lastOutput := lastOutput } ∧
      (transcript = r.session.transcript ∨
        ∃ text reply, transcript = (r.session.transcript.withText text).after reply) := by
  cases m with
  | commit full =>
    obtain ⟨history, h⟩ := evaluate_session evaluator (r.mapTranscript (·.replace full))
      (r.session.transcript.extract full)
    exact ⟨_, history, _, h, .inr ⟨full, _, rfl⟩⟩
  | evaluate expression =>
    obtain ⟨history, h⟩ := evaluate_session evaluator r expression
    refine ⟨_, history, _, h, .inr ⟨r.session.transcript.text, ?_, ?_⟩⟩
    · exact Reply.of (evaluator expression (r.addCommand expression).store).1
        r.session.history.limit expression
    · cases Reply.of _ _ expression <;> rfl
  | append command => exact ⟨_, _, _, addCommand_session r command, .inl rfl⟩
  | setBufferSize size => exact ⟨_, _, _, setBufferSize_session r size, .inl rfl⟩
  | reset =>
    obtain ⟨history, h⟩ := reset_session r
    exact ⟨_, history, _, h, .inr ⟨[], .reset, rfl⟩⟩
  | rest | previous | next => exact ⟨_, _, _, rfl, .inl rfl⟩

end Moves

/-! ### States -/

namespace Session

variable {σ : Type} [Store σ]

/-- The states that moves lead to from the opening. Every move finds a store of its own, so what the
    store answers is left open, and so is what others do to it in between. -/
inductive Reachable (opening : Opening σ) : Session → Prop where
  | opened {store store' : σ} {s : Session} :
      start opening.flavor opening.defaultSize store = (.ok s, store') → Reachable opening s
  | move {s : Session} (store : σ) (m : Move) : Reachable opening s →
      Reachable opening (Running.move opening.evaluator ⟨s, store, []⟩ m).session

/-- A session of a flavor that waits for input. -/
structure Waiting (flavor : Flavor) (s : Session) : Prop where
  flavor_eq : s.flavor = flavor
  title_eq : s.transcript.title = flavor.title
  prompt_eq : s.transcript.prompt = flavor.prompt
  atRest : s.transcript.atRest = true

end Session

namespace Transcript

theorem atRest_iff {t : Transcript} :
    t.atRest = true ↔ promptText t.prompt <:+ t.text ∧ t.offset = t.text.length := by
  rw [atRest, Bool.and_eq_true, List.isSuffixOf_iff_suffix, beq_iff_eq]

theorem atRest_withText {t : Transcript} {text : Text} (h : promptText t.prompt <:+ text) :
    (t.withText text).atRest = true :=
  atRest_iff.2 ⟨h, rfl⟩

/-- Every reply ends with a fresh prompt. -/
theorem after_atRest (t : Transcript) (reply : Reply) : (t.after reply).atRest = true := by
  cases reply with
  | block shown => exact atRest_withText ⟨_, List.append_assoc _ ['\n'] _⟩
  | cleared => exact atRest_withText List.suffix_rfl
  | reset => exact atRest_withText ⟨t.title ++ '\n' :: helpHint ++ ['\n'], by simp [preamble]⟩

@[simp] theorem after_prompt (t : Transcript) (reply : Reply) :
    (t.after reply).prompt = t.prompt := by
  cases reply <;> rfl

@[simp] theorem after_title (t : Transcript) (reply : Reply) :
    (t.after reply).title = t.title := by
  cases reply <;> rfl

end Transcript

namespace Session

variable {σ : Type} [Store σ]

/-- A session that has just been opened shows its preamble. -/
theorem start_ok {flavor : Flavor} {defaultSize : Nat} {store store' : σ} {s : Session}
    (h : start flavor defaultSize store = (.ok s, store')) :
    Text.allBlank flavor.prompt = false ∧
      ∃ history, loadHistory flavor.title defaultSize store = (.ok history, store') ∧
        s = ⟨flavor, .reset ⟨[], flavor.title, flavor.prompt, 0⟩, history, none, defaultSize⟩ := by
  unfold start Transcript.new? at h
  cases hblank : Text.allBlank flavor.prompt with
  | true => simp [hblank] at h
  | false =>
    simp only [hblank, Bool.false_eq_true, if_false] at h
    split at h
    · simp at h
    · rename_i history store₁ hload
      simp only [Prod.mk.injEq, Except.ok.injEq] at h
      obtain ⟨rfl, rfl⟩ := h
      exact ⟨rfl, history, hload, rfl⟩

theorem Waiting.move {flavor : Flavor} {s : Session} (h : Waiting flavor s)
    (evaluator : Evaluator σ) (store : σ) (m : Move) :
    Waiting flavor (Running.move evaluator ⟨s, store, []⟩ m).session := by
  obtain ⟨hflavor, htitle, hprompt, hrest⟩ := h
  obtain ⟨transcript, history, lastOutput, hs, ht⟩ :=
    Running.move_session evaluator ⟨s, store, []⟩ m
  rw [hs]
  obtain rfl | ⟨text, reply, rfl⟩ := ht
  · exact ⟨hflavor, htitle, hprompt, hrest⟩
  · exact ⟨hflavor, (Transcript.after_title _ reply).trans htitle,
      (Transcript.after_prompt _ reply).trans hprompt, Transcript.after_atRest _ reply⟩

theorem Reachable.waiting {opening : Opening σ} {s : Session} (h : Reachable opening s) :
    Waiting opening.flavor s := by
  induction h with
  | opened hstart =>
    obtain ⟨-, history, -, rfl⟩ := start_ok hstart
    exact ⟨rfl, rfl, rfl, Transcript.after_atRest ⟨[], _, _, 0⟩ .reset⟩
  | move store m _ ih => exact ih.move opening.evaluator store m

/-- No session is ever opened with a blank prompt. -/
theorem Reachable.prompt_ne_nil {opening : Opening σ} {s : Session} (h : Reachable opening s) :
    opening.flavor.prompt ≠ [] := by
  induction h with
  | opened hstart =>
    rintro hnil
    obtain ⟨hblank, -⟩ := start_ok hstart
    rw [hnil] at hblank
    exact absurd hblank (by decide)
  | move _ _ _ ih => exact ih

/-- In every reachable state the transcript is at rest. -/
theorem atRest_of_reachable {opening : Opening σ} {s : Session} (h : Reachable opening s) :
    Transcript.promptText opening.flavor.prompt <:+ s.transcript.text ∧
      s.transcript.offset = s.transcript.text.length ∧
      s.transcript.extract s.transcript.text = [] := by
  obtain ⟨-, -, hprompt, hrest⟩ := h.waiting
  obtain ⟨hsuffix, hoffset⟩ := Transcript.atRest_iff.1 hrest
  refine ⟨hprompt ▸ hsuffix, hoffset, Transcript.extract_eq_nil_of_suffix hsuffix⟩

/-- A committed text that repeats the prompt, then a reset that the store refuses. -/
theorem atRest_after_refused_reset :
    ∃ (opening : Opening (Switched Stored)) (s : Session), Reachable opening s ∧
      opening.flavor.prompt = "a a".toList ∧ s.lastOutput = some "x\na a ".toList ∧
      s.transcript.text = "T\nType 'help' for a list of commands.\na a ".toList ∧
      Transcript.promptText opening.flavor.prompt <:+ s.transcript.text ∧
      s.transcript.offset = s.transcript.text.length ∧
      s.transcript.extract s.transcript.text = [] := by
  let opening : Opening (Switched Stored) :=
    ⟨⟨['T'], "a a".toList, []⟩, 2, .pure fun e => .ok (e ++ "\na a ".toList)⟩
  have hstart : start opening.flavor opening.defaultSize
    (⟨.empty, false, false⟩ : Switched Stored) = (.ok _, _) := rfl
  have hdone := ((Reachable.opened hstart).move ⟨.empty, false, true⟩
    (.commit "a a a x".toList)).move ⟨.empty, false, true⟩ .reset
  exact ⟨opening, _, hdone, rfl, rfl, rfl, atRest_of_reachable hdone⟩

end Session

end Console

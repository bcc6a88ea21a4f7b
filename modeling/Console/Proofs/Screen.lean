import Console.Proofs.Session.Reachable
import Console.Screen

/-! What a line prints. The transcript goes on from the submitted text exactly when the reply is a
    block, and then the block is printed whole, since no block begins with a newline. The bare
    prompt and the preamble do not go on from a line behind the prompt, so the screen is drawn
    anew. What is printed thus depends on the reply and the flavor alone. -/

namespace Console

/-- What a session of a flavor shows first. -/
def Flavor.preamble (flavor : Flavor) : Text :=
  Transcript.preamble ⟨[], flavor.title, flavor.prompt, 0⟩

/-- The prompt of a flavor as it is shown. -/
def Flavor.promptText (flavor : Flavor) : Text := Transcript.promptText flavor.prompt

/-- How a reply updates the screen, the next prompt included. -/
def Reply.update (flavor : Flavor) : Reply → Screen.Update
  | .block shown => .append (shown ++ '\n' :: flavor.promptText)
  | .cleared => .redraw flavor.promptText
  | .reset => .redraw flavor.preamble

/-- What a reply prints, the next prompt included. -/
def Reply.printed (flavor : Flavor) : Reply → Text
  | .block shown => shown ++ '\n' :: flavor.promptText
  | .cleared => Screen.wipe ++ flavor.promptText
  | .reset => Screen.wipe ++ flavor.preamble

theorem Reply.update_printed (flavor : Flavor) (reply : Reply) :
    (reply.update flavor).printed = reply.printed flavor := by
  cases reply <;> rfl

/-- Every block begins with a character that is no newline. -/
theorem Reply.block_head {answer : Except Text Text} {limit : Nat} {expression shown : Text}
    (h : Reply.of answer limit expression = .block shown) :
    ∃ c rest, shown = c :: rest ∧ c ≠ '\n' := by
  unfold Reply.of at h
  split at h
  · exact nomatch h
  · exact nomatch h
  · obtain rfl := Reply.block.inj h
    exact ⟨'S', _, rfl, by decide⟩
  · obtain rfl := Reply.block.inj h
    exact ⟨'B', _, rfl, by decide⟩
  · obtain rfl := Reply.block.inj h
    exact ⟨'B', _, rfl, by decide⟩
  · split at h
    · obtain rfl := Reply.block.inj h
      exact ⟨'=', _, rfl, by decide⟩
    · obtain rfl := Reply.block.inj h
      exact ⟨'x', _, rfl, by decide⟩

/-- The empty expression is no special command. -/
theorem Reply.of_nil (answer : Except Text Text) (limit : Nat) :
    ∃ shown, Reply.of answer limit [] = .block shown := by
  have hparse : Command.parse? [] = none := by decide
  unfold Reply.of
  rw [hparse]
  cases answer with
  | ok output => exact ⟨_, rfl⟩
  | error message => exact ⟨_, rfl⟩

namespace Screen

theorem update_redraw {submitted transcript : Text} (h : ¬ submitted <+: transcript) :
    update submitted transcript = .redraw transcript := by
  have hnone : submitted.isPrefixOf? transcript = none := by
    refine Option.eq_none_iff_forall_ne_some.2 fun added hadded => h ⟨added, ?_⟩
    exact List.isPrefixOf?_eq_some_iff_append_eq.1 hadded
  rw [update, hnone]

theorem isPrefixOf?_append (submitted added : Text) :
    submitted.isPrefixOf? (submitted ++ added) = some added :=
  List.isPrefixOf?_eq_some_iff_append_eq.2 rfl

/-- The newline of the user is not printed again. -/
theorem update_append_newline (submitted added : Text) :
    update submitted (submitted ++ '\n' :: added) = .append added := by
  rw [update, isPrefixOf?_append]
  rfl

theorem update_append (submitted rest : Text) {c : Char} (hc : c ≠ '\n') :
    update submitted (submitted ++ c :: rest) = .append (c :: rest) := by
  rw [update, isPrefixOf?_append]
  split
  · rename_i heq
    rw [Option.some.injEq, List.cons.injEq] at heq
    exact absurd heq.1 hc
  · rename_i heq
    rw [Option.some.inj heq]
  · rename_i heq
    exact nomatch heq

/-- A block is printed whole, with the prompt behind it. -/
theorem update_pushBlock (t : Transcript) {shown rest : Text} {c : Char}
    (hshown : shown = c :: rest) (hc : c ≠ '\n') : update t.text (t.pushBlock shown).text =
      .append (shown ++ '\n' :: Transcript.promptText t.prompt) := by
  subst hshown
  simp only [Transcript.pushBlock, Transcript.withText, List.append_assoc]
  split
  · exact update_append t.text _ hc
  · exact update_append_newline t.text _

/-- A line behind the prompt is updated by its reply. -/
theorem update_after {flavor : Flavor} {t : Transcript} {reply : Reply}
    (htitle : t.title = flavor.title) (hprompt : t.prompt = flavor.prompt)
    (hblock : ∀ shown, reply = .block shown → ∃ c rest, shown = c :: rest ∧ c ≠ '\n')
    (hanew : (∀ shown, reply ≠ .block shown) → ¬ t.text <+: (t.after reply).text) :
    update t.text (t.after reply).text = reply.update flavor := by
  cases reply with
  | block shown =>
    obtain ⟨c, rest, hshown, hc⟩ := hblock shown rfl
    rw [Transcript.after, update_pushBlock t hshown hc, hprompt]
    rfl
  | cleared =>
    rw [update_redraw (hanew (by rintro shown ⟨⟩))]
    exact congrArg (Update.redraw <| Transcript.promptText ·) hprompt
  | reset =>
    rw [update_redraw (hanew (by rintro shown ⟨⟩))]
    change Update.redraw (Transcript.preamble t) = .redraw flavor.preamble
    rw [Transcript.preamble, htitle, hprompt]
    rfl

end Screen

end Console

import Console.Proofs.Screen

/-! One line behind the prompt of a session that waits for it. What the line is as an expression
    depends on the flavor alone. The reply goes on from the line, or it is the bare prompt or the
    preamble, which do not go on from it as long as the preamble does not begin with the prompt. -/

namespace Console

/-- The expression of a line behind the prompt. -/
def Flavor.typed (flavor : Flavor) (line : Text) : Text :=
  Transcript.extract ⟨[], flavor.title, flavor.prompt, 0⟩ (flavor.promptText ++ line)

/-- Nothing behind the prompt is no expression. -/
theorem Flavor.typed_nil (flavor : Flavor) : flavor.typed [] = [] :=
  Transcript.extract_eq_nil_of_suffix ⟨[], by rw [List.nil_append, List.append_nil]; rfl⟩

/-- A session whose transcript shows a line behind the prompt. -/
def Session.showing (s : Session) (line : Text) : Session :=
  { s with transcript := s.transcript.replace (s.transcript.text ++ line) }

namespace Session.Waiting

variable {σ : Type} [Store σ] {flavor : Flavor} {s : Session}

/-- Whatever stands before the prompt, a line is the same expression. -/
theorem extract (h : Waiting flavor s) (line : Text) :
    s.transcript.extract (s.transcript.text ++ line) = flavor.typed line := by
  obtain ⟨⟨before, htext⟩, -⟩ := Transcript.atRest_iff.1 h.atRest
  rw [← htext, List.append_assoc, Transcript.extract_append, Flavor.typed, Flavor.promptText,
    Transcript.extract_eq, Transcript.extract_eq, h.prompt_eq]

theorem commit_eq (h : Waiting flavor s) (evaluator : Evaluator σ) (store : σ) (line : Text) :
    Running.commit evaluator ⟨s, store, []⟩ (s.transcript.text ++ line) =
      Running.evaluate evaluator ⟨s.showing line, store, []⟩ (flavor.typed line) :=
  congrArg (Running.evaluate evaluator ⟨s.showing line, store, []⟩) (h.extract line)

theorem showing_prompt (h : Waiting flavor s) (line : Text) :
    (s.showing line).transcript.prompt = flavor.prompt := h.prompt_eq

theorem showing_title (h : Waiting flavor s) (line : Text) :
    (s.showing line).transcript.title = flavor.title := h.title_eq

theorem after_cleared_text (h : Waiting flavor s) (line : Text) :
    ((s.showing line).transcript.after .cleared).text = flavor.promptText :=
  congrArg Transcript.promptText (h.showing_prompt line)

theorem after_reset_text (h : Waiting flavor s) (line : Text) :
    ((s.showing line).transcript.after .reset).text = flavor.preamble := by
  rw [Flavor.preamble, Transcript.preamble, ← h.showing_prompt line, ← h.showing_title line]
  rfl

/-- The prompt and the preamble do not go on from a line behind the prompt. -/
theorem anew (h : Waiting flavor s)
    (hbegins : flavor.preamble <+: s.transcript.text ∨ flavor.promptText <+: s.transcript.text)
    (hpreamble : ¬ flavor.promptText <+: flavor.preamble) {line : Text} (hline : line ≠ [])
    {reply : Reply} (hreply : ∀ shown, reply ≠ .block shown) :
    ¬ (s.showing line).transcript.text <+: ((s.showing line).transcript.after reply).text := by
  have hlength : 0 < line.length := List.length_pos_iff.2 hline
  have htext : (s.showing line).transcript.text = s.transcript.text ++ line := rfl
  intro hprefix
  rw [htext] at hprefix
  have hle := hprefix.length_le
  rw [List.length_append] at hle
  cases reply with
  | block shown => exact hreply shown rfl
  | cleared =>
    obtain ⟨hsuffix, -⟩ := Transcript.atRest_iff.1 h.atRest
    rw [h.prompt_eq] at hsuffix
    have := hsuffix.length_le
    rw [h.after_cleared_text line, Flavor.promptText] at hle
    omega
  | reset =>
    rw [h.after_reset_text line] at hprefix hle
    obtain hbegins | hbegins := hbegins
    -- behind the whole preamble the line makes the text too long
    · have := hbegins.length_le
      omega
    -- a cleared text begins with the prompt, so the preamble would too
    · exact hpreamble ((hbegins.trans (List.prefix_append _ line)).trans hprefix)

/-- After a reply the transcript begins with the preamble or with the prompt again. -/
theorem begins_after (h : Waiting flavor s)
    (hbegins : flavor.preamble <+: s.transcript.text ∨ flavor.promptText <+: s.transcript.text)
    (line : Text) (reply : Reply) :
    flavor.preamble <+: ((s.showing line).transcript.after reply).text ∨
      flavor.promptText <+: ((s.showing line).transcript.after reply).text := by
  cases reply with
  | block shown =>
    have hgrows : s.transcript.text <+:
        ((s.showing line).transcript.after (.block shown)).text := by
      simp only [Session.showing, Transcript.after, Transcript.pushBlock, Transcript.withText,
        Transcript.replace, List.append_assoc]
      exact List.prefix_append _ _
    exact hbegins.imp (·.trans hgrows) (·.trans hgrows)
  | cleared => exact .inr (h.after_cleared_text line ▸ List.prefix_rfl)
  | reset => exact .inl (h.after_reset_text line ▸ List.prefix_rfl)

/-- A line updates the screen as its reply does. -/
theorem update_line (h : Waiting flavor s)
    (hbegins : flavor.preamble <+: s.transcript.text ∨ flavor.promptText <+: s.transcript.text)
    (hpreamble : ¬ flavor.promptText <+: flavor.preamble) (answer : Except Text Text) (limit : Nat)
    (line : Text) :
    let reply := Reply.of answer limit (flavor.typed line)
    Screen.update (s.transcript.text ++ line) ((s.showing line).transcript.after reply).text =
      reply.update flavor := by
  refine Screen.update_after (t := (s.showing line).transcript) (h.showing_title line)
    (h.showing_prompt line) (fun shown hshown => Reply.block_head hshown)
    fun hreply => h.anew hbegins hpreamble ?_ hreply
  rintro rfl
  obtain ⟨shown, hshown⟩ := Reply.of_nil answer limit
  exact hreply shown (by rw [flavor.typed_nil, hshown])

end Session.Waiting

end Console

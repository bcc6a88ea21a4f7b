import Console.Proofs.Transcript.Extraction
import Mathlib.Data.List.Infix

/-! What is typed behind a prompt. The text behind the prompt and its space is found whole if no
    later prompt is read into it. A later prompt would lie in the typed line, or begin with the
    space, or begin inside the prompt and go over the space. The line does not hold the prompt, and
    a sealed prompt rules out the other two. -/

namespace Console

namespace Transcript

/-- No ending of a sealed prompt begins the prompt again when the space stands behind it. The empty
    ending is one of them, so a sealed prompt does not begin with a space. -/
def Sealed (prompt : Text) : Prop :=
  ∀ ending, ending <:+ prompt → ending ≠ prompt → ¬ promptText ending <+: prompt

/-- The endings of a prompt are few, so whether it is sealed can be computed. -/
instance (prompt : Text) : Decidable (Sealed prompt) :=
  decidable_of_iff (∀ ending ∈ prompt.tails, ending ≠ prompt → ¬ promptText ending <+: prompt)
    (by simp only [List.mem_tails, Sealed])

/-- A prompt without spaces is sealed. -/
theorem sealed_of_notMem {prompt : Text} (h : ' ' ∉ prompt) : Sealed prompt :=
  fun _ _ _ hfront => h (hfront.subset (List.mem_append_right _ List.mem_cons_self))

/-- The rightmost prompt is the one behind which the line was typed. -/
theorem Sealed.afterLast? {prompt line : Text} (hsealed : Sealed prompt) (hprompt : prompt ≠ [])
    (hline : ¬ prompt <:+: line) :
    Text.afterLast? prompt (promptText prompt ++ line) = some (' ' :: line) := by
  have htext : promptText prompt ++ line = prompt ++ ' ' :: line := by simp [promptText]
  obtain ⟨rest, hrest, -⟩ := Text.afterLast?_marker_append prompt (' ' :: line)
  obtain ⟨before, hbefore⟩ := Text.exists_of_afterLast? hrest
  rw [htext, hrest]
  obtain ⟨ending, hend, hover⟩ | ⟨behind, hbehind, hover⟩ := List.append_eq_append_iff.1 hbefore
  -- the prompt that was found begins behind the first one: at the space, or in the line
  · cases ending with
    | nil =>
      obtain ⟨c, p, rfl⟩ := List.exists_cons_of_ne_nil hprompt
      obtain ⟨rfl, -⟩ := List.cons.inj hover
      exact absurd ⟨p, rfl⟩ (hsealed [] List.nil_suffix (List.cons_ne_nil _ _).symm)
    | cons c between =>
      obtain ⟨-, rfl⟩ := List.cons.inj hover
      exact absurd ⟨between, rest, (List.append_assoc ..)⟩ hline
  -- it begins in the first one
  · by_cases hfirst : before = []
    · subst hfirst
      obtain rfl : prompt = behind := hbehind
      rw [List.append_cancel_left hover]
    · have hshort : behind.length < prompt.length := by
        rw [hbehind, List.length_append]
        have := List.length_pos_iff.2 hfirst
        omega
      have hne : behind ≠ prompt := fun h => Nat.ne_of_lt hshort (congrArg List.length h)
      refine absurd ?_ (hsealed behind ⟨before, hbehind.symm⟩ hne)
      refine List.prefix_of_prefix_length_le ⟨line, ?_⟩ ⟨rest, hover⟩ ?_
      · simp [promptText]
      · rw [promptText, List.length_append]
        exact hshort

/-- A line behind a sealed prompt, that does not hold the prompt itself, is its own expression. -/
theorem Sealed.extract {t : Transcript} {line : Text} (hsealed : Sealed t.prompt)
    (hprompt : t.prompt ≠ []) (hline : ¬ t.prompt <:+: line) (before : Text) :
    t.extract (before ++ (promptText t.prompt ++ line)) = Text.trim line := by
  rw [extract_append, extract_eq, hsealed.afterLast? hprompt hline]
  rfl

end Transcript

end Console

import Console.Fault
import Console.Text.Blank

/-! The transcript: all that the user sees, from the preamble to the trailing prompt. Input is found
    in it by its place: the newest expression is what follows the last prompt. -/

namespace Console

/-- The text with its title, its prompt, and the offset where input begins. -/
structure Transcript where
  text : Text
  title : Text
  prompt : Text
  offset : Nat
  deriving DecidableEq, Repr

namespace Transcript

/-- The second line of every preamble. -/
def helpHint : Text := "Type 'help' for a list of commands.".toList

/-- What stands before a result. -/
def resultMarker : Text := "=>".toList

/-- What stands before an error. -/
def errorMarker : Text := "x>".toList

/-- The prompt as it is shown, with the space behind it. -/
def promptText (prompt : Text) : Text := prompt ++ [' ']

/-- The text that a fresh session starts with. -/
def preamble (t : Transcript) : Text :=
  t.title ++ '\n' :: helpHint ++ '\n' :: promptText t.prompt

/-- Sets the text, and the offset to its end. -/
def withText (t : Transcript) (text : Text) : Transcript :=
  { t with text := text, offset := text.length }

/-- Back to the preamble. -/
def reset (t : Transcript) : Transcript := t.withText t.preamble

/-- A transcript that shows its preamble. A prompt of blanks could not be found again. -/
def new? (title prompt : Text) : Except Fault Transcript :=
  if Text.allBlank prompt then .error .blankPrompt else .ok (reset ⟨[], title, prompt, 0⟩)

/-! ### Finding the expression -/

/-- Whether a line ends with the prompt and at least one blank, all blanks from there on. -/
def endsIdle (prompt : Text) : Text → Bool
  | [] => false
  | c :: rest =>
    (match prompt.isPrefixOf? (c :: rest) with
      | some behind => !behind.isEmpty && Text.allBlank behind
      | none => false) || endsIdle prompt rest

/-- The newest expression of a whole text: what follows its last prompt, trimmed. A last line that
    ends with the idle prompt has none, and neither has a text without the prompt. -/
def extract (t : Transcript) (full : Text) : Text :=
  if endsIdle t.prompt full.lastLine then []
  else ((Text.afterLast? t.prompt full).map Text.trim).getD []

/-! ### Changing the text -/

/-- Takes over the text as the user left it. -/
def replace (t : Transcript) (full : Text) : Transcript := t.withText full

/-- Adds a block on lines of its own, and a fresh prompt. -/
def pushBlock (t : Transcript) (block : Text) : Transcript :=
  let break_ := if t.text = [] ∨ t.text.getLast? = some '\n' then [] else ['\n']
  t.withText (t.text ++ break_ ++ block ++ '\n' :: promptText t.prompt)

/-- The block of a result. -/
def resultBlock (output : Text) : Text := resultMarker ++ ' ' :: output

/-- The block of an error. -/
def errorBlock (message : Text) : Text := errorMarker ++ ' ' :: message

/-- Adds a result. -/
def pushResult (t : Transcript) (output : Text) : Transcript := t.pushBlock (resultBlock output)

/-- Adds an error. -/
def pushError (t : Transcript) (message : Text) : Transcript := t.pushBlock (errorBlock message)

/-- Drops everything but a prompt. -/
def clear (t : Transcript) : Transcript := t.withText (promptText t.prompt)

/-- Whether the text ends with the prompt and input begins at its end. -/
def atRest (t : Transcript) : Bool :=
  (promptText t.prompt).isSuffixOf t.text && t.offset == t.text.length

end Transcript

end Console

import Console.Session.Engine

/-! The screen of a line editor. The editor has shown what the user typed, so after a line only what
    the transcript gained is printed; when the transcript was replaced, the screen is drawn anew.
    The trailing prompt is left to the editor. -/

namespace Console.Screen

/-- What to print after a line. -/
inductive Update where
  /-- The text gained behind the submitted text. -/
  | append (added : Text)
  /-- The whole transcript, which does not go on from the submitted text. -/
  | redraw (all : Text)
  deriving DecidableEq, Repr

/-- Compares the submitted text with the transcript that came back. One newline, the one that the
    user has already typed, is not printed again. -/
def update (submitted transcript : Text) : Update :=
  match submitted.isPrefixOf? transcript with
  | some ('\n' :: added) => .append added
  | some added => .append added
  | none => .redraw transcript

/-- Clears the terminal and goes to its top left corner. -/
def wipe : Text := "\x1b[2J\x1b[H".toList

/-- What an update prints. -/
def Update.printed : Update → Text
  | .append added => added
  | .redraw all => wipe ++ all

/-- The text without the prompt that ends it. -/
def stripPrompt (printed prompt : Text) : Text := Text.dropEnding prompt printed

/-- The prompt that the editor draws. -/
def promptText {α : Type} (e : Engine α) : Text := Transcript.promptText e.session.flavor.prompt

variable {σ α : Type} [Store σ]

/-- Submits a line typed behind the prompt, and answers what to print. -/
def submit (evaluator : Evaluator σ) (e : Engine α) (store : σ) (line : Text) : Turn σ α Text :=
  let submitted := e.session.transcript.text ++ line
  let t := e.commit evaluator store submitted
  { t with answer := (update submitted t.engine.session.transcript.text).printed }

/-- Submits one expression, and answers its output without the next prompt. -/
def executeOnce (evaluator : Evaluator σ) (e : Engine α) (store : σ) (expression : Text) :
    Turn σ α Text :=
  let t := submit evaluator e store expression
  { t with answer := (stripPrompt t.answer (promptText t.engine)).trimEnd }

/-- The two arrow keys. -/
inductive Arrow where | up | down
  deriving DecidableEq, Repr

/-- What an arrow key puts on the line; none leaves the line as it is. Past the newest command the
    line is empty again. -/
def press (arrow : Arrow) (e : Engine α) (store : σ) : Turn σ α (Option Text) :=
  match arrow with
  | .up => e.previous store
  | .down =>
    let t := e.next store
    { t with answer := some (t.answer.getD []) }

end Console.Screen

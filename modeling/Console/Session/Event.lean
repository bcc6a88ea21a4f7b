import Console.Command
import Console.Fault

/-! What a session puts into the log. -/

namespace Console

/-- An event of a session. -/
inductive Event where
  | opened (title : Text) (commands size : Nat)
  | wasReset (title : Text)
  | trimmed (title : Text) (size : Nat)
  | special (command : Command)
  | failed (expression error : Text)
  | historyUnsaved (cause : Fault)
  | sizeUnsaved (cause : Fault)
  | resetFailed (cause : Fault)
  deriving DecidableEq, Repr

/-- How much an event matters. -/
inductive Level where | debug | info | warn
  deriving DecidableEq, Repr

/-- The name of a level. -/
def Level.name : Level → Text
  | .debug => "DEBUG".toList
  | .info => "INFO".toList
  | .warn => "WARN".toList

namespace Event

/-- The level of an event. -/
def level : Event → Level
  | .opened _ _ _ | .wasReset _ => .info
  | .trimmed _ _ | .special _ | .failed _ _ => .debug
  | .historyUnsaved _ | .sizeUnsaved _ | .resetFailed _ => .warn

/-- The message of an event. -/
def message : Event → Text
  | .opened _ _ _ => "Opened REPL session".toList
  | .wasReset _ => "Reset REPL session".toList
  | .trimmed _ _ => "Trimmed command history".toList
  | .special _ => "Running special command".toList
  | .failed _ _ => "Evaluation failed".toList
  | .historyUnsaved cause => "Failed to save command history: ".toList ++ cause.message
  | .sizeUnsaved cause => "Failed to save history buffer size: ".toList ++ cause.message
  | .resetFailed cause => "Failed to reset command history: ".toList ++ cause.message

/-- The details of an event, by name. -/
def details : Event → List (Text × Text)
  | .opened title commands size => [("title".toList, title),
      ("commands".toList, Text.ofNat commands), ("buffer_size".toList, Text.ofNat size)]
  | .wasReset title => [("title".toList, title)]
  | .trimmed title size => [("title".toList, title), ("buffer_size".toList, Text.ofNat size)]
  | .special command => [("command".toList, command.render)]
  | .failed expression error => [("expression".toList, expression), ("error".toList, error)]
  | .historyUnsaved _ | .sizeUnsaved _ | .resetFailed _ => []

end Event

end Console

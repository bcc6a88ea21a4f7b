import Console.Files
import Console.Json.Reader

/-! What can go wrong around a session: its prompt, its store, the files behind the store. -/

namespace Console

/-- Why a session cannot be opened or its store cannot answer. -/
inductive Fault where
  | blankPrompt
  | unreadable (path : Text) (cause : Files.Fault)
  | unwritable (path : Text) (cause : Files.Fault)
  | refused (call : Text)
  | directory (cause : Files.Fault)
  | malformed (cause : Json.Fault)
  deriving DecidableEq, Repr

/-- The wording of a stored text that does not have its shape. -/
def Json.Fault.message : Json.Fault → Text
  | .malformed => "malformed text".toList
  | .unfinished => "unexpected end of text".toList
  | .mistyped => "unexpected kind of value".toList

/-- The wording of a fault. -/
def Fault.message : Fault → Text
  | .blankPrompt => "Configuration error: prompt must not be blank".toList
  | .unreadable path cause =>
    "Storage error: Failed to read ".toList ++ path ++ ": ".toList ++ cause.message
  | .unwritable path cause =>
    "Storage error: Failed to write ".toList ++ path ++ ": ".toList ++ cause.message
  | .refused call => "Storage error: ".toList ++ call ++ " refused".toList
  | .directory cause => "I/O error: ".toList ++ cause.message
  | .malformed cause => "Serialization error: ".toList ++ cause.message

end Console

import Console.Json.Reader
import Console.Json.Printer

/-! Flavors: the settings that tell one kind of console from another, and their JSON form. -/

namespace Console

/-- The title of the sessions, their prompt, and the grammar that an editor highlights with. -/
structure Flavor where
  title : Text
  prompt : Text
  grammar : Text
  deriving DecidableEq, Repr

namespace Flavor

/-- The prompt where a flavor has none of its own. -/
def defaultPrompt : Text := ">>".toList

/-- The flavors that come with the console. -/
inductive Kind where | calculator | shell
  deriving DecidableEq, Repr

/-- The name by which a flavor is chosen. -/
def Kind.name : Kind → Text
  | .calculator => "calc".toList
  | .shell => "shell".toList

/-- The settings of a flavor. -/
def Kind.flavor : Kind → Flavor
  | .calculator => ⟨"Calculator".toList, defaultPrompt, "source.arithmetic".toList⟩
  | .shell => ⟨"Shell".toList, "sh>".toList, "source.shell".toList⟩

/-- The flavor of exactly this name. -/
def Kind.ofExactName? (name : Text) : Option Kind :=
  [Kind.calculator, Kind.shell].find? fun k => k.name == name

/-- The flavor of this name, in any ASCII letter case. -/
def Kind.ofName? (name : Text) : Option Kind := Kind.ofExactName? name.lowerAscii

/-- What is said of a name that no flavor has. -/
def unknownMessage (name : Text) : Text :=
  "Unknown flavor '".toList ++ name ++ "' (expected calc or shell)".toList

/-! ### JSON -/

/-- The flavor in one line of JSON. -/
def toJson (f : Flavor) : Text :=
  "\x7b\"title\":".toList ++ Json.quote f.title ++ ",\"prompt\":".toList ++ Json.quote f.prompt ++
    ",\"grammar\":".toList ++ Json.quote f.grammar ++ "\x7d".toList

/-- The fields that have been read. -/
structure Draft where
  title : Option Text
  prompt : Option Text
  grammar : Option Text

/-- Reads a field that may be there only once. -/
def once (seen : Option Text) (t : Text) : Except Json.Fault (Text × Text) :=
  if seen.isSome then .error .mistyped else (Json.colon t).bind Json.string

/-- Reads one member of a flavor; a member of another name is skipped. -/
def readMember (d : Draft) (key : Text) : Json.Reader Draft := fun t =>
  if key = "title".toList then (once d.title t).map fun (s, t) => ({ d with title := some s }, t)
  else if key = "prompt".toList then
    (once d.prompt t).map fun (s, t) => ({ d with prompt := some s }, t)
  else if key = "grammar".toList then
    (once d.grammar t).map fun (s, t) => ({ d with grammar := some s }, t)
  else ((Json.colon t).bind Json.skipValue).map fun t => (d, t)

/-- Reads the next field of a flavor that is written as a list. -/
def readPlace (first : Bool) : Json.Reader Text := fun t => do
  match ← Json.nextItem first t with
  | none => .error .mistyped
  | some t => Json.string t

/-- Reads a flavor, written as an object or as the list of its three fields. -/
def read : Json.Reader Flavor := fun t =>
  match Json.skipBlanks t with
  | '{' :: rest => do
    let (d, rest) ← Json.objectBody readMember ⟨none, none, none⟩ rest
    match d with
    | ⟨some title, some prompt, some grammar⟩ => pure (⟨title, prompt, grammar⟩, rest)
    | _ => .error .mistyped
  | '[' :: rest => do
    let (title, rest) ← readPlace true rest
    let (prompt, rest) ← readPlace false rest
    let (grammar, rest) ← readPlace false rest
    pure (⟨title, prompt, grammar⟩, ← Json.endList rest)
  | t => .error (Json.otherKind t)

/-- The flavor of a JSON text. -/
def ofJson (t : Text) : Except Json.Fault Flavor := Json.readAll read t

end Flavor

end Console

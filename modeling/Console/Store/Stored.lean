import Console.Json.Printer
import Console.Json.Reader
import Console.Store.Buckets

/-! The content of a store and its JSON form: an object with the lists by title and the shared
    buffer size. Reading takes missing fields for empty ones, skips unknown fields, refuses a field
    given twice, and takes a list of the fields in their order for the object. -/

namespace Console

/-- The lists of commands by title, and the buffer size that all titles share. -/
structure Stored where
  buckets : Buckets
  size : Option Nat

namespace Stored

/-- Nothing is stored. -/
def empty : Stored := ⟨.empty, none⟩

/-- Whether nothing is stored. -/
def isEmpty (s : Stored) : Bool := s.buckets.entries.isEmpty && s.size.isNone

/-- The name of the field with the lists. -/
def bucketsKey : Text := "command_history".toList

/-- The name of the field with the size. -/
def sizeKey : Text := "command_history_buffer_size".toList

/-! ### Writing -/

/-- Lines of items between brackets, one an item, indented by two more than the brackets. Nothing
    stands between the brackets if there are no items. -/
def block (opening closing : Char) (indent : Nat) (items : List Text) : Text :=
  let line (i : Nat) : Text := '\n' :: List.replicate i ' '
  if items = [] then [opening, closing]
  else
    opening :: line (indent + 2) ++ Text.join (',' :: line (indent + 2)) items ++
      line indent ++ [closing]

/-- A member of an object. -/
def memberText (key value : Text) : Text := Json.quote key ++ ": ".toList ++ value

/-- The JSON text, one item a line. -/
def toJson (s : Stored) : Text :=
  let bucket (entry : Text × List Text) : Text :=
    memberText entry.1 (block '[' ']' 4 (entry.2.map Json.quote))
  block '\x7b' '\x7d' 0 [
    memberText bucketsKey (block '\x7b' '\x7d' 2 (s.buckets.entries.map bucket)),
    memberText sizeKey (match s.size with
      | none => "null".toList
      | some n => Text.ofNat n)]

/-! ### Reading -/

/-- The fields that have been read. -/
structure Draft where
  buckets : Option Buckets
  size : Option (Option Nat)

/-- The content, with what is missing taken for empty. -/
def Draft.stored (d : Draft) : Stored := ⟨d.buckets.getD .empty, d.size.getD none⟩

/-- Reads one title with its list; a later list for the same title wins. -/
def readBucket (b : Buckets) (title : Text) : Json.Reader Buckets := fun t => do
  let (commands, t) ← Json.list Json.string (← Json.colon t)
  pure (b.insert title commands, t)

/-- Reads the lists by title. -/
def readBuckets : Json.Reader Buckets := fun t =>
  match Json.skipBlanks t with
  | '{' :: rest => Json.objectBody readBucket .empty rest
  | t => .error (Json.otherKind t)

/-- Reads the size, or `null` for none. -/
def readSize : Json.Reader (Option Nat) := Json.optional Json.natural

/-- Reads one field; a field of another name is skipped. -/
def readMember (d : Draft) (key : Text) : Json.Reader Draft := fun t => do
  if key = bucketsKey then
    if d.buckets.isSome then throw .mistyped
    let (b, t) ← readBuckets (← Json.colon t)
    pure ({ d with buckets := some b }, t)
  else if key = sizeKey then
    if d.size.isSome then throw .mistyped
    let (n, t) ← readSize (← Json.colon t)
    pure ({ d with size := some n }, t)
  else
    pure (d, ← Json.skipValue (← Json.colon t))

/-- Reads the fields written as a list, of which later ones may be missing. -/
def readPlaces : Json.Reader Stored := fun t => do
  match ← Json.nextItem true t with
  | none => pure (.empty, ← Json.endList t)
  | some t =>
    let (b, t) ← readBuckets t
    match ← Json.nextItem false t with
    | none => pure (⟨b, none⟩, ← Json.endList t)
    | some t =>
      let (n, t) ← readSize t
      pure (⟨b, n⟩, ← Json.endList t)

/-- Reads the content of a store. -/
def read : Json.Reader Stored := fun t =>
  match Json.skipBlanks t with
  | '{' :: rest =>
    (Json.objectBody readMember ⟨none, none⟩ rest).map fun (d, rest) => (d.stored, rest)
  | '[' :: rest => readPlaces rest
  | t => .error (Json.otherKind t)

/-- The content that a JSON text gives. -/
def ofJson (t : Text) : Except Json.Fault Stored := Json.readAll read t

end Stored

end Console

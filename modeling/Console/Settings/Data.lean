import Console.Toml.Value

/-! Data of mixed origin from which settings are read: a TOML file and the environment give data of
    the same kinds, though not the same numbers. Data from two sources is merged key by key, and
    where both have a value that is not a dictionary the later one wins. -/

namespace Console.Settings

/-- A piece of data. -/
inductive Data where
  | text (t : Text)
  | boolean (b : Bool)
  /-- A number that was written without a minus sign in the environment. -/
  | natural (n : Nat)
  | integer (n : Int)
  | float (x : Float)
  | list (items : List Data)
  | dict (entries : List (Text × Data))

namespace Data

/-! ### Merging -/

mutual

/-- The data of two sources together. -/
def merge (earlier : Data) : Data → Data
  | .dict entries =>
    match earlier with
    | .dict before => .dict (mergeEntries before entries)
    | _ => .dict entries
  | later => later

/-- Merges entries into those that are there. -/
def mergeEntries (before : List (Text × Data)) : List (Text × Data) → List (Text × Data)
  | [] => before
  | (key, later) :: rest =>
    match before.lookup key with
    | none => mergeEntries (Entries.put key later before) rest
    | some earlier => mergeEntries (Entries.put key (merge earlier later) before) rest

end

/-! ### TOML -/

mutual

/-- The data of a TOML value. A date or time counts as a dictionary, one in which no setting is. -/
def ofToml : Toml.Value → Data
  | .string t => .text t
  | .integer n => .integer n
  | .float x => .float x
  | .boolean b => .boolean b
  | .moment _ => .dict []
  | .array items => .list (ofTomlItems items)
  | .table entries => .dict (ofTomlEntries entries)

/-- The data of the items of an array. -/
def ofTomlItems : List Toml.Value → List Data
  | [] => []
  | v :: rest => ofToml v :: ofTomlItems rest

/-- The data of the entries of a table. -/
def ofTomlEntries : List (Text × Toml.Value) → List (Text × Data)
  | [] => []
  | (key, v) :: rest => (key, ofToml v) :: ofTomlEntries rest

end

end Data

end Console.Settings

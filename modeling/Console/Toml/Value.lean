import Console.Entries

/-! The values of a TOML document, and the tree that grows while a document is read. A table of the
    tree remembers how it came about, because that decides what may still be added to it: one that
    only stands on the way to a header may get a header of its own, one made by dotted keys may
    grow by dotted keys, and one with a header may get no second one. -/

namespace Console.Toml

/-- A value. -/
inductive Value where
  | string (t : Text)
  | integer (n : Int)
  | float (x : Float)
  | boolean (b : Bool)
  /-- A date, a time, or both, as written. -/
  | moment (t : Text)
  | array (items : List Value)
  | table (entries : List (Text × Value))

/-- A node of the growing tree. -/
inductive Item where
  | value (v : Value)
  /-- A table that is implicit until a header names it, and dotted if dotted keys made it. -/
  | table (implicit dotted : Bool) (entries : List (Text × Item))
  /-- The tables under a repeated header, in order. -/
  | tables (elements : List Item)

namespace Item

/-- A table with nothing in it, named by a header. -/
def emptyTable : Item := .table false false []

/-- Changes the item at the end of a path. Tables that are missing on the way are made; the way
    through repeated tables leads into the last one. Dotted keys do not pass through a table that
    has a header. -/
def under (dotted : Bool) (change : Item → Option Item) : List Text → Item → Option Item
  | [], item => change item
  | key :: path, .table implicit isDotted entries =>
    let back (child : Item) : Item := .table implicit isDotted (Entries.put key child entries)
    match entries.lookup key with
    | none => (under dotted change path (.table true dotted [])).map back
    | some (.value _) => none
    | some (.tables elements) =>
      match elements.reverse with
      | [] => none
      | last :: before =>
        (under dotted change path last).map fun child => back (.tables (before.reverse ++ [child]))
    | some (.table childImplicit childDotted children) =>
      if dotted && !childImplicit then none
      else (under dotted change path (.table childImplicit childDotted children)).map back
  | _ :: _, _ => none

/-- Adds a value under a key that may be dotted. The table that gets it must be the one at hand or
    one made by dotted keys, and must not have the key yet. -/
def addValue (path : List Text) (key : Text) (v : Value) : Item → Option Item :=
  under true (fun
    | .table implicit dotted entries =>
      if dotted == path.isEmpty || (entries.lookup key).isSome then none
      else some (.table implicit dotted (entries ++ [(key, .value v)]))
    | _ => none) path

/-- Begins the table of a header. -/
def openTable (path : List Text) (key : Text) : Item → Option Item :=
  under false (fun
    | .table implicit dotted entries =>
      match entries.lookup key with
      | none => some (.table implicit dotted (entries ++ [(key, emptyTable)]))
      | some (.table true false children) =>
        some (.table implicit dotted (Entries.put key (.table false false children) entries))
      | some _ => none
    | _ => none) path

/-- Begins the next table of a repeated header. -/
def openElement (path : List Text) (key : Text) : Item → Option Item :=
  under false (fun
    | .table implicit dotted entries =>
      match entries.lookup key with
      | none => some (.table implicit dotted (entries ++ [(key, .tables [emptyTable])]))
      | some (.tables elements) =>
        some (.table implicit dotted (Entries.put key (.tables (elements ++ [emptyTable])) entries))
      | some _ => none
    | _ => none) path

mutual

/-- The value that an item has come to. -/
def toValue : Item → Value
  | .value v => v
  | .table _ _ entries => .table (entriesToValues entries)
  | .tables elements => .array (elementsToValues elements)

/-- The values of entries. -/
def entriesToValues : List (Text × Item) → List (Text × Value)
  | [] => []
  | (key, item) :: rest => (key, item.toValue) :: entriesToValues rest

/-- The values of elements. -/
def elementsToValues : List Item → List Value
  | [] => []
  | item :: rest => item.toValue :: elementsToValues rest

end

end Item

end Console.Toml

import Console.Toml.Scalar

/-! Whole TOML documents. A text is a list of statements, one a line: headers of tables, headers of
    repeated tables, and keys with values. Applied in order to an empty table they give the tree of
    the document, and a statement that contradicts an earlier one makes the document malformed. -/

namespace Console.Toml

/-- A key, with the names of the tables that lead to it. -/
structure Key where
  path : List Text
  name : Text
  deriving DecidableEq

/-- The names in a key, and the brackets around a value, stay below this number. -/
def depthLimit : Nat := 80

/-! ### Lines -/

/-- The text behind a newline; the end of the text needs none. -/
def newlineOrEnd? : Text → Option Text
  | [] => some []
  | t => newline? t

/-- The text behind the end of a line, where spaces and a comment may stand. -/
def lineEnd? (t : Text) : Option Text :=
  match skipSpaces t with
  | '#' :: comment => newlineOrEnd? (comment.dropWhile isPlain)
  | t => newlineOrEnd? t

/-- Drops spaces, newlines and comments, as they may stand between the items of an array. -/
def skipTrivia (inComment : Bool) : Text → Option Text
  | [] => some []
  | '\n' :: rest => skipTrivia false rest
  | '\r' :: '\n' :: rest => skipTrivia false rest
  | c :: rest =>
    if inComment then (if isPlain c then skipTrivia true rest else none)
    else if c == ' ' || c == '\t' then skipTrivia false rest
    else if c == '#' then skipTrivia true rest
    else some (c :: rest)

/-! ### Keys -/

/-- The characters of a name that needs no quotes. -/
def isBare (c : Char) : Bool := c.isAlphanum || c == '_' || c == '-'

/-- A name, bare or in quotes. -/
def name : Scanner Text
  | '"' :: rest => basicBody rest
  | '\'' :: rest => literalBody rest
  | t =>
    if (t.takeWhile isBare).isEmpty then none else some (t.takeWhile isBare, t.dropWhile isBare)

/-- A key of at most so many names with points between them, and the spaces around each. -/
def keyOf : Nat → Scanner Key
  | 0, _ => none
  | count + 1, t => do
    let (n, t) ← name (skipSpaces t)
    match skipSpaces t with
    | '.' :: rest =>
      let (key, rest) ← keyOf count rest
      pure (⟨n :: key.path, key.name⟩, rest)
    | t => pure (⟨[], n⟩, t)

/-- A key. -/
def key : Scanner Key := keyOf (depthLimit - 1)

/-! ### Values -/

mutual

/-- A value with at most `depth` brackets around each other. Every step of `fuel` takes a character
    at least. -/
def valueOf : Nat → Nat → Scanner Value
  | 0, _, _ => none
  | _ + 1, 0, '[' :: _ => none
  | _ + 1, 0, '\x7b' :: _ => none
  | fuel + 1, depth + 1, '[' :: rest =>
    (itemsOf fuel depth rest).map fun (items, rest) => (.array items, rest)
  | fuel + 1, depth + 1, '\x7b' :: rest => do
    match skipSpaces rest with
    | '\x7d' :: rest => pure (.table [], rest)
    | rest =>
      let (item, rest) ← entriesOf fuel depth Item.emptyTable rest
      pure (item.toValue, rest)
  | _ + 1, _, t => scalar t

/-- The items of an array behind its opening bracket; a comma may stand behind the last. -/
def itemsOf : Nat → Nat → Scanner (List Value)
  | 0, _, _ => none
  | fuel + 1, depth, t => do
    match ← skipTrivia false t with
    | ']' :: rest => pure ([], rest)
    | t =>
      let (v, t) ← valueOf fuel depth t
      match ← skipTrivia false t with
      | ',' :: rest =>
        let (vs, rest) ← itemsOf fuel depth rest
        pure (v :: vs, rest)
      | ']' :: rest => pure ([v], rest)
      | _ => none

/-- The entries of a table in one line, added to the table so far. -/
def entriesOf : Nat → Nat → Item → Scanner Item
  | 0, _, _, _ => none
  | fuel + 1, depth, item, t => do
    let (k, t) ← key t
    let (v, t) ← valueOf fuel depth (skipSpaces (← mark '=' t))
    let item ← item.addValue k.path k.name v
    match skipSpaces t with
    | ',' :: rest => entriesOf fuel depth item rest
    | '\x7d' :: rest => pure (item, rest)
    | _ => none

end

/-- A value; no text has more brackets than characters. -/
def value (t : Text) : Option (Value × Text) := valueOf (t.length + 1) (depthLimit - 1) t

/-! ### Statements -/

/-- What a line of a document says. -/
inductive Statement where
  | header (key : Key)
  | element (key : Key)
  | pair (key : Key) (value : Value)

/-- Reads the statement that begins here, up to the end of its line. -/
def statement : Scanner Statement
  | '[' :: '[' :: rest => do
    let (k, t) ← key rest
    pure (.element k, ← lineEnd? (← mark ']' (← mark ']' t)))
  | '[' :: rest => do
    let (k, t) ← key rest
    pure (.header k, ← lineEnd? (← mark ']' t))
  | t => do
    let (k, t) ← key t
    let (v, t) ← value (skipSpaces (← mark '=' t))
    pure (.pair k v, ← lineEnd? t)

/-- The statements of a text of at most so many lines. -/
def statementsOf : Nat → Text → Option (List Statement)
  | 0, _ => none
  | lines + 1, t =>
    match skipSpaces t with
    | [] => some []
    | c :: rest =>
      if c == '#' || c == '\n' || c == '\r' then
        (lineEnd? (c :: rest)).bind (statementsOf lines)
      else do
        let (s, rest) ← statement (c :: rest)
        let others ← statementsOf lines rest
        pure (s :: others)

/-- The statements of a text, before which a byte order mark may stand. -/
def statements (t : Text) : Option (List Statement) :=
  let t := match t with
    | '\ufeff' :: rest => rest
    | t => t
  statementsOf (t.length + 1) t

/-- A document that grows: its tree, and the header under which values are added. -/
structure Growing where
  root : Item
  header : List Text

/-- Applies a statement. -/
def Growing.apply (g : Growing) : Statement → Option Growing
  | .header k => (g.root.openTable k.path k.name).map fun root => ⟨root, k.path ++ [k.name]⟩
  | .element k => (g.root.openElement k.path k.name).map fun root => ⟨root, k.path ++ [k.name]⟩
  | .pair k v =>
    (g.root.under false (Item.addValue k.path k.name v) g.header).map fun root =>
      { g with root := root }

/-- The tree that statements give. -/
def treeOf (l : List Statement) : Option Item :=
  (l.foldlM Growing.apply ⟨Item.emptyTable, []⟩).map Growing.root

/-- The value of a document, a table; a malformed text has none. -/
def parse? (t : Text) : Option Value := ((statements t).bind treeOf).map Item.toValue

end Console.Toml

import Console.Host.Tool.Awk.Value
import Std.Data.HashMap

/-! Tables of scripts over records. Their keys stand in chains, one for each bucket, in which a key
    that is used moves to the front. Integers have chains of their own until texts are asked for, so
    the order of the keys tells how they were used. -/

namespace Console.Host.Tool.Awk

/-- A key of a table. -/
inductive Key where
  | integer (n : Int)
  | text (t : Text)
  deriving DecidableEq, Repr

/-- The text of a key. -/
def Key.toText : Key → Text
  | .integer n => Text.ofInt n
  | .text t => t

/-- The key for a value. Numbers that are no integers become texts by a format. -/
def Key.ofValue (format : Text) (v : Value) : Key :=
  match v with
  | .number (.real x) =>
    if x.floor == x && x.abs < 2147483648 then
      .integer (if x < 0 then -((-x).toUInt64.toNat : Int) else x.toUInt64.toNat)
    else .text (v.toText format)
  | v => .text (v.toText format)

/-- The bucket of a text among many: its octets are mixed in turn with a product. -/
def hashOf (t : Text) : Nat :=
  (t.foldl (fun (h : UInt32) c => (h.xor (UInt32.ofNat c.toNat)) * 16777619) 2166136261).toNat

/-- A table. -/
structure Table where
  values : Std.HashMap Text Value
  /-- The chains of integers. -/
  integers : Array (List Int)
  /-- The chains of texts. -/
  texts : Array (List Text)
  /-- Whether all keys stand in chains of texts. -/
  isSpelled : Bool
  /-- Whether the keys are the numbers from one on and stand in no chains yet. -/
  isRow : Bool

namespace Table

/-- How many buckets there are at first. -/
def fewBuckets : Nat := 64

/-- How many keys there can be for each bucket. -/
def load : Nat := 12

/-- A table of so many buckets without keys. -/
def ofBuckets (n : Nat) : Table :=
  ⟨∅, Array.replicate n [], Array.replicate n [], false, false⟩

/-- The empty table. -/
def empty : Table := ofBuckets fewBuckets

/-- The table of values from number one on. -/
def ofList (l : List Value) : Table :=
  let (values, _) : Std.HashMap Text Value × Nat :=
    l.foldl (fun (m, n) v => (m.insert (Text.ofNat n) v, n + 1)) (∅, 1)
  { empty with values := values, isRow := !l.isEmpty }

/-- The number of keys. -/
def size (t : Table) : Nat := t.values.size

/-! ### Chains -/

/-- The bucket of a number. -/
def bucketOf (t : Table) (n : Int) : Nat := (Int.emod n t.integers.size).toNat

/-- The bucket of a text. -/
def bucketOfText (t : Table) (k : Text) : Nat := hashOf k % t.texts.size

/-- Puts an integer at the front of its chain. -/
def addInteger (t : Table) (n : Int) : Table :=
  { t with integers := t.integers.modify (t.bucketOf n) (n :: ·) }

/-- Puts a text at the front of its chain. -/
def addText (t : Table) (k : Text) : Table :=
  { t with texts := t.texts.modify (t.bucketOfText k) (k :: ·) }

/-- Doubles the buckets until there are enough for so many keys. Chains keep their order. -/
def grow (keys : Nat) : Nat → Table → Table
  | 0, t => t
  | fuel + 1, t =>
    if keys ≤ load * t.texts.size then t
    else
      let start : Table := { ofBuckets (2 * t.texts.size) with
        values := t.values, isSpelled := t.isSpelled, isRow := t.isRow }
      let t := t.integers.foldr (fun l u => l.foldr (fun n u => u.addInteger n) u)
        (t.texts.foldr (fun l u => l.foldr (fun k u => u.addText k) u) start)
      grow keys fuel t

/-- How often buckets double at most. -/
def mostDoublings : Nat := 64

/-- Gives a row of numbers its chains. -/
def chained (t : Table) : Table :=
  if t.isRow then
    let t := grow t.size mostDoublings { t with isRow := false }
    (List.range t.size).foldl (fun (t : Table) (n : Nat) => t.addInteger (n + 1)) t
  else t

/-- Puts all keys into chains of texts. -/
def spelled (t : Table) : Table :=
  let t := t.chained
  if t.isSpelled then t
  else
    let keys := t.integers.foldl (fun l chain => chain.foldl (fun l n => n :: l) l) []
    { keys.foldr (fun n t => t.addText (Text.ofInt n)) t with isSpelled := true }

/-- A chain with one of its elements moved to the front. -/
def toFront? {α : Type} [BEq α] (a : α) (l : List α) : Option (List α) :=
  match l with
  | [] => none
  | b :: rest =>
    if a == b then some l else if rest.elem a then some (a :: b :: rest.erase a) else none

/-! ### Uses of keys -/

/-- Makes room for another key. -/
def withRoom (t : Table) : Table := grow (t.size + 1) mostDoublings t

/-- Uses a text as a key. If there is no such key, it is made only on demand. -/
def useText (makes : Bool) (k : Text) (t : Table) : Table :=
  let t := t.spelled
  if t.values.contains k then
    { t with texts := t.texts.modify (t.bucketOfText k) fun l => (toFront? k l).getD l }
  else if makes then
    let t := t.withRoom.addText k
    { t with values := t.values.insert k .unset }
  else t

/-- Uses an integer as a key. -/
def useInteger (makes : Bool) (n : Int) (t : Table) : Table :=
  let k := Text.ofInt n
  let isThere := t.values.contains k
  if t.isRow && (isThere || !makes) then t
  else
    let t := t.chained
    match toFront? n (t.integers.getD (t.bucketOf n) []) with
    | some l => { t with integers := t.integers.setIfInBounds (t.bucketOf n) l }
    | none =>
      if t.isSpelled then
        let t := useText makes k t
        if isThere || makes then t.addInteger n else t
      else if makes then
        let t := t.withRoom.addInteger n
        { t with values := t.values.insert k .unset }
      else t

/-- Uses a key. -/
def use (makes : Bool) (k : Key) (t : Table) : Table :=
  match k with
  | .integer n => t.useInteger makes n
  | .text k => t.useText makes k

/-- The value of a key, which is made if it is not there. -/
def get (t : Table) (k : Key) : Value × Table :=
  let t := t.use true k
  (t.values.getD k.toText .unset, t)

/-- Sets the value of a key. -/
def set (t : Table) (k : Key) (v : Value) : Table :=
  let t := t.use true k
  { t with values := t.values.insert k.toText v }

/-- Whether there is a key. -/
def contains (t : Table) (k : Key) : Bool × Table := (t.values.contains k.toText, t.use false k)

/-- Removes a key. -/
def erase (t : Table) (k : Key) : Table :=
  let name := k.toText
  if !t.values.contains name then t.use false k
  else if t.size = 1 then empty
  else
    let t := (t.chained).use false k
    let t := { t with
      values := t.values.erase name
      texts := t.texts.modify (t.bucketOfText name) fun l => l.erase name }
    match Numeral.integer? 10 name with
    | some (n, []) => { t with integers := t.integers.modify (t.bucketOf n) fun l => l.erase n }
    | _ => t

/-- The keys in their order. -/
def keys (t : Table) : List Text × Table :=
  if t.size = 0 then ([], t)
  else
    let t := t.spelled
    (t.texts.toList.flatten, t)

end Table

end Console.Host.Tool.Awk

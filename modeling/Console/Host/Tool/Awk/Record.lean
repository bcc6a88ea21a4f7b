import Console.Host.Tool.Awk.Pattern
import Console.Host.Tool.Awk.Value

/-! Records and their fields. A record is taken apart only when its fields are asked for, and put
    together again when it is wanted as a whole after one of them has changed. -/

namespace Console.Host.Tool.Awk

/-- What stands between fields or records. -/
inductive Separator where
  | blanks
  /-- Nothing: fields are single characters, and records end at empty lines. -/
  | nothing
  | one (c : Char)
  | pattern (m : Regex.Matcher)

namespace Separator

/-- The separator of fields that a text means. -/
def ofFields (t : Text) : Except Pattern.Fault Separator :=
  match t with
  | [] => .ok .nothing
  | [' '] => .ok .blanks
  | [c] => .ok (.one c)
  | t => (Pattern.matcher t).map .pattern

/-- The separator of records that a text means. -/
def ofRecords (t : Text) : Except Pattern.Fault Separator :=
  match t with
  | [] => .ok .nothing
  | [c] => .ok (.one c)
  | t => (Pattern.matcher t).map .pattern

/-- The words of a text behind the beginning of one, which is given from its end. -/
def wordsFrom (done : Text) : Text → List Text
  | [] => if done.isEmpty then [] else [done.reverse]
  | c :: rest =>
    if !Numeral.isSpace c then wordsFrom (c :: done) rest
    else if done.isEmpty then wordsFrom [] rest
    else done.reverse :: wordsFrom [] rest

/-- The parts between the matches in a text that are not empty. The part that has begun is given
    from its end. -/
def partsFrom (m : Regex.Matcher) : Nat → Text → Option Char → Text → List Text
  | 0, done, _, t => [done.reverse ++ t]
  | fuel + 1, done, before, t =>
    match m.find? before t with
    | none => [done.reverse ++ t]
    | some f =>
      let front := t.take f.start
      if f.start = f.stop then
        match t.drop f.start with
        | [] => [done.reverse ++ t]
        | c :: rest => partsFrom m fuel (c :: front.reverse ++ done) (some c) rest
      else (done.reverse ++ front) :: partsFrom m fuel [] (t.take f.stop).getLast? (t.drop f.stop)

/-- The fields of a text. -/
def fields (s : Separator) (t : Text) : List Text :=
  if t.isEmpty then []
  else
    match s with
    | .blanks => wordsFrom [] t
    | .nothing => t.map fun c => [c]
    | .one c => Text.splitOn c t
    | .pattern m => partsFrom m (t.length + 1) [] none t

/-- The lines up to the next empty one, of which some characters are given from their end. -/
def paragraph (isAll : Bool) (done : Text) : Text → Option (Text × Text)
  | '\n' :: '\n' :: rest => some (done.reverse, rest)
  | ['\n'] => if isAll then some (done.reverse, []) else none
  | [] => if isAll && !done.isEmpty then some (done.reverse, []) else none
  | c :: rest => paragraph isAll (c :: done) rest

/-- The first record in a text and what follows it. Unless all of the text is there, a record has to
    end before the text does. -/
def record? (s : Separator) (isAll : Bool) (t : Text) : Option (Text × Text) :=
  let last : Option (Text × Text) := if isAll && !t.isEmpty then some (t, []) else none
  match s with
  | .blanks | .nothing =>
    match t.dropWhile (· == '\n') with
    | [] => none
    | t => paragraph isAll [] t
  | .one c =>
    let front := t.takeWhile (· != c)
    match t.drop front.length with
    | _ :: rest => some (front, rest)
    | [] => last
  | .pattern m =>
    match m.find? none t with
    | none => last
    | some f =>
      let isSure := isAll || f.stop < t.length
      if !isSure then none
      else if f.start = f.stop then last
      else some (t.take f.start, t.drop f.stop)

end Separator

/-- A record. -/
structure Record where
  whole : Value
  /-- Whether it is as a whole what its fields say. -/
  isWhole : Bool
  fields : Array Value
  /-- Whether it has been taken apart. -/
  isSplit : Bool

namespace Record

/-- A record that is a value. -/
def ofValue (v : Value) : Record := ⟨v, true, #[], false⟩

/-- A record that is taken apart. -/
def split (s : Separator) (format : Text) (r : Record) : Record :=
  if r.isSplit then r
  else
    let t := r.whole.toText format
    { r with fields := ((s.fields t).map Value.input).toArray, isSplit := true }

/-- A record that is put together. A single field is the record as it is. -/
def join (joint format : Text) (r : Record) : Record :=
  if r.isWhole then r
  else
    let whole : Value := match r.fields.toList with
      | [v] => v
      | l => .text (Text.join joint (l.map (Value.toText format)))
    { r with whole := whole, isWhole := true }

/-- A record that is taken apart with another number of fields. -/
def resize (n : Nat) (r : Record) : Record :=
  let fields := if n ≤ r.fields.size then r.fields.take n
    else r.fields ++ Array.replicate (n - r.fields.size) (.text [])
  { r with fields := fields, isWhole := false }

/-- A record that is taken apart with another field, counted from one. -/
def setField (n : Nat) (v : Value) (r : Record) : Record :=
  let r := if n > r.fields.size then r.resize n else r
  { r with fields := r.fields.setIfInBounds (n - 1) v, isWhole := false }

end Record

end Console.Host.Tool.Awk

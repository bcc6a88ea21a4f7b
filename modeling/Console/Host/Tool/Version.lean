import Console.Text.Basic

/-! Orders of texts: by their characters, and as the names of versions, in which numbers count as
    such and what looks like the ending of a file name counts last. -/

namespace Console.Host.Tool

/-- The order of two texts by their characters. -/
def compareText : Text → Text → Ordering
  | [], [] => .eq
  | [], _ => .lt
  | _, [] => .gt
  | a :: s, b :: t => (compare a.toNat b.toNat).then (compareText s t)

/-- The order of what stands between numbers: a tilde before the end, letters before other signs. -/
def versionRank (c : Option Char) : Int :=
  match c with
  | none => -1
  | some c =>
    if c.isDigit then 0
    else if c.isAlpha then c.toNat
    else if c = '~' then -2
    else c.toNat + 256

/-- The order of the two starts that hold no digits, and what follows them. -/
def compareSigns : Nat → Text → Text → Ordering × Text × Text
  | 0, s, t => (.eq, s, t)
  | fuel + 1, s, t =>
    let isSign (u : Text) : Bool := u.head?.any fun c => !c.isDigit
    if isSign s || isSign t then
      match compare (versionRank s.head?) (versionRank t.head?) with
      | .eq => compareSigns fuel (s.drop 1) (t.drop 1)
      | o => (o, s, t)
    else (.eq, s, t)

/-- The order of two texts in which numbers count as such. -/
def compareVersions : Nat → Text → Text → Ordering
  | 0, _, _ => .eq
  | fuel + 1, s, t =>
    if s.isEmpty && t.isEmpty then .eq
    else
      match compareSigns (s.length + t.length) s t with
      | (.eq, s, t) =>
        let number (u : Text) : Text × Text :=
          let u := u.dropWhile (· == '0')
          let digits := u.takeWhile Char.isDigit
          (digits, u.drop digits.length)
        let (m, s) := number s
        let (n, t) := number t
        ((compare m.length n.length).then (compareText m n)).then (compareVersions fuel s t)
      | (o, _, _) => o

/-- Whether a text is a row of endings: points with a letter and letters or digits behind it. -/
def isEndings : Nat → Text → Bool
  | 0, _ => false
  | _ + 1, [] => true
  | fuel + 1, '.' :: c :: rest =>
    (c.isAlpha || c == '~') && isEndings fuel (rest.dropWhile fun c => c.isAlphanum || c == '~')
  | _ + 1, _ => false

/-- A name without its endings. -/
def withoutEndings (t : Text) : Text :=
  let starts := (List.range (t.length + 1)).filter fun n => n > 0 || t.isEmpty
  match starts.find? fun n => isEndings (t.length + 1) (t.drop n) with
  | some n => t.take n
  | none => t

/-- The order of two names as names of versions. -/
def compareNames (s t : Text) : Ordering :=
  let special (u : Text) : Nat :=
    if u.isEmpty then 0 else if u = ['.'] then 1 else if u = ['.', '.'] then 2
    else if u.head? = some '.' then 3 else 4
  let full (s t : Text) : Ordering := compareVersions (s.length + t.length + 1) s t
  if s = t then .eq
  else if special s != special t then compare (special s) (special t)
  else
    let s := if special s = 3 then s.drop 1 else s
    let t := if special t = 3 then t.drop 1 else t
    let a := withoutEndings s
    let b := withoutEndings t
    if a.length = s.length && b.length = t.length then full s t
    else (full a b).then (full s t)

end Console.Host.Tool

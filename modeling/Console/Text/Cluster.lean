import Console.Text.Joining
import Console.Text.Lowercase
import Console.Text.Utf8

/-! Clusters: the runs of characters that a reader takes for one. A text is cut into them from the
    left, and a backspace in a line takes back the cluster before it. -/

namespace Console.Text

/-- What a character is to its neighbours. -/
inductive Joint where
  | carriageReturn
  | lineFeed
  | control
  | extending
  | joiner
  | flag
  | prepended
  | spacing
  | leading
  | vowel
  | trailing
  /-- A whole syllable of Hangul, without or with a trailing consonant. -/
  | syllable (closed : Bool)
  | other
  deriving DecidableEq, Repr

/-- The joint of a character. -/
def jointOf (c : Char) : Joint :=
  let n := c.toNat
  let isIn (ranges : List (Nat × Nat)) : Bool := inRanges ranges n
  if c = '\r' then .carriageReturn
  else if c = '\n' then .lineFeed
  else if 0x20 ≤ n && n < 0x7F then .other
  else if isIn controlRanges then .control
  else if n < 0x300 then .other
  else if isIn extendingRanges then .extending
  else if n = 0x200D then .joiner
  else if 0x1F1E6 ≤ n && n ≤ 0x1F1FF then .flag
  else if isIn prependedRanges then .prepended
  else if isIn spacingRanges then .spacing
  else if isIn leadingRanges then .leading
  else if isIn vowelRanges then .vowel
  else if isIn trailingRanges then .trailing
  else if 0xAC00 ≤ n && n ≤ 0xD7A3 then .syllable ((n - 0xAC00) % 28 != 0)
  else .other

/-- What a cluster that is not yet complete ends with. -/
structure ClusterEnd where
  joint : Joint
  /-- Whether the number of flags at the end is odd. -/
  oddFlags : Bool
  /-- A pictograph stands before marks, and whether a joiner follows them. -/
  pictograph : Option Bool
  /-- A consonant stands before marks, and whether a linker is among them. -/
  conjunct : Option Bool
  deriving DecidableEq, Repr

/-- Whether a code point is a pictograph. -/
def isPictograph (c : Char) : Bool := c.toNat ≥ 0xA9 && inRanges pictographRanges c.toNat

/-- Whether a code point is a consonant of a conjunct. -/
def isConjunct (c : Char) : Bool := c.toNat ≥ 0x900 && inRanges conjunctRanges c.toNat

/-- The end of a cluster to which a character has been added. -/
def ClusterEnd.after (before : Option ClusterEnd) (c : Char) : ClusterEnd where
  joint := jointOf c
  oddFlags := jointOf c = .flag && !(before.any (·.oddFlags))
  pictograph :=
    if isPictograph c then some false
    else
      match before.bind (·.pictograph), jointOf c with
      | some false, .extending => some false
      | some false, .joiner => some true
      | _, _ => none
  conjunct :=
    if isConjunct c then some false
    else
      match before.bind (·.conjunct) with
      | none => none
      | some linked =>
        if inRanges linkerRanges c.toNat then some true
        else if (jointOf c = .extending || jointOf c = .joiner) && c.toNat != 0x200C then
          some linked
        else none

/-- Whether a character belongs to the cluster before it. -/
def ClusterEnd.joins (e : ClusterEnd) (c : Char) : Bool :=
  match e.joint, jointOf c with
  | .carriageReturn, .lineFeed => true
  | .carriageReturn, _ | .lineFeed, _ | .control, _ => false
  | _, .carriageReturn | _, .lineFeed | _, .control => false
  | _, .extending | _, .joiner | _, .spacing | .prepended, _ => true
  | .leading, .leading | .leading, .vowel | .leading, .syllable _ => true
  | .vowel, .vowel | .syllable false, .vowel => true
  | .vowel, .trailing | .syllable _, .trailing | .trailing, .trailing => true
  | .flag, .flag => e.oddFlags
  | _, _ =>
    (isPictograph c && e.pictograph == some true) || (isConjunct c && e.conjunct == some true)

/-- Cuts a text behind a cluster that is given from its end. -/
def clustersAfter : Text → ClusterEnd → Text → List Text
  | cluster, _, [] => [cluster.reverse]
  | cluster, e, c :: rest =>
    if e.joins c then clustersAfter (c :: cluster) (.after (some e) c) rest
    else cluster.reverse :: clustersAfter [c] (.after none c) rest

/-- The clusters of a text. -/
def clusters : Text → List Text
  | [] => []
  | c :: rest => clustersAfter [c] (.after none c) rest

/-! ### Backspaces -/

/-- A line that is typed: its bytes from the end, and the sizes of what can be taken back. A size
    is kept in one byte. -/
structure Typed where
  reversed : List UInt8
  sizes : List Nat

/-- Types one cluster. -/
def Typed.key (t : Typed) (cluster : Text) : Typed :=
  if cluster = ['\x08'] then
    match t.sizes with
    | [] => t
    | n :: sizes => ⟨t.reversed.drop n, sizes⟩
  else
    ⟨(toUtf8 cluster).toList.reverse ++ t.reversed, cluster.byteCount % 256 :: t.sizes⟩

/-- The text of a line in which every backspace takes back the cluster before it. -/
def withoutBackspaces (t : Text) : Text :=
  if '\x08' ∈ t then
    ofBytes ⟨((clusters t).foldl Typed.key ⟨[], []⟩).reversed.reverse.toArray⟩
  else t

end Console.Text

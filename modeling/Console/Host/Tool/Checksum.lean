import Console.Host.Tool.Digest
import Console.Host.Tool.Work

/-! Sums and digests of files, and lists of digests with which files are compared. -/

namespace Console.Host.Tool

open Work

namespace Checksum

/-- A way to digest files, by the name that stands in lists. -/
structure Kind where
  tag : String
  /-- The size of the digest in octets. -/
  size : Nat
  digest : List Nat → List Nat

/-- The way of a scheme. -/
def ofScheme (tag : String) (s : Digest.Scheme) : Kind := ⟨tag, s.size, s.digest⟩

/-- The digits of octets. -/
def hex (l : List Nat) : Text := l.flatMap fun n => [Nat.digitChar (n / 16), Nat.digitChar (n % 16)]

/-- The octets of a file as numbers, or what goes wrong with it. -/
def octetsOf (file : Text) : Work (Except Text (List Nat)) := do
  pure ((← contents file).map fun t => t.map Char.toNat)

/-! ### Names -/

/-- Whether a name must be written in another way in a line. -/
def isAwkward (name : Text) : Bool := name.any fun c => ['\\', '\n', '\r'].elem c

/-- A name in a line. -/
def written (name : Text) : Text :=
  name.flatMap fun c =>
    match c with
    | '\\' => ['\\', '\\']
    | '\n' => ['\\', 'n']
    | '\r' => ['\\', 'r']
    | c => [c]

/-- The name that is written in a line. -/
def read? : Text → Option Text
  | [] => some []
  | '\\' :: c :: rest =>
    match c with
    | '\\' => (read? rest).map ('\\' :: ·)
    | 'n' => (read? rest).map ('\n' :: ·)
    | 'r' => (read? rest).map ('\r' :: ·)
    | _ => none
  | c :: rest => if c = '\\' then none else (read? rest).map (c :: ·)

/-- A name in a line, with a sign in front of the line if the name is written in another way. -/
def signed (name : Text) (line : Text → Text) : Text :=
  if isAwkward name then '\\' :: line (written name) else line name

/-! ### Lists -/

/-- How the digests of files are listed. -/
structure Style where
  isTagged : Bool
  isBinary : Bool
  ending : Char

/-- The line for a file. -/
def Style.line (s : Style) (k : Kind) (name : Text) (digest : List Nat) : Text :=
  let line (name : Text) : Text :=
    if s.isTagged then k.tag.toList ++ " (".toList ++ name ++ ") = ".toList ++ hex digest
    else hex digest ++ ' ' :: (if s.isBinary then '*' else ' ') :: name
  (if s.ending = '\n' then signed name line else line name) ++ [s.ending]

/-- Lists the digests of files. -/
def list (s : Style) (k : Kind) (files : List Text) : Work Unit :=
  files.forM fun file => do
    match ← octetsOf file with
    | .ok l => say (s.line k file (k.digest l))
    | .error e => complain 1 (faultOf file e)

/-! ### Comparisons -/

/-- How files are compared with a list. -/
structure Check where
  ignoresMissing : Bool
  isQuiet : Bool
  /-- Whether only the status counts. -/
  isSilent : Bool
  isStrict : Bool
  warns : Bool

/-- An entry of a list. -/
structure Entry where
  digest : Text
  name : Text

/-- Whether the blanks between name and digest are one or two. -/
abbrev Spacing := Option Bool

/-- Whether a character is a digit of base 16. -/
def isHex (c : Char) : Bool := Numeral.isDigit 16 c

/-- Whether a character is a blank in a line. -/
def isGap (c : Char) : Bool := c == ' ' || c == '\t'

/-- Whether a digest of a way has so many digits. -/
def Kind.hasDigits (k : Kind) (digits : Nat) : Bool := digits = 2 * k.size

/-- An entry behind the name of a way: a name in parentheses and a digest. -/
def taggedEntry (k : Kind) (isSigned : Bool) (t : Text) : Option Entry := do
  let t := if t.head? == some ' ' then t.drop 1 else t
  if t.head? != some '(' then none
  else
    let behind := t.reverse.takeWhile (· != ')')
    if behind.length = t.length then none
    else
      let name := (t.drop 1).take (t.length - behind.length - 2)
      let rest := behind.reverse.dropWhile isGap
      if rest.head? != some '=' then none
      else
        let digest := (rest.drop 1).dropWhile isGap
        if !k.hasDigits digest.length || !digest.all isHex then none
        else
          let name ← if isSigned then read? name else some name
          some ⟨digest, name⟩

/-- An entry that begins with the digest. -/
def plainEntry (k : Kind) (isSigned : Bool) (spacing : Spacing) (t : Text) :
    Option (Entry × Spacing) := do
  let digits := t.takeWhile isHex
  if !k.hasDigits digits.length then none
  match t.drop digits.length with
  | c :: rest =>
    if !isGap c || rest.isEmpty then none
    else
      let isClose := rest.length = 1 || !(rest.head? == some ' ' || rest.head? == some '*')
      if isClose && spacing == some false then none
      else
        let spacing := if isClose then some true else if spacing == some true then spacing
          else some false
        let name := if spacing == some true then rest else rest.drop 1
        let name ← if isSigned then read? name else some name
        some (⟨digits, name⟩, spacing)
  | [] => none

/-- The entry of a line. -/
def entryOf (k : Kind) (spacing : Spacing) (line : Text) : Option (Entry × Spacing) :=
  let t := line.dropWhile isGap
  let isSigned := t.head? == some '\\'
  let t := if isSigned then t.drop 1 else t
  if k.tag.toList.isPrefixOf t then
    (taggedEntry k isSigned (t.drop k.tag.length)).map fun e => (e, spacing)
  else plainEntry k isSigned spacing t

/-- What has come of the lines of a list so far. -/
structure Tally where
  number : Nat
  good : Nat
  bad : Nat
  unread : Nat
  mismatched : Nat
  matched : Nat
  spacing : Spacing

/-- Compares a file with its entry. -/
def compareEntry (c : Check) (k : Kind) (n : Tally) (e : Entry) : Work Tally := do
  let report (t : String) : Work Unit :=
    sayLine (signed e.name (fun name => name) ++ ": ".toList ++ t.toList)
  let isMissing ← step (Prog.see fun w =>
    e.name != ['-'] && (w.files.find? w.self.directory e.name).isNone)
  if c.ignoresMissing && isMissing then pure n
  else
    match ← octetsOf e.name with
    | .error wording =>
      complain 1 (faultOf e.name wording)
      if !c.isSilent then report "FAILED open or read"
      pure { n with unread := n.unread + 1 }
    | .ok l =>
      if hex (k.digest l) == e.digest.map Char.toLower then
        if !c.isSilent && !c.isQuiet then report "OK"
        pure { n with matched := n.matched + 1 }
      else
        if !c.isSilent then report "FAILED"
        pure { n with mismatched := n.mismatched + 1 }

/-- Compares files with the entry of a line. -/
def compareLine (c : Check) (k : Kind) (file : Text) (n : Tally) (line : Text) :
    Work Tally := do
  let n := { n with number := n.number + 1 }
  let line := if line.getLast? == some '\r' then line.dropLast else line
  if line.isEmpty || line.head? == some '#' then pure n
  else
    match entryOf k n.spacing line with
    | some (e, spacing) =>
      if file == ['-'] && e.name == ['-'] then pure { n with bad := n.bad + 1 }
      else compareEntry c k { n with good := n.good + 1, spacing := spacing } e
    | none =>
      if c.warns then
        let name := if file == ['-'] then "standard input".toList else file
        complain 0 (shown name ++ ": ".toList ++ Text.ofNat n.number ++
          ": improperly formatted ".toList ++ k.tag.toList ++
          " checksum line".toList)
      pure { n with bad := n.bad + 1 }

/-- Warns of a number of things, if there are any. -/
def warn (n : Nat) (one many : String) : Work Unit :=
  if n = 0 then pure ()
  else
    let wording := if n = 1 then one else many
    complain 0 ("WARNING: ".toList ++ Text.ofNat n ++ ' ' :: wording.toList)

/-- Compares files with a list. -/
def compareList (c : Check) (k : Kind) (file : Text) : Work Unit := do
  let name := if file == ['-'] then "standard input".toList else file
  match ← contents file with
  | .error e => complain 1 (faultOf name e)
  | .ok t =>
    let n ← (linesOf t).foldlM (compareLine c k file) ⟨0, 0, 0, 0, 0, 0, none⟩
    if n.good = 0 then
      complain 1 (faultOf name "no properly formatted checksum lines found".toList)
    else
      if !c.isSilent then
        warn n.bad "line is improperly formatted" "lines are improperly formatted"
        warn n.unread "listed file could not be read" "listed files could not be read"
        warn n.mismatched "computed checksum did NOT match" "computed checksums did NOT match"
        if c.ignoresMissing && n.matched = 0 then
          complain 1 (faultOf name "no file was verified".toList)
      if n.matched = 0 || n.mismatched > 0 || n.unread > 0 || c.isStrict && n.bad > 0 then
        atLeast 1

/-! ### Options -/

/-- The options that all the tools have. -/
def switches : List Switch :=
  [flag 'b' "binary", flag 'c' "check", named "ignore-missing" .nothing, named "quiet" .nothing,
    named "status" .nothing, flag 't' "text", flag 'w' "warn", flag 'z' "zero",
    named "strict" .nothing, named "tag" .nothing]

/-- Refuses options that do not fit together. -/
def refuseMixtures (g : Given) : Work Unit := do
  let checks := g.has "check"
  let without : List (String × String) :=
    [("ignore-missing", "ignore-missing"), ("status", "status"), ("warn", "warn"),
      ("quiet", "quiet"), ("strict", "strict")]
  if g.has "tag" && g.lastOf? ["binary", "text"] == some "text" then
    misuse "--tag does not support --text mode".toList
  if checks && g.has "zero" then
    misuse "the --zero option is not supported when verifying checksums".toList
  if checks && g.has "tag" then
    misuse "the --tag option is meaningless when verifying checksums".toList
  if checks && (g.has "binary" || g.has "text") then
    misuse "the --binary and --text options are meaningless when verifying checksums".toList
  if !checks then
    without.forM fun (key, name) =>
      if g.has key then
        misuse ("the --".toList ++ name.toList ++
          " option is meaningful only when verifying checksums".toList)
      else pure ()

/-- How files are compared. -/
def checkOf (g : Given) : Check :=
  ⟨g.has "ignore-missing", g.lastOf? ["quiet", "status", "warn"] == some "quiet",
    g.lastOf? ["quiet", "status", "warn"] == some "status", g.has "strict",
    g.lastOf? ["quiet", "status", "warn"] == some "warn"⟩

/-- The character that ends lines. -/
def endingOf (g : Given) : Char := if g.has "zero" then '\x00' else '\n'

/-- A tool for one way to digest. -/
def toolFor (k : Kind) : Program :=
  toolOf usualManner switches fun g => do
    refuseMixtures g
    let files := filesOf g
    if g.has "check" then files.forM (compareList (checkOf g) k)
    else
      let isBinary := g.lastOf? ["binary", "text"] == some "binary"
      list ⟨g.has "tag", isBinary, endingOf g⟩ k files

end Checksum

/-- Digests of 128 bits. -/
def md5sum : Program := Checksum.toolFor (Checksum.ofScheme "MD5" Digest.md5)

/-- Digests of 160 bits. -/
def sha1sum : Program := Checksum.toolFor (Checksum.ofScheme "SHA1" Digest.sha1)

/-- Digests of 256 bits. -/
def sha256sum : Program := Checksum.toolFor (Checksum.ofScheme "SHA256" Digest.sha256)

/-- Digests of 512 bits. -/
def sha512sum : Program := Checksum.toolFor (Checksum.ofScheme "SHA512" Digest.sha512)

/-- Sums of 32 bits, with the lengths of the files. -/
def cksum : Program :=
  toolOf usualManner [] fun g =>
    (filesOf g).forM fun file => do
      match ← Checksum.octetsOf file with
      | .ok l =>
        let name := if g.operands.isEmpty then [] else ' ' :: file
        sayLine (Text.ofNat (Digest.crc l) ++ ' ' :: Text.ofNat l.length ++ name)
      | .error e => complain 1 (faultOf file e)

end Console.Host.Tool

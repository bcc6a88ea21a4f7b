import Console.Host.Tool.Difference.Files

/-! The options of comparisons, and the tools that compare: line by line, and octet by octet. -/

namespace Console.Host.Tool

open Work

/-- Ends the tool with a hint at its help, in a line of its own. -/
def askForHelp {α : Type} (t : Option Text) : Work α := do
  t.forM mutter
  mutter ("Try '".toList ++ (← name) ++ " --help' for more information.".toList)
  step (Prog.exit (← get).manner.failure)

/-- Refuses arguments because there are too few. -/
def missOperand {α : Type} (arguments : List Text) : Work α := do
  let last := (arguments.getLast?).getD (← name)
  askForHelp (some ("missing operand after ".toList ++ quoted last))

/-- A tool whose wrong uses are answered in such a way. -/
def helpfulToolOf (failure : Nat) (switches : List Switch) (work : List Text → Given → Work Unit) :
    Program :=
  tool (mannerOf failure) fun arguments => do
    match (Grammar.usual switches).read arguments with
    | .error e => askForHelp (some e)
    | .ok g => work arguments g

namespace Difference

/-- The options. -/
def switches : List Switch :=
  flags "0123456789" ++
  [flag 'a' "text", flag 'b' "ignore-space-change", flag 'B' "ignore-blank-lines",
    flag 'c' "", valued 'C' "", named "context" .maybe, flag 'd' "minimal", valued 'D' "ifdef",
    flag 'e' "ed", flag 'E' "ignore-tab-expansion", flag 'f' "forward-ed",
    valued 'F' "show-function-line", flag 'H' "speed-large-files", flag 'i' "ignore-case",
    valued 'I' "ignore-matching-lines", flag 'l' "paginate", valued 'L' "label", flag 'n' "rcs",
    flag 'N' "new-file", flag 'p' "show-c-function", flag 'P' "unidirectional-new-file",
    flag 'q' "brief", flag 'r' "recursive", flag 's' "report-identical-files",
    valued 'S' "starting-file", flag 't' "expand-tabs", flag 'T' "initial-tab", flag 'u' "",
    valued 'U' "", named "unified" .maybe, flag 'v' "version", flag 'w' "ignore-all-space",
    valued 'W' "width", valued 'x' "exclude", valued 'X' "exclude-from", flag 'y' "side-by-side",
    flag 'Z' "ignore-trailing-space", named "binary" .nothing, named "color" .maybe,
    named "from-file" .value, named "to-file" .value, named "horizon-lines" .value,
    named "ignore-file-name-case" .nothing, named "no-ignore-file-name-case" .nothing,
    named "left-column" .nothing, named "no-dereference" .nothing, named "normal" .nothing,
    named "strip-trailing-cr" .nothing, named "suppress-blank-empty" .nothing,
    named "suppress-common-lines" .nothing, named "tabsize" .value, named "palette" .value,
    named "line-format" .value, named "old-line-format" .value, named "new-line-format" .value,
    named "unchanged-line-format" .value, named "old-group-format" .value,
    named "new-group-format" .value, named "unchanged-group-format" .value,
    named "changed-group-format" .value]

/-- A number that an option has, which must be positive if that is asked for. -/
def numberOf (what : String) (isPositive : Bool) (t : Text) : Work Nat :=
  match Text.toNat? t with
  | some n =>
    if isPositive && n = 0 then askForHelp (some (what.toList ++ ' ' :: quoted t)) else pure n
  | none => askForHelp (some (what.toList ++ ' ' :: quoted t))

/-- The matcher of an expression. -/
def matcherOf (t : Text) : Work Regex.Matcher :=
  match Regex.compile Regex.Dialect.basic false t with
  | .ok m => pure m
  | .error e =>
    let message := if t.getLast? == some '[' then "Invalid regular expression" else e.message
    giveUp (t ++ ": ".toList ++ message.toList)

/-- The templates that options give. A line has a newline in any case, and without a template of its
    own a group is shown as one that changes. -/
def templatesOf (g : Given) : Option Templates :=
  let names := ["ifdef", "line-format", "old-line-format", "new-line-format",
    "unchanged-line-format", "old-group-format", "new-group-format", "unchanged-group-format",
    "changed-group-format"]
  if !names.any g.has then none
  else
    let line (key : String) : Text :=
      ((g.last? key).orElse fun _ => g.last? "line-format").getD "%l\n".toList
    let condition (words : List String) : Option Text :=
      (g.last? "ifdef").map fun t => Text.join t (words.map String.toList)
    let group (key : String) (words : List String) : Option Text :=
      (g.last? key).orElse fun _ => condition words
    let changed := group "changed-group-format"
      ["#ifndef ", "\n%<#else /* ", " */\n%>#endif /* ", " */\n"]
    let old := (group "old-group-format" ["#ifndef ", "\n%<#endif /* ! ", " */\n"]).getD
      (changed.getD ['%', '<'])
    let new := (group "new-group-format" ["#ifdef ", "\n%>#endif /* ", " */\n"]).getD
      (changed.getD ['%', '>'])
    some ⟨line "unchanged-line-format", line "old-line-format", line "new-line-format",
      (g.last? "unchanged-group-format").getD ['%', '='], old, new, changed.getD (old ++ new)⟩

/-- The form that an option stands for. -/
def formOf (m : Option Templates) (key : String) : Option Form :=
  match key with
  | "c" | "C" | "context" => some .context
  | "u" | "U" | "unified" => some .unified
  | "ed" => some .backward
  | "forward-ed" => some .forward
  | "rcs" => some .revision
  | "side-by-side" => some .beside
  | "normal" => some .normal
  | _ => if key == "ifdef" || key.endsWith "-format" then m.map .merged else none

/-- A number for forms, by which they are told apart. -/
def Form.number : Form → Nat
  | .normal => 0
  | .context => 1
  | .unified => 2
  | .backward => 3
  | .forward => 4
  | .revision => 5
  | .beside => 6
  | .merged _ => 7

/-- The form that options ask for. -/
def formIn (g : Given) : Work Form := do
  let m := templatesOf g
  let forms := g.options.filterMap fun (key, _) => formOf m key
  match forms with
  | [] => pure (if g.has "show-c-function" then .context else .normal)
  | f :: rest =>
    if rest.all fun h => h.number = f.number then pure f
    else askForHelp (some "conflicting output style options".toList)

/-- The number that digits among the options make. -/
def digitsIn : Option Nat → Bool → List (String × Text) → Option Nat
  | n, _, [] => n
  | n, isBehind, (key, _) :: rest =>
    match key.toList with
    | [c] =>
      if c.isDigit then
        let before := if isBehind then n.getD 0 else 0
        digitsIn (some (before * 10 + (c.toNat - '0'.toNat))) true rest
      else digitsIn n false rest
    | _ => digitsIn n false rest

/-- How many lines stand around changes. -/
def aroundIn (g : Given) (form : Form) : Work Nat := do
  let given ← g.options.filterMapM fun (key, t) => do
    match key with
    | "c" | "u" => pure (some (3, false))
    | "C" | "U" => do pure (some (← numberOf "invalid context length" false t, true))
    | "context" | "unified" =>
      if t.isEmpty then pure (some (3, true))
      else do pure (some (← numberOf "invalid context length" false t, true))
    | _ => pure none
  let usual := if given.isEmpty then 3 else given.foldl (fun n (m, _) => max n m) 0
  let isExplicit := given.any Prod.snd
  match form, digitsIn none false g.options with
  | .context, some n | .unified, some n =>
    pure (if usual < n || !isExplicit then n else usual)
  | _, _ => pure usual

/-- Whether there are colors. -/
def colorsIn (g : Given) : Work Bool :=
  match (g.last? "color").map String.ofList with
  | none | some "" | some "auto" | some "never" => pure false
  | some "always" => pure true
  | some t => askForHelp (some ("invalid color ".toList ++ quoted t.toList))

/-- How changes are shown. -/
def lookIn (g : Given) : Work Look := do
  let form ← formIn g
  let around ← aroundIn g form
  let tabSize ← match g.last? "tabsize" with
    | none => pure 8
    | some t => numberOf "invalid tabsize" true t
  let width ← match g.last? "width" with
    | none => pure 130
    | some t => numberOf "invalid width" true t
  let landmark ← match g.last? "show-function-line" with
    | some t => do pure (some (← matcherOf t))
    | none =>
      if g.has "show-c-function" then do
        pure (some (← matcherOf "^[[:alpha:]$_]".toList))
      else pure none
  pure {
    form, around, tabSize, width, landmark
    expandsTabs := g.has "expand-tabs"
    startsWithTab := g.has "initial-tab"
    barely := g.has "suppress-blank-empty"
    hidesSame := g.has "suppress-common-lines"
    leftOnly := g.has "left-column"
    isColored := ← colorsIn g }

/-- The arguments without the operands, which are looked for from the end on. -/
def optionWords (arguments operands : List Text) : List Text :=
  let (kept, _) := arguments.reverse.foldl (fun ((kept, left) : List Text × List Text) t =>
    match left with
    | o :: rest => if o = t then (kept, rest) else (t :: kept, left)
    | [] => (t :: kept, [])) ([], operands.reverse)
  kept

/-- What does not count. -/
def ignoringIn (g : Given) : Work Ignoring := do
  let lines ← (g.all "ignore-matching-lines").mapM matcherOf
  pure {
    case := g.has "ignore-case"
    blanks := ⟨g.has "ignore-tab-expansion", g.has "ignore-trailing-space",
      g.has "ignore-space-change", g.has "ignore-all-space"⟩
    emptyLines := g.has "ignore-blank-lines"
    lines }

/-- The patterns of names that are left out. -/
def excludedIn (g : Given) : Work (List Host.Pattern) := do
  let fromFiles ← (g.all "exclude-from").mapM fun file => do
    match ← contents file with
    | .ok t => pure (linesOf t)
    | .error e => giveUp (file ++ ": ".toList ++ e)
  pure ((g.all "exclude" ++ fromFiles.flatten).map Host.Pattern.ofEscaped)

/-- The comparison that options ask for. -/
def settingsIn (arguments : List Text) (g : Given) : Work Settings := do
  let look ← lookIn g
  let horizon ← match g.last? "horizon-lines" with
    | none => pure 0
    | some t => numberOf "invalid horizon length" false t
  let isWide := match look.form with
    | .context | .unified => true
    | _ => false
  let labels := g.all "label"
  if labels.length > 2 then giveUp "too many file label options".toList
  pure {
    look, labels
    ignoring := ← ignoringIn g
    isBrief := g.has "brief"
    tellsSame := g.has "report-identical-files"
    isRecursive := g.has "recursive"
    fillsFirst := g.has "new-file" || g.has "unidirectional-new-file"
    fillsSecond := g.has "new-file"
    followsLinks := !g.has "no-dereference"
    isThorough := g.has "minimal"
    isText := g.has "text"
    dropsReturns := g.has "strip-trailing-cr"
    horizon := if isWide then max horizon look.around else horizon
    excluded := ← excludedIn g
    startsAt := g.last? "starting-file"
    ignoresNameCase :=
      let ways := ["ignore-file-name-case", "no-ignore-file-name-case"]
      g.lastOf? ways == some "ignore-file-name-case"
    options := optionWords arguments g.operands }

end Difference

/-- Compares files line by line. -/
def diff : Program :=
  helpfulToolOf 2 Difference.switches fun arguments g => do
    let s ← Difference.settingsIn arguments g
    let pairs : List (Text × Text) ← match g.last? "from-file", g.last? "to-file" with
      | some _, some _ => giveUp "--from-file and --to-file both specified".toList
      | some t, none => pure (g.operands.map fun u => (t, u))
      | none, some u => pure (g.operands.map fun t => (t, u))
      | none, none =>
        match g.operands with
        | [t, u] => pure [(t, u)]
        | _ :: _ :: extra :: _ => askForHelp (some ("extra operand ".toList ++ quoted extra))
        | _ => missOperand arguments
    pairs.forM fun (t, u) => do atLeast (← s.comparePaths t u)

/-! ### Octets -/

namespace Octets

/-- The options. -/
def switches : List Switch :=
  [flag 'b' "print-bytes", valued 'i' "ignore-initial", flag 'l' "verbose", valued 'n' "bytes",
    flag 's' "quiet", named "silent" .nothing, flag 'v' "version"]

/-- An octet as it can be seen. -/
def seen (n : Nat) : Text :=
  if n ≥ 128 then 'M' :: '-' :: low (n - 128) else low n
where
  /-- An octet below 128 as it can be seen. -/
  low (n : Nat) : Text :=
    if n < 32 then ['^', Char.ofNat (n + 64)] else if n = 127 then ['^', '?'] else [Char.ofNat n]

/-- An octet as a number, with what can be seen if that is wanted. -/
def number (shows : Bool) (pad : Nat) (c : Char) : Text :=
  (Nat.toDigits 8 c.toNat).leftpad 3 ' ' ++
    (if shows then ' ' :: (seen c.toNat).rightpad pad ' ' else [])

/-- The places of octets that differ, counted from one. -/
def differences : Nat → Text → Text → List (Nat × Char × Char)
  | n, a :: s, b :: t =>
    if a = b then differences (n + 1) s t else (n, a, b) :: differences (n + 1) s t
  | _, _, _ => []

/-- The number that an operand or an option gives, if it is one. -/
def count? (t : Text) : Option Nat := (Numeral.digits? 10 t).bind fun (n, rest) =>
  if rest.isEmpty then some n else multiplied? n rest

/-- How many octets are left out at the beginnings. -/
def skipsOf (t : Text) : Work (Nat × Nat) :=
  let refuse {α : Type} : Work α :=
    askForHelp (some ("invalid --ignore-initial value ".toList ++ quoted t))
  let first := t.takeWhile (· != ':')
  match count? first with
  | none => refuse
  | some n =>
    match t.drop first.length with
    | [] => pure (n, n)
    | _ :: second => (count? second).elim refuse fun m => pure (n, m)

/-- What is said where the shorter file ends. -/
def atEnd (isBrief : Bool) (file common : Text) : Text :=
  let n := Text.ofNat common.length
  let lines := (common.filter (· == '\n')).length
  "EOF on ".toList ++ file ++
    (if common.isEmpty then " which is empty".toList
    else if !isBrief then " after byte ".toList ++ n
    else if common.getLast? == some '\n' then
      " after byte ".toList ++ n ++ ", line ".toList ++ Text.ofNat lines
    else " after byte ".toList ++ n ++ ", in line ".toList ++ Text.ofNat (lines + 1))

/-- Compares two texts and tells what differs first, or all that differs. -/
def compare (g : Given) (left right : Text) (s t : Text) : Work Unit := do
  let least := min s.length t.length
  let isSilent := g.has "quiet" || g.has "silent"
  let shows := g.has "print-bytes"
  let l := differences 1 s t
  let tellEnd : Work Unit :=
    if s.length = t.length || isSilent then pure ()
    else
      mutter (atEnd (!g.has "verbose") (if s.length < t.length then left else right) (s.take least))
  match l with
  | [] =>
    tellEnd
    if s.length != t.length then atLeast 1
  | (n, a, b) :: _ =>
    atLeast 1
    if g.has "verbose" then
      let width := (Text.ofNat least).length
      say (l.flatMap fun (n, a, b) => (Text.ofNat n).leftpad width ' ' ++ ' ' :: number shows 4 a ++
        ' ' :: number shows 0 b ++ ['\n'])
      tellEnd
    else if !isSilent then
      let line := ((s.take (n - 1)).filter (· == '\n')).length + 1
      sayLine (left ++ ' ' :: right ++ " differ: ".toList ++
        (if shows then "byte " else "char ").toList ++ Text.ofNat n ++ ", line ".toList ++
        Text.ofNat line ++
        (if shows then " is ".toList ++ number true 0 a ++ ' ' :: number true 0 b else []))

end Octets

/-- Compares two files octet by octet. -/
def cmp : Program :=
  helpfulToolOf 2 Octets.switches fun arguments g => do
    let isSilent := g.has "quiet" || g.has "silent"
    if g.has "verbose" && isSilent then
      askForHelp (some "options -l and -s are incompatible".toList)
    let most ← match g.last? "bytes" with
      | none => pure none
      | some t =>
        match Octets.count? t with
        | some n => pure (some n)
        | none => askForHelp (some ("invalid --bytes value ".toList ++ quoted t))
    let (m, n) ← match g.last? "ignore-initial" with
      | none => pure (0, 0)
      | some t => Octets.skipsOf t
    let (left, right, skips) : Text × Text × List Text ← match g.operands with
      | [] => missOperand arguments
      | [t] => pure (t, ['-'], [])
      | t :: u :: skips => pure (t, u, skips)
    let (m, n) ← match skips with
      | [] => pure (m, n)
      | [t] => do pure ((← Octets.skipsOf t).1, n)
      | [t, u] => do pure ((← Octets.skipsOf t).1, (← Octets.skipsOf u).1)
      | _ :: _ :: extra :: _ => askForHelp (some ("extra operand ".toList ++ quoted extra))
    let s : Difference.Settings ← Difference.settingsIn [] ⟨[], []⟩
    let entry (path : Text) : Work Difference.Entry := do
      match ← s.nodeOf path with
      | .ok node => pure ⟨path, some node⟩
      | .error e =>
        if !isSilent then complain 2 (path ++ ": ".toList ++ e.wording)
        stop 2
    let read (e : Difference.Entry) : Work Text := do
      match ← e.read with
      | .ok t => pure t
      | .error wording =>
        if !isSilent || e.isDirectory then complain 2 (e.path ++ ": ".toList ++ wording)
        stop 2
    let x ← entry left
    let y ← entry right
    if Difference.isSameFile x y && m = n then pure ()
    else
      let t ← read x
      let u ← read y
      let cut (skip : Nat) (t : Text) : Text := (t.drop skip).take (most.getD t.length)
      Octets.compare g left right (cut m t) (cut n u)

end Console.Host.Tool

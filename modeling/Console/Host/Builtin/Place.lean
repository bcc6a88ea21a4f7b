import Console.Host.Builtin.Basic

/-! Commands of the shell about the directory it works in and the bits of what it makes. -/

namespace Console.Host.Builtin

/-! ### Directories -/

/-- Goes along names from those of a directory, which are given from the last one. -/
def follow (names : List Text) : List Text → List Text
  | [] => names
  | name :: rest =>
    if name = [] ∨ name = ['.'] then follow names rest
    else if name = ['.', '.'] then follow (names.drop 1) rest
    else follow (name :: names) rest

/-- The path to which another one leads from a directory, without looking at files. Two slashes at
    the beginning stay. -/
def logicalPath (directory t : Text) : Text :=
  let rooted := t.head? = some '/'
  let base := if rooted then t else directory
  let doubled := match base with
    | '/' :: '/' :: '/' :: _ => false
    | '/' :: '/' :: _ => true
    | _ => false
  let names := Text.splitOn '/' t
  let names := if rooted then follow [] names else
    follow (follow [] (Text.splitOn '/' directory)) names
  let lead : Text := if doubled then ['/', '/'] else ['/']
  lead ++ Text.join ['/'] names.reverse

/-- Enters the directory that a path names. -/
def enter (t : Text) : Prog Bool :=
  Prog.act fun w =>
    match w.files.locate w.self.directory t true with
    | .ok n =>
      if w.files.isDirectory n then (true, w.updateSelf fun p => { p with directory := n })
      else (false, w)
    | .error _ => (false, w)

/-- The path of the directory of the process. -/
def physicalPath : Prog Text := Prog.look fun files base => files.pathOf base

/-- Sets a variable that other programs see. -/
def setExported (name : String) (value : Text) : Run Unit := do
  assign name.toList value
  modify fun m =>
    m.putVariable name.toList { (m.binding? name.toList).getD .unset with isExported := true }

/-- Goes to a directory. -/
def goTo (physical : Bool) (t : Text) : Run Bool := do
  let m ← get
  let path := if physical then t else logicalPath m.directory t
  if !(← (enter path : Prog Bool)) then return false
  let directory ← if physical then (physicalPath : Prog Text) else pure path
  setExported "OLDPWD" m.directory
  modify fun m => { m with directory := directory }
  setExported "PWD" directory
  pure true

/-- Whether the directories of `CDPATH` do not count for a path. -/
def isAnchored (t : Text) : Bool :=
  match t with
  | '/' :: _ | ['.'] | '.' :: '/' :: _ | ['.', '.'] | '.' :: '.' :: '/' :: _ => true
  | _ => false

/-- Whether the last of some options asks for the directory without links. -/
def asksPhysical (l : List (Char × Text)) : Bool := (l.getLast?.map Prod.fst) == some 'P'

/-- Changes the directory. -/
def cd : Builtin := fun arguments => do
  let (l, arguments) ← parsed "LP" arguments
  let m ← get
  let physical := asksPhysical l
  let (target, tells) : Text × Bool := match arguments with
    | [] => (m.known "HOME", false)
    | ['-'] :: _ => (m.known "OLDPWD", true)
    | t :: _ => (t, false)
  let path := if isAnchored target then [] else m.known "CDPATH"
  let name := if target.isEmpty then ['.'] else target
  let places := (Text.splitOn ':' path).map fun d =>
    (!d.isEmpty, if d.isEmpty then name else d ++ '/' :: name)
  let found ← (Prog.look fun files base =>
    places.find? fun (_, t) => (files.find? base t).any files.isDirectory : Prog _)
  let (tells, t) : Bool × Text := match found with
    | some (isElsewhere, t) => (tells || isElsewhere, t)
    | none => (tells, target)
  if !(← goTo physical t) then fail ("can't cd to ".toList ++ target)
  if tells then answerWith ((← get).directory ++ ['\n'])
  pure 0

/-- Tells the directory. -/
def pwd : Builtin := fun arguments => do
  let (l, _) ← parsed "LP" arguments
  let t ← if asksPhysical l then (physicalPath : Prog Text) else do pure (← get).directory
  answerWith (t ++ ['\n'])
  pure 0

/-! ### Bits -/

/-- The letters of three bits. -/
def bitLetters (bits : Nat) : Text :=
  (if Nat.land bits 4 ≠ 0 then ['r'] else []) ++ (if Nat.land bits 2 ≠ 0 then ['w'] else []) ++
    (if Nat.land bits 1 ≠ 0 then ['x'] else [])

/-- What a letter of a symbolic mode stands for, in three bits, given the bits there were. -/
def bitsOf (mode : Nat) : Char → Nat
  | 'r' => 4
  | 'w' => 2
  | 'x' => 1
  | 'u' => mode / 64
  | 'g' => mode / 8
  | 'o' => mode
  | 'X' => if Nat.land mode 0o111 ≠ 0 then 1 else 0
  | _ => 0

/-- One bit for each of those that letters name. -/
def places (t : Text) : Nat :=
  t.foldl (fun n c => Nat.lor n (match c with
    | 'a' => 0o111
    | 'u' => 0o100
    | 'g' => 0o010
    | _ => 0o001)) 0

/-- Applies a symbolic mode to bits. All operators look at the bits that there were. -/
def symbolicMode (mode : Nat) : Nat → Nat → Nat → Text → Option Nat
  | 0, _, result, _ => some result
  | fuel + 1, positions, result, t =>
    let who := t.takeWhile fun c => "augo".toList.contains c
    let positions := Nat.lor positions (places who)
    let positions := if positions = 0 then 0o111 else positions
    match t.drop who.length with
    | op :: rest =>
      if op = '=' ∨ op = '+' ∨ op = '-' then
        let what := rest.takeWhile fun c => "rwxugoXs".toList.contains c
        let bits := what.foldl (fun n c => Nat.lor n (bitsOf mode c)) 0 % 8 * positions
        let without (n m : Nat) : Nat := Nat.land n (0o777 - m)
        let result :=
          if op = '-' then without result bits
          else if op = '=' then Nat.lor (without result (positions * 7)) bits
          else Nat.lor result bits
        match rest.drop what.length with
        | [] => some result
        | ',' :: rest => symbolicMode mode fuel 0 result rest
        | c :: rest =>
          if c = '=' ∨ c = '+' ∨ c = '-' then symbolicMode mode fuel positions result (c :: rest)
          else none
      else none
    | [] => some result

/-- Sets the bits that what the shell makes does not get, or tells them. -/
def umask : Builtin := fun arguments => do
  let (l, arguments) ← parsed "S" arguments
  let mask ← (Prog.see fun w => w.self.mask : Prog Nat)
  let set_ (n : Nat) : Run Nat := do
    (Prog.act fun w => ((), w.updateSelf fun p => { p with mask := n % 512 }) : Prog Unit)
    pure 0
  match arguments with
  | [] =>
    let rest := 0o777 - mask
    let digits := Nat.toDigits 8 mask
    let t := if l.isEmpty then List.replicate (4 - digits.length) '0' ++ digits else
      "u=".toList ++ bitLetters (rest / 64) ++ ",g=".toList ++ bitLetters (rest / 8) ++
        ",o=".toList ++ bitLetters rest
    answerWith (t ++ ['\n'])
    pure 0
  | t :: _ =>
    if t.head?.any Char.isDigit then
      if t.all Format.isOctal then set_ (Numeral.value 8 0 t)
      else fail ("Illegal number: ".toList ++ t)
    else
      let mode := 0o777 - mask
      match symbolicMode mode (t.length + 1) 0 mode t with
      | some n => set_ (0o777 - n)
      | none => fail ("Illegal mode: ".toList ++ t)

end Console.Host.Builtin

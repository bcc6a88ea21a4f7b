import Console.Files
import Console.Host.Numeral

/-! The modes of files: how they are changed by a text, and how they are shown. -/

namespace Console.Host.Tool.Mode

/-- All bits of a mode. -/
def allBits : Nat := 0o7777

/-- A mode without some bits. -/
def without (mode bits : Nat) : Nat := Nat.land mode (allBits - Nat.land bits allBits)

/-- The bits of users that a letter stands for. -/
def userBits? (c : Char) : Option Nat :=
  match c with
  | 'u' => some 0o4700
  | 'g' => some 0o2070
  | 'o' => some 0o1007
  | 'a' => some 0o7777
  | _ => none

/-- What a mode is changed by. -/
structure Change where
  /-- The users whose bits are changed; nobody in particular if none are named. -/
  users : Option Nat
  sign : Char
  letters : Text

/-- The bits that a letter stands for, of all users. -/
def letterBits (isDirectory : Bool) (mode : Nat) (c : Char) : Nat :=
  match c with
  | 'r' => 0o444
  | 'w' => 0o222
  | 'x' => 0o111
  | 'X' => if isDirectory || Nat.land mode 0o111 != 0 then 0o111 else 0
  | 's' => 0o6000
  | 't' => 0o1000
  | 'u' => (mode / 64 % 8) * 0o111
  | 'g' => (mode / 8 % 8) * 0o111
  | 'o' => (mode % 8) * 0o111
  | _ => 0

/-- Changes a mode. Where no users are named, the bits of the mask are left alone. -/
def Change.apply (k : Change) (isDirectory : Bool) (mask mode : Nat) : Nat :=
  let users := k.users.getD (allBits - Nat.land mask allBits)
  let bits := k.letters.foldl (fun n c => Nat.lor n (letterBits isDirectory mode c)) 0
  let bits := Nat.land bits users
  let kept := if isDirectory then 0o6000 else 0
  match k.sign with
  | '+' => Nat.lor mode bits
  | '-' => without mode bits
  | _ =>
    let cleared := match k.users with
      | some u => without u kept
      | none => without 0o7777 kept
    Nat.lor (without mode cleared) bits

/-- Reads the signs and letters of one part of a text. -/
def changes? (users : Option Nat) : Nat → Text → Option (List Change)
  | 0, _ => none
  | _ + 1, [] => some []
  | fuel + 1, c :: rest =>
    if c = '+' || c = '-' || c = '=' then
      let letters := rest.takeWhile fun c => "rwxXst".toList.elem c
      let letters := match letters, rest.head? with
        | [], some c => if "ugo".toList.elem c then [c] else []
        | letters, _ => letters
      (changes? users fuel (rest.drop letters.length)).map (⟨users, c, letters⟩ :: ·)
    else none

/-- Reads a part of a text. -/
def part? (t : Text) : Option (List Change) :=
  let who := t.takeWhile fun c => (userBits? c).isSome
  let users := if who.isEmpty then none
    else some (who.foldl (fun n c => Nat.lor n ((userBits? c).getD 0)) 0)
  match t.drop who.length with
  | [] => none
  | rest => changes? users (rest.length + 1) rest

/-- The change of modes that a text stands for. -/
def change? (t : Text) : Option (Bool → Nat → Nat → Nat) :=
  if !t.isEmpty && t.all (Numeral.isDigit 8) then
    let n := Numeral.value 8 0 t
    if n > allBits then none
    else
      some fun isDirectory _ mode =>
        if isDirectory && t.length < 5 then Nat.lor n (Nat.land mode 0o6000) else n
  else
    ((Text.splitOn ',' t).mapM part?).map fun l isDirectory mask mode =>
      l.flatten.foldl (fun mode k => k.apply isDirectory mask mode) mode

/-- Nine letters for the bits of a mode. -/
def letters (mode : Nat) : Text :=
  let triple (n : Nat) (special : Bool) (small large : Char) : Text :=
    [if n / 4 % 2 = 1 then 'r' else '-', if n / 2 % 2 = 1 then 'w' else '-',
      if special then if n % 2 = 1 then small else large else if n % 2 = 1 then 'x' else '-']
  triple (mode / 64) (mode / 2048 % 2 = 1) 's' 'S' ++
    triple (mode / 8) (mode / 1024 % 2 = 1) 's' 'S' ++ triple mode (mode / 512 % 2 = 1) 't' 'T'

/-- The letter of the kind of a node. -/
def kindLetter (content : Content) : Char :=
  match content with
  | .file _ | .program _ => '-'
  | .directory _ _ => 'd'
  | .link _ => 'l'
  | .pipe => 'p'
  | .device _ => 'c'

/-- The digits of a mode. -/
def digits (count mode : Nat) : Text := (Nat.toDigits 8 mode).leftpad count '0'

end Console.Host.Tool.Mode

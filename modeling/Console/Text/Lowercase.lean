import Console.Text.Basic
import Console.Text.LetterCase

/-! Full lowercasing of a text. It depends on the context in one place: a capital sigma that ends a
    word becomes the final sigma. One capital, the dotted I, becomes two characters. -/

namespace Console.Text

/-- Whether a code point lies in one of the ranges. -/
def inRanges (ranges : List (Nat × Nat)) (n : Nat) : Bool :=
  ranges.any fun (first, last) => first ≤ n && n ≤ last

/-- The property `Case_Ignorable`. -/
def isCaseIgnorable (c : Char) : Bool := inRanges caseIgnorableRanges c.toNat

/-- Whether a character has case, among those that are not case-ignorable. -/
def isCased (c : Char) : Bool := inRanges casedRanges c.toNat

/-- The lowercase of a character by itself. -/
def lowerChar (c : Char) : Text :=
  if c = 'İ' then ['i', '\u0307']
  else
    let n := c.toNat
    let hit (run : CaseRun) : Bool :=
      run.first ≤ n && n ≤ run.last && (n - run.first) % run.step == 0
    match lowercaseRuns.find? hit with
    | some run => [Char.ofNat ((n : Int) + run.offset).toNat]
    | none => [c]

/-- Whether the next character that is not case-ignorable has case. -/
def meetsCased (t : Text) : Bool :=
  match t.dropWhile isCaseIgnorable with
  | c :: _ => isCased c
  | [] => false

/-- Lowercases a text that follows `before`, which is given from its end. -/
def lowerAfter (before : Text) : Text → Text
  | [] => []
  | c :: rest =>
    let small :=
      if c = 'Σ' then (if meetsCased before && !meetsCased rest then ['ς'] else ['σ'])
      else lowerChar c
    small ++ lowerAfter (c :: before) rest

/-- The lowercase of a text. -/
def lower (t : Text) : Text := lowerAfter [] t

end Console.Text

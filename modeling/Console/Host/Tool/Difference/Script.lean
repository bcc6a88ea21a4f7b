/-! Scripts that turn one list of lines into another one. Lines are numbers, the same for lines that
    count as equal. Lines without a counterpart are left out, what is left is split in the middle of
    a shortest script again and again, and each change is moved as far down as it can be. -/

namespace Console.Host.Tool.Difference

/-- A change: so many lines from a place on go, and so many from a place in the other file come. -/
structure Change where
  start : Nat
  deleted : Nat
  otherStart : Nat
  inserted : Nat
  deriving DecidableEq, Repr

/-! ### The middle of a script -/

/-- Two lists of lines. -/
structure Pair where
  left : Array Nat
  right : Array Nat

/-- Whether lines at two places are equal. -/
def Pair.same (p : Pair) (x y : Int) : Bool :=
  p.left.getD x.toNat 0 == p.right.getD y.toNat 0

/-- Parts of both lists, from places on up to others. -/
structure Box where
  left : Int
  leftEnd : Int
  right : Int
  rightEnd : Int

/-- How far each diagonal has been followed. The first entry is for the one number `-shift`. -/
structure Reach where
  shift : Int
  places : Array Int

/-- How far a diagonal has been followed. -/
def Reach.at_ (r : Reach) (d : Int) : Int := r.places.getD (d + r.shift).toNat 0

/-- Notes how far a diagonal has been followed. -/
def Reach.put (r : Reach) (d x : Int) : Reach :=
  { r with places := r.places.setIfInBounds (d + r.shift).toNat x }

/-- Goes down a diagonal as long as lines are equal, so many steps at most. -/
def Pair.slideDown (p : Pair) (b : Box) : Nat → Int → Int → Int
  | 0, x, _ => x
  | fuel + 1, x, y =>
    if x < b.leftEnd && y < b.rightEnd && p.same x y then p.slideDown b fuel (x + 1) (y + 1) else x

/-- Goes up a diagonal as long as lines are equal, so many steps at most. -/
def Pair.slideUp (p : Pair) (b : Box) : Nat → Int → Int → Int
  | 0, x, _ => x
  | fuel + 1, x, y =>
    if b.left < x && b.right < y && p.same (x - 1) (y - 1) then p.slideUp b fuel (x - 1) (y - 1)
    else x

/-- The diagonals from a least to a greatest one that a search has come to. -/
structure Front where
  reach : Reach
  low : Int
  high : Int

/-- A place that no search from the end has come to. -/
def farAway : Int := 1000000000000

/-- Widens a front by one diagonal on each side, or makes it smaller where it has met the border. -/
def Front.widened (f : Front) (least greatest outside : Int) : Front :=
  let f := if f.low > least then
      { f with low := f.low - 1, reach := f.reach.put (f.low - 2) outside }
    else { f with low := f.low + 1 }
  if f.high < greatest then
    { f with high := f.high + 1, reach := f.reach.put (f.high + 2) outside }
  else { f with high := f.high - 1 }

/-- Goes on from the beginning by one edit on each diagonal, from a greatest one on. The place where
    it meets the other search ends it. -/
def Pair.forward (p : Pair) (b : Box) (odd : Bool) (other : Front) :
    Nat → Front → Int → Front × Option (Int × Int)
  | 0, f, _ => (f, none)
  | fuel + 1, f, d =>
    if d < f.low then (f, none)
    else
      let below := f.reach.at_ (d - 1)
      let above := f.reach.at_ (d + 1)
      let x := if below < above then above else below + 1
      let x := p.slideDown b (b.leftEnd - x).toNat x (x - d)
      let f := { f with reach := f.reach.put d x }
      if odd && other.low ≤ d && d ≤ other.high && other.reach.at_ d ≤ x then (f, some (x, x - d))
      else p.forward b odd other fuel f (d - 2)

/-- Goes on from the end by one edit on each diagonal. -/
def Pair.backward (p : Pair) (b : Box) (odd : Bool) (other : Front) :
    Nat → Front → Int → Front × Option (Int × Int)
  | 0, f, _ => (f, none)
  | fuel + 1, f, d =>
    if d < f.low then (f, none)
    else
      let below := f.reach.at_ (d - 1)
      let above := f.reach.at_ (d + 1)
      let x := if below < above then below else above - 1
      let x := p.slideUp b (x - b.left).toNat x (x - d)
      let f := { f with reach := f.reach.put d x }
      if !odd && other.low ≤ d && d ≤ other.high && x ≤ other.reach.at_ d then (f, some (x, x - d))
      else p.backward b odd other fuel f (d - 2)

/-- Lets two searches go on by an edit in turn until they meet. -/
def Pair.meet (p : Pair) (b : Box) (odd : Bool) : Nat → Front → Front → Int × Int
  | 0, _, _ => (b.left, b.right)
  | fuel + 1, f, g =>
    let least := b.left - b.rightEnd
    let greatest := b.leftEnd - b.right
    let count (f : Front) : Nat := (f.high - f.low).toNat + 1
    let f := f.widened least greatest (-1)
    match p.forward b odd g (count f) f f.high with
    | (_, some place) => place
    | (f, none) =>
      let g := g.widened least greatest farAway
      match p.backward b odd f (count g) g g.high with
      | (_, some place) => place
      | (g, none) => p.meet b odd fuel f g

/-- A place in the middle of a shortest script. -/
def Pair.middle (p : Pair) (b : Box) : Int × Int :=
  let shift : Int := p.right.size + 1
  let reach : Reach := ⟨shift, Array.replicate (p.left.size + p.right.size + 3) 0⟩
  let start := b.left - b.right
  let stop := b.leftEnd - b.rightEnd
  let f : Front := ⟨reach.put start b.left, start, start⟩
  let g : Front := ⟨reach.put stop b.leftEnd, stop, stop⟩
  p.meet b ((start - stop) % 2 != 0) (p.left.size + p.right.size + 1) f g

/-! ### Lines that change -/

/-- Which lines of both files change. -/
structure Marks where
  left : Array Bool
  right : Array Bool

/-- Marks lines from a place on up to another one. -/
def marked (l : Array Bool) (start stop : Int) : Array Bool :=
  (List.range (stop - start).toNat).foldl (fun l n => l.setIfInBounds (start.toNat + n) true) l

/-- Marks the lines of a box that change, in so many splits at most. -/
def Pair.mark (p : Pair) : Nat → Box → Marks → Marks
  | 0, _, m => m
  | fuel + 1, b, m =>
    let x := p.slideDown b (b.leftEnd - b.left).toNat b.left b.right
    let b := { b with right := b.right + (x - b.left), left := x }
    let x := p.slideUp b (b.leftEnd - b.left).toNat b.leftEnd b.rightEnd
    let b := { b with rightEnd := b.rightEnd - (b.leftEnd - x), leftEnd := x }
    if b.left = b.leftEnd then { m with right := marked m.right b.right b.rightEnd }
    else if b.right = b.rightEnd then { m with left := marked m.left b.left b.leftEnd }
    else
      let (x, y) := p.middle b
      let m := p.mark fuel { b with leftEnd := x, rightEnd := y } m
      p.mark fuel { b with left := x, right := y } m

/-- The lines of two lists that a shortest script changes. -/
def Pair.marks (p : Pair) : Marks :=
  p.mark (p.left.size + p.right.size + 1) ⟨0, p.left.size, 0, p.right.size⟩
    ⟨Array.replicate p.left.size false, Array.replicate p.right.size false⟩

/-! ### Lines that are left out -/

/-- Whether a line is left out before the search. -/
inductive Verdict where
  | kept
  | dropped
  /-- It may be left out among others, as it is like many lines of the other file. -/
  | doubtful
  deriving DecidableEq, Repr

/-- The number that is doubled for every factor of four in another one. -/
def doubled : Nat → Nat → Nat → Nat
  | 0, _, n => n
  | fuel + 1, size, n => if size / 4 = 0 then n else doubled fuel (size / 4) (2 * n)

/-- Keeps doubtful lines up to three dropped ones in a row, or the first one behind eight. -/
def keepFirst : Nat → Nat → List Verdict → List Verdict
  | _, _, [] => []
  | place, row, v :: rest =>
    if place ≥ 8 && v = .dropped then v :: rest
    else
      match v with
      | .dropped => if row = 2 then v :: rest else v :: keepFirst (place + 1) (row + 1) rest
      | .kept | .doubtful => .kept :: keepFirst (place + 1) 0 rest

/-- Keeps the doubtful lines of every row that is long. The list holds a row so far. -/
def keepRows (long : Nat) : List Verdict → List Verdict → List Verdict
  | row, [] => if row.length ≥ long then row.map fun _ => .kept else row
  | row, v :: rest =>
    if v = .doubtful then keepRows long (v :: row) rest
    else (if row.length ≥ long then row.map fun _ => .kept else row) ++ v :: keepRows long [] rest

/-- Decides about a run of lines that are not kept, the first and the last of which are dropped. -/
def settledRun (run : List Verdict) : List Verdict :=
  let doubtful := run.count .doubtful
  if doubtful * 4 > run.length then run.map fun v => if v = .doubtful then .kept else v
  else
    let long := doubled run.length (run.length / 4) 1 + 1
    let run := keepFirst 0 0 (keepRows long [] run)
    (keepFirst 0 0 run.reverse).reverse

/-- Decides about all lines. Doubtful ones can only be left out between dropped ones. -/
def settled : Nat → List Verdict → List Verdict
  | 0, l => l
  | _ + 1, [] => []
  | fuel + 1, v :: rest =>
    if v = .dropped then
      let run := (v :: rest).takeWhile (· != .kept)
      let kept := (run.reverse.takeWhile (· == .doubtful)).map fun _ => Verdict.kept
      settledRun (run.take (run.length - kept.length)) ++ kept ++
        settled fuel (rest.drop (run.length - 1))
    else .kept :: settled fuel rest

/-- How often numbers below a bound are in a list. -/
def counts (bound : Nat) (l : Array Nat) : Array Nat :=
  l.foldl (fun counts n => counts.modify n (· + 1)) (Array.replicate bound 0)

/-- What becomes of the lines of a file, by how often they are in the other one. -/
def verdicts (l : Array Nat) (others : Array Nat) : List Verdict :=
  let many := doubled l.size (l.size / 64) 5
  settled l.size (l.toList.map fun n =>
    let count := others.getD n 0
    if count = 0 then .dropped else if count > many then .doubtful else .kept)

/-! ### Moving changes -/

/-- A file whose changes are moved beside the other one: a run of changes from `start` up to `stop`,
    and the place in the other file. -/
structure Slide where
  lines : Array Nat
  mine : Array Bool
  others : Array Bool
  start : Nat
  stop : Nat
  place : Nat
  /-- The last end of the run so far at which the other file changes, too. -/
  matching : Nat

/-- The first place from one on that does not change, so many steps away at most. -/
def firstKept (l : Array Bool) : Nat → Nat → Nat
  | 0, n => n
  | fuel + 1, n => if l.getD n false then firstKept l fuel (n + 1) else n

/-- The last place before one that does not change. -/
def lastKept (l : Array Bool) : Nat → Nat
  | 0 => 0
  | n + 1 => if l.getD n false then lastKept l n else n

/-- The beginning of a run of changes that ends before a place. -/
def runStart (l : Array Bool) : Nat → Nat
  | 0 => 0
  | n + 1 => if l.getD n false then runStart l n else n + 1

namespace Slide

/-- Whether lines at two places of the file are equal. -/
def same (s : Slide) (m n : Nat) : Bool := s.lines.getD m 0 == s.lines.getD n 0

/-- Moves the run up by a line. -/
def up (s : Slide) : Slide :=
  { s with
    mine := (s.mine.setIfInBounds (s.start - 1) true).setIfInBounds (s.stop - 1) false
    start := s.start - 1, stop := s.stop - 1, place := lastKept s.others s.place }

/-- Moves the run up as far as it can be, and joins it with runs that it meets. -/
def back : Nat → Slide → Slide
  | 0, s => s
  | fuel + 1, s =>
    if s.start > 0 && s.same (s.start - 1) (s.stop - 1) then
      let s := s.up
      back fuel { s with start := runStart s.mine s.start }
    else s

/-- Moves the run down as far as it can be, and joins it with runs that it meets. -/
def ahead : Nat → Slide → Slide
  | 0, s => s
  | fuel + 1, s =>
    if s.stop < s.lines.size && s.same s.start s.stop then
      let mine := (s.mine.setIfInBounds s.start false).setIfInBounds s.stop true
      let stop := firstKept mine mine.size (s.stop + 1)
      let place := firstKept s.others s.others.size (s.place + 1)
      let matching := if place > s.place + 1 then stop else s.matching
      ahead fuel { s with mine, stop, place, matching, start := s.start + 1 }
    else s

/-- Moves the run up and down until it no longer grows. -/
def grown : Nat → Slide → Slide
  | 0, s => s
  | fuel + 1, s =>
    let length := s.stop - s.start
    let s := back s.lines.size s
    let atOther := s.place > 0 && s.others.getD (s.place - 1) false
    let s := ahead s.lines.size { s with matching := if atOther then s.stop else s.lines.size }
    if s.stop - s.start = length then s else grown fuel s

/-- Moves the run up to where the other file changes. -/
def aligned : Nat → Slide → Slide
  | 0, s => s
  | fuel + 1, s => if s.matching < s.stop then aligned fuel s.up else s

/-- Moves all runs from a line on, beside a place in the other file. -/
def all : Nat → Slide → Slide
  | 0, s => s
  | fuel + 1, s =>
    if s.stop ≥ s.lines.size then s
    else if s.mine.getD s.stop false then
      let stop := firstKept s.mine s.mine.size (s.stop + 1)
      let place := firstKept s.others s.others.size s.place
      let s := grown s.lines.size { s with start := s.stop, stop, place }
      all fuel (aligned s.lines.size s)
    else
      let place := firstKept s.others s.others.size s.place + 1
      all fuel { s with stop := s.stop + 1, place }

end Slide

/-- Moves the changes of a file. -/
def moved (lines : Array Nat) (mine others : Array Bool) : Array Bool :=
  (Slide.all (2 * lines.size + 1) ⟨lines, mine, others, 0, 0, 0, lines.size⟩).mine

/-! ### Scripts -/

/-- The changes that marks stand for, from places on. -/
def changes (m : Marks) : Nat → Nat → Nat → List Change
  | 0, _, _ => []
  | fuel + 1, x, y =>
    if x ≥ m.left.size && y ≥ m.right.size then []
    else
      let stop := firstKept m.left m.left.size x
      let otherStop := firstKept m.right m.right.size y
      let rest := changes m fuel (stop + 1) (otherStop + 1)
      if stop = x && otherStop = y then rest
      else ⟨x, stop - x, y, otherStop - y⟩ :: rest

/-- A script for two lists of lines, which are numbers below a bound. Without `thorough` lines are
    left out before the search. -/
def script (thorough : Bool) (bound : Nat) (left right : Array Nat) : List Change :=
  let judged (l others : Array Nat) : List Verdict :=
    if thorough then l.toList.map fun _ => .kept else verdicts l (counts bound others)
  let kept (l : Array Nat) (v : List Verdict) : Array (Nat × Nat) :=
    (((l.toList.zip v).zipIdx).filterMap fun ((n, v), i) =>
      if v = .kept then some (n, i) else none).toArray
  let dropped (v : List Verdict) : Array Bool := (v.map (· != .kept)).toArray
  let (v, w) := (judged left right, judged right left)
  let (l, r) := (kept left v, kept right w)
  let m := (Pair.mk (l.map Prod.fst) (r.map Prod.fst)).marks
  let whole (marks : Array Bool) (places : Array (Nat × Nat)) (start : Array Bool) : Array Bool :=
    (marks.toList.zip places.toList).foldl
      (fun all (isMarked, (_, i)) => if isMarked then all.setIfInBounds i true else all) start
  let mine := whole m.left l (dropped v)
  let others := whole m.right r (dropped w)
  let mine := moved left mine others
  let others := moved right others mine
  changes ⟨mine, others⟩ (left.size + right.size + 1) 0 0

end Console.Host.Tool.Difference

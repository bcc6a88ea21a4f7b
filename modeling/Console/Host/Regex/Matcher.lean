import Console.Host.Regex.Basic

/-! Matching: of all matches in a text the leftmost, and of those the longest. An expression becomes
    a list of orders, and many threads follow these side by side along the text, so that the time is
    at most the product of the lengths. Only what a group has matched before takes a search that
    goes back. -/

namespace Console

/-- Whether an anchor holds between two characters. With `lines` a newline begins and ends lines. -/
def Anchor.holds (a : Anchor) (lines : Bool) (before after : Option Char) : Bool :=
  let isWord (c : Option Char) : Bool := c.any Regex.isWordChar
  match a with
  | .lineStart => before.isNone || lines && before == some '\n'
  | .lineEnd => after.isNone || lines && after == some '\n'
  | .textStart => before.isNone
  | .textEnd => after.isNone
  | .wordStart => !isWord before && isWord after
  | .wordEnd => isWord before && !isWord after
  | .wordEdge => isWord before != isWord after
  | .noWordEdge => isWord before == isWord after
  | .behindNoWord => !isWord before
  | .beforeNoWord => !isWord after

namespace Regex

/-- A match: where it begins and ends, and the places that were marked, the last ones first. -/
structure Found where
  start : Nat
  stop : Nat
  marks : List (Nat × Nat)
  deriving DecidableEq, Repr

/-- Where a group begins and ends. -/
def Found.group? (f : Found) (n : Nat) : Option (Nat × Nat) :=
  if n = 0 then some (f.start, f.stop)
  else do
    let start ← f.marks.lookup (2 * n)
    let stop ← f.marks.lookup (2 * n + 1)
    if start ≤ stop then some (start, stop) else none

/-! ### Threads -/

/-- What a thread does at a place of the list. -/
inductive Order where
  | take (set : Charset)
  | pass (anchor : Anchor)
  /-- Goes on at two places, of which the first comes before the second. -/
  | fork (first second : Nat)
  | mark (slot : Nat)

/-- The orders of an expression behind others. A thread that comes to their end has a match. -/
def orders : Regex → Array Order → Array Order
  | .empty, l => l
  | .one s, l => l.push (.take s)
  | .at_ a, l => l.push (.pass a)
  | .seq r s, l => orders s (orders r l)
  | .either r s, l =>
    let first := orders r (l.push (.fork (l.size + 1) 0))
    let second := orders s (first.push (.fork 0 0))
    (second.setIfInBounds l.size (.fork (l.size + 1) (first.size + 1))).setIfInBounds first.size
      (.fork second.size second.size)
  | .times r least most, l =>
    let l := (List.range least).foldl (fun l _ => orders r l) l
    match most with
    | none =>
      let body := orders r (l.push (.fork (l.size + 1) 0))
      let body := body.push (.fork l.size l.size)
      body.setIfInBounds l.size (.fork (l.size + 1) body.size)
    | some most =>
      let (l, forks) := (List.range (most - least)).foldl
        (fun (l, forks) _ => (orders r (l.push (.fork (l.size + 1) 0)), l.size :: forks))
        (l, ([] : List Nat))
      forks.foldl (fun l n => Array.setIfInBounds l n (.fork (n + 1) l.size)) l
  | .group n r, l => (orders r (l.push (.mark (2 * n)))).push (.mark (2 * n + 1))
  | .again _, l => l

/-- A thread: its order, where its match has begun, and its marks. -/
structure Thread where
  order : Nat
  start : Nat
  marks : List (Nat × Nat)

/-- What is between two characters. -/
structure Gap where
  position : Nat
  before : Option Char
  after : Option Char

/-- The threads that wait for a character, the last one first, the orders that threads have already
    come to, and the best match. -/
structure Threads where
  waiting : List Thread
  seen : Array Bool
  best : Option Found

/-- Whether a match is better than another one: it begins before it, or with it and is longer. -/
def Found.beats (f : Found) (other : Option Found) : Bool :=
  match other with
  | none => true
  | some g => f.start < g.start || f.start == g.start && f.stop > g.stop

/-- Lets a thread go on up to the next character. Where another one has been before it ends. -/
def advance (program : Array Order) (lines : Bool) (gap : Gap) : Nat → Thread → Threads → Threads
  | 0, _, l => l
  | fuel + 1, t, l =>
    if t.order ≥ program.size then
      let found : Found := ⟨t.start, gap.position, t.marks⟩
      if found.beats l.best then { l with best := some found } else l
    else if l.seen.getD t.order true then l
    else
      let l := { l with seen := l.seen.setIfInBounds t.order true }
      match program[t.order]? with
      | none => l
      | some (.take _) => { l with waiting := t :: l.waiting }
      | some (.pass a) =>
        if a.holds lines gap.before gap.after then
          advance program lines gap fuel { t with order := t.order + 1 } l
        else l
      | some (.fork first second) =>
        let l := advance program lines gap fuel { t with order := first } l
        if second = first then l
        else advance program lines gap fuel { t with order := second } l
      | some (.mark slot) =>
        advance program lines gap fuel
          { t with order := t.order + 1, marks := (slot, gap.position) :: t.marks } l

/-- Lets a thread take a character, if it can. -/
def Thread.take? (program : Array Order) (c : Char) (t : Thread) : Option Thread :=
  match program[t.order]? with
  | some (.take s) => if s.contains c then some { t with order := t.order + 1 } else none
  | _ => none

/-- Lets the threads go along a text. As long as there is no match, a new one begins at every
    character, behind all others, unless `here` demands that the match begins at once. -/
def follow (program : Array Order) (lines here : Bool) :
    Nat → Option Char → Text → List Thread → Option Found → Option Found
  | position, before, rest, threads, best =>
    let gap : Gap := ⟨position, before, rest.head?⟩
    let fuel := program.size + 1
    let noneSeen := Array.replicate program.size false
    let step (l : Threads) (t : Thread) : Threads :=
      if l.best.any fun f => f.start < t.start then l else advance program lines gap fuel t l
    let l := threads.foldl step ⟨[], noneSeen, best⟩
    let l := if l.best.isNone && !(here && position > 0) then step l ⟨0, position, []⟩ else l
    match rest with
    | [] => l.best
    | c :: rest =>
      if l.waiting.isEmpty && (l.best.isSome || here) then l.best
      else
        follow program lines here (position + 1) (some c) rest
          (l.waiting.reverse.filterMap (Thread.take? program c)) l.best

/-! ### Going back -/

/-- Where a search is. -/
structure Spot where
  position : Nat
  before : Option Char
  rest : Text
  marks : List (Nat × Nat)

/-- The spot behind the next character. -/
def Spot.next (s : Spot) : Spot :=
  match s.rest with
  | [] => s
  | c :: rest => { s with position := s.position + 1, before := some c, rest := rest }

/-- Matches an expression at a spot and what is to follow behind it, and tries all ways in turn.
    The text from position zero on is at hand for what groups have matched. -/
def search (lines : Bool) (whole : Text) :
    Nat → Regex → Spot → (Spot → Option Found) → Option Found
  | 0, _, _, _ => none
  | fuel + 1, r, s, k =>
    match r with
    | .empty => k s
    | .one set => if s.rest.head?.any set.contains then k s.next else none
    | .at_ a => if a.holds lines s.before s.rest.head? then k s else none
    | .seq a b => search lines whole fuel a s fun s => search lines whole fuel b s k
    | .either a b =>
      (search lines whole fuel a s k).orElse fun _ => search lines whole fuel b s k
    | .times a (least + 1) most =>
      search lines whole fuel a s fun s =>
        search lines whole fuel (.times a least (most.map (· - 1))) s k
    | .times _ 0 (some 0) => k s
    | .times a 0 most =>
      let more := search lines whole fuel a s fun later =>
        if later.position = s.position then none
        else search lines whole fuel (.times a 0 (most.map (· - 1))) later k
      more.orElse fun _ => k s
    | .group n a =>
      search lines whole fuel a { s with marks := (2 * n, s.position) :: s.marks } fun s =>
        k { s with marks := (2 * n + 1, s.position) :: s.marks }
    | .again n =>
      match (⟨0, 0, s.marks⟩ : Found).group? n with
      | none => none
      | some (start, stop) =>
        let wanted := (whole.drop start).take (stop - start)
        if wanted.isPrefixOf s.rest then k (wanted.foldl (fun s _ => s.next) s) else none

/-- How deep a search goes. -/
def deepest : Nat := 100000

/-- Searches at every place in turn. -/
def searchFrom (lines here : Bool) (r : Regex) (whole : Text) :
    Nat → Option Char → Text → Option Found
  | position, before, rest =>
    let found := search lines whole deepest r ⟨position, before, rest, []⟩ fun s =>
      some ⟨position, s.position, s.marks⟩
    match found, rest with
    | some f, _ => some f
    | none, [] => none
    | none, c :: rest =>
      if here then none else searchFrom lines here r whole (position + 1) (some c) rest

/-! ### Expressions that are ready -/

/-- Whether an expression asks for what a group has matched. -/
def looksBack : Regex → Bool
  | .again _ => true
  | .seq a b | .either a b => looksBack a || looksBack b
  | .times a _ _ | .group _ a => looksBack a
  | _ => false

/-- An expression that is ready to be matched. -/
structure Matcher where
  expression : Regex
  groups : Nat
  orders : Array Order
  looksBack : Bool
  /-- Whether newlines begin and end lines. -/
  lines : Bool

/-- Prepares an expression. -/
def matcher (r : Regex) (groups : Nat) (lines : Bool) : Matcher :=
  ⟨r, groups, orders r #[], looksBack r, lines⟩

namespace Matcher

/-- The first match in a text, behind a character if there is one. -/
def find? (m : Matcher) (before : Option Char) (t : Text) : Option Found :=
  if m.looksBack then searchFrom m.lines false m.expression t 0 before t
  else follow m.orders m.lines false 0 before t [] none

/-- The match at the beginning of a text. -/
def findHere? (m : Matcher) (before : Option Char) (t : Text) : Option Found :=
  if m.looksBack then searchFrom m.lines true m.expression t 0 before t
  else follow m.orders m.lines true 0 before t [] none

end Matcher

/-- The basic form. -/
def Dialect.basic : Dialect := ⟨false, false, false, false⟩

/-- The matcher of a written expression. -/
def compile (d : Dialect) (lines : Bool) (t : Text) : Except Fault Matcher :=
  (parse d t).map fun (r, groups) => matcher r groups lines

/-- The part of a text between two places. -/
def slice (t : Text) (start stop : Nat) : Text := (t.drop start).take (stop - start)

end Regex

end Console

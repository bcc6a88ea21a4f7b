import Console.Host.Tool.Awk.Machine
import Console.Host.Tool.Clock

/-! Running of scripts over records: the values of expressions and what statements do. The rules are
    tried on every record, between what is done before all records and behind them. -/

namespace Console.Host.Tool.Awk

open Running

/-- A place where a value is. -/
inductive Spot where
  | variable_ (v : Variable)
  | element (table : Nat) (k : Key)
  | field (n : Nat)
  | fieldCount

/-- The value at a spot. -/
def Spot.load (s : Spot) : Running Value :=
  match s with
  | .variable_ v => Running.variable_ v
  | .element n k => onTable n fun t => t.get k
  | .field n => Running.field n
  | .fieldCount => do pure (.ofNat (← Running.fieldCount))

/-- Sets the value at a spot. -/
def Spot.store (s : Spot) (v : Value) : Running Unit :=
  match s with
  | .variable_ x => setVariable x v
  | .element n k => onTable n fun t => ((), t.set k v)
  | .field n => setField n v
  | .fieldCount => setFieldCount v

/-! ### Calculations -/

/-- The result of an operation. -/
def Operation.apply (o : Operation) (a b : Number) : Number :=
  match o with
  | .plus => a.combine (fun x y => x + y) b
  | .minus => a.combine (fun x y => x - y) b
  | .times => a.combine (fun x y => x * y) b
  | .over => a.combine (fun x y => x / y) b
  | .modulo => a.combine Binary64.remainder b
  | .power => a.power b

/-! ### Texts -/

/-- The place of a text in another one, counted from one; without it, zero. -/
def placeOf (part : Text) : Nat → Text → Nat
  | n, [] => if part.isEmpty then n else 0
  | n, c :: rest => if part.isPrefixOf (c :: rest) then n else placeOf part (n + 1) rest

/-- A part of a text. A beginning before the first character counts as the first one, and makes the
    part longer. -/
def part (t : Text) (start : Int) (size : Option Int) : Text :=
  let start := Number.wrapShort (start - 1)
  let size := size.getD t.length
  let size := if start < 0 then Number.wrapShort (size - start - 1) else size
  (t.drop start.toNat).take size.toNat

/-- A number as a place in a text or a size. -/
def placeIn (x : Number) : Int := Number.wrapShort (x.toInt Number.longBound)

/-- What replaces a match: a sign stands for it, and backslashes before the sign hide each other. -/
def replacement (matched : Text) : Nat → Text → Text
  | _, [] => []
  | n, '\\' :: rest =>
    if rest.isEmpty then List.replicate (n + 1) '\\' else replacement matched (n + 1) rest
  | n, c :: rest =>
    if c = '&' then
      List.replicate (n / 2) '\\' ++ (if n % 2 = 1 then ['&'] else matched) ++
        replacement matched 0 rest
    else List.replicate n '\\' ++ c :: replacement matched 0 rest

/-- Replaces matches in the rest of a text: one, or all of them. No match is empty right behind
    another one. Answers also how many there were. -/
def substituted (m : Regex.Matcher) (by_ : Text) (isGlobal : Bool) :
    Nat → Nat → Bool → Option Char → List Text → Text → Text × Nat
  | 0, n, _, _, done, t => ((t :: done).reverse.flatten, n)
  | fuel + 1, n, isBehind, before, done, t =>
    match m.find? before t with
    | none => ((t :: done).reverse.flatten, n)
    | some f =>
      let rest := t.drop f.stop
      let isEmpty := f.start == f.stop
      if isEmpty && f.start = 0 && isBehind then
        match t with
        | [] => (done.reverse.flatten, n)
        | c :: rest => substituted m by_ isGlobal fuel n false (some c) ([c] :: done) rest
      else
        let written := t.take f.start ++ replacement (Regex.slice t f.start f.stop) 0 by_
        if !isGlobal then ((rest :: written :: done).reverse.flatten, n + 1)
        else if isEmpty then
          match rest with
          | [] => ((written :: done).reverse.flatten, n + 1)
          | c :: rest =>
            substituted m by_ isGlobal fuel (n + 1) false (some c) ([c] :: written :: done) rest
        else
          let before := (t.take f.stop).getLast?
          substituted m by_ isGlobal fuel (n + 1) true before (written :: done) rest

/-- The wording of a refusal to format. -/
def refusalText (r : Value.Refusal) (function format : Text) : Text :=
  let behind := function ++ "(\"".toList ++ format ++ "\")".toList
  match r with
  | .tooFew => "not enough arguments passed to ".toList ++ behind
  | .improper n => "improper conversion(number ".toList ++ Text.ofNat n ++ ") in ".toList ++ behind

/-! ### Functions that every script has -/

/-- The next state of random numbers. -/
def nextRandom (n : Nat) : Nat := (n * 6364136223846793005 + 1442695040888963407) % Word.limit

/-- A number from zero on and below one. -/
def randomNumber (state : Nat) : Float :=
  Float.ofNat (state / twoTo 11) / Float.ofNat (twoTo 53)

/-- The seconds of a moment that a text names by its numbers, if it does. -/
def momentOf? (t : Text) : Option Int :=
  let words := Separator.wordsFrom [] t
  match words.mapM fun w => (Numeral.integer? 10 w).map Prod.fst with
  | some (year :: month :: day :: hour :: minute :: second :: rest) =>
    let months := year * 12 + month - 1
    let first : Clock.Day := ⟨Int.fdiv months 12, (Int.emod months 12).toNat + 1, 1⟩
    let shift : Int := if rest.head?.any fun n => n > 0 then 3600 else 0
    some ((first.number + day - 1) * Clock.daySeconds + hour * 3600 + minute * 60 + second - shift)
  | _ => none

/-- The time in nanoseconds. -/
def clockTime : Running Int := Running.step (Prog.see fun w => w.files.now)

/-- The value of an integer. -/
def ofInt (n : Int) : Value :=
  let x := Float.ofNat n.natAbs
  .number (.real (if n < 0 then -x else x))

/-- The value of a function that every script has. -/
def Builtin.apply (f : Builtin) (arguments : List Value) : Running Value := do
  let a := arguments.getD 0 .unset
  let b := arguments.getD 1 .unset
  let c := arguments.getD 2 .unset
  let number (g : Float → Float) : Running Value := pure (.number (a.toNumber.map g))
  match f with
  | .length =>
    if arguments.isEmpty then pure (.ofNat (← recordText).length)
    else pure (.ofNat (← textOf a).length)
  | .substr =>
    let t ← textOf a
    let size := if arguments.length > 2 then some (placeIn c.toNumber) else none
    pure (.text (part t (placeIn b.toNumber) size))
  | .index =>
    let t ← textOf a
    let u ← textOf b
    pure (.ofNat (placeOf u 1 t))
  | .sprintf =>
    let numbers ← textFormat
    let format ← textOf a
    match Value.formatted numbers format (arguments.drop 1) with
    | (t, none) => pure (.text t)
    | (_, some r) => failHere (refusalText r "sprintf".toList format)
  | .int => number Number.whole
  | .sqrt => number Float.sqrt
  | .exp => number Float.exp
  | .log => number Float.log
  | .sin => number Float.sin
  | .cos => number Float.cos
  | .atan2 => pure (.number (a.toNumber.combine Float.atan2 b.toNumber))
  | .rand =>
    let n ← update fun m => (m.random, { m with random := nextRandom m.random })
    pure (.number (.real (randomNumber n)))
  | .srand =>
    let seed ← if arguments.isEmpty then do pure (ofInt (Int.fdiv (← clockTime) Clock.second))
      else pure a
    let state := nextRandom (hashOf (← textOf seed))
    update fun m => (m.seed, { m with seed := seed, random := nextRandom state })
  | .lower => do pure (.text (Text.lowerAscii (← textOf a)))
  | .upper => do pure (.text ((← textOf a).map Char.toUpper))
  | .system =>
    let command ← textOf a
    flushAll
    let report (c : Text) (e : Files.Fault) : Text := c ++ ": ".toList ++ e.wording
    let ending ← act do
      runCommand (pure ()) report ["sh".toList, "-c".toList, command] (← environment)
    pure (.ofNat (endingValue ending))
  | .close => do pure (ofInt (← Running.close (← textOf a)))
  | .flush =>
    if arguments.isEmpty then
      flushMain
      pure (.ofNat 0)
    else
      let name ← textOf a
      let isThere ← see fun m => m.sinks.any fun s => s.name == name
      flushAll
      pure (ofInt (if isThere || isMain name || name.isEmpty then 0 else -1))
  | .now => do pure (ofInt (Int.fdiv (← clockTime) Clock.second))
  | .moment => do pure (ofInt ((momentOf? (← textOf a)).getD (-1)))
  | .date =>
    let format ← if arguments.isEmpty then pure "%c".toList else textOf a
    let n ← if arguments.length < 2 then clockTime
      else pure (b.toNumber.toInt Number.longBound * Clock.second)
    pure (.text (Clock.formatted (.ofNanoseconds n) format))

/-! ### Expressions and statements -/

/-- How it goes on behind a statement. -/
inductive Flow where
  | on
  | leave
  | again
  | next
  | nextFile
  | back (v : Value)

/-- A value as it is printed. -/
def printedText (format : Text) (v : Value) : Text :=
  match v with
  | .text t | .input t => t
  | v => v.toText format

/-- The separator of fields that a value means. -/
def separatorOf (v : Value) : Running Separator := do
  let t ← textOf v
  match t with
  | [] => pure .nothing
  | [' '] => pure .blanks
  | [c] => pure (.one c)
  | t => do pure (.pattern (← matcherOf t))

/-- Puts the fields of a text into a table. -/
def splitInto (t : Text) (table : Nat) (s : Separator) : Running Value := do
  let l := s.fields t
  setTable table (.ofList (l.map Value.input))
  pure (.ofNat l.length)

/-- Looks for a match, and remembers where it is. -/
def findIn (t : Text) (m : Regex.Matcher) : Running Value := do
  let (start, size) : Nat × Int := match m.find? none t with
    | some f => (f.start + 1, f.stop - f.start)
    | none => (0, -1)
  setSlot Slot.matchStart (.ofNat start)
  setSlot Slot.matchLength (ofInt size)
  pure (.ofNat start)

/-- The table of an argument, or a new one. -/
def tableArgument (e : Expr) : Running Nat := do
  let known ← match e with
    | .get (.variable_ v) => table? v
    | _ => pure none
  match known with
  | some n => pure n
  | none => update fun m => (m.tables.size, { m with tables := m.tables.push .empty })

/-- Lets a function run with what its variables hold, and forgets them afterwards. -/
def inFrame (cells : Array Cell) (tables : Nat) (body : Running Flow) : Running Value := do
  let outer ← update fun m => (m.frame, { m with frame := cells })
  let flow ← body
  Running.change fun m => { m with frame := outer, tables := m.tables.shrink tables }
  match flow with
  | .back v => pure v
  | _ => pure .unset

/-- What a record that was read becomes. -/
def keepRecord (counts : Bool) (target : Option Spot) (t : Text) : Running Unit := do
  if counts then countRecord
  match target with
  | some s => s.store (.input t)
  | none => setRecord (.input t)

/-- What a turn of a loop leads to: an end of the loop, or another turn. -/
def Flow.turn (f : Flow) : Flow ⊕ Unit :=
  match f with
  | .on | .again => .inr ()
  | .leave => .inl .on
  | f => .inl f

/-- Does a body as long as a condition holds, and a step behind every turn. -/
def repeated (condition : Running Bool) (step : Running Unit) (body : Running Flow) :
    Running Flow :=
  let turn (_ : Unit) : Running (Flow ⊕ Unit) := do
    if ← condition then
      match (← body).turn with
      | .inr () =>
        step
        pure (.inr ())
      | end_ => pure end_
    else pure (.inl .on)
  iterate turn .on mostTurns ()

/-- Does a body for each key. -/
def through (v : Variable) (body : Running Flow) (keys : List Text) : Running Flow :=
  let turn (l : List Text) : Running (Flow ⊕ List Text) := do
    match l with
    | [] => pure (.inl .on)
    | k :: rest =>
      setVariable v (.text k)
      match (← body).turn with
      | .inr () => pure (.inr rest)
      | .inl flow => pure (.inl flow)
  iterate turn .on (keys.length + 1) keys

mutual

/-- The value of an expression. -/
def eval (s : Script) : Nat → Expr → Running Value
  | 0, _ => giveUp "function call nested too deeply".toList
  | fuel + 1, e =>
    match e with
    | .constant v => pure v
    | .pattern m => do
      let t ← recordText
      pure (.ofBool (m.find? none t).isSome)
    | .get (.variable_ v) => Running.variable_ v
    | .get (.field e) => do
      let n ← fieldNumber (← eval s fuel e)
      field n
    | .get t => do
      let spot ← locate s fuel t
      spot.load
    | .group e => eval s fuel e
    | .assign t none e => do
      let spot ← locate s fuel t
      let v ← eval s fuel e
      spot.store v
      pure v
    | .assign t (some o) e => do
      let spot ← locate s fuel t
      let v ← eval s fuel e
      let old ← spot.load
      let new := Value.number (o.apply old.toNumber v.toNumber)
      spot.store new
      pure new
    | .count t isUp isAfter => do
      let spot ← locate s fuel t
      let old := (← spot.load).toNumber
      let new := (if isUp then Operation.plus else .minus).apply old .one
      spot.store (.number new)
      pure (.number (if isAfter then old else new))
    | .calculate o a b => do
      let x ← eval s fuel a
      let y ← eval s fuel b
      pure (.number (o.apply x.toNumber y.toNumber))
    | .negate e => do pure (.number (← eval s fuel e).toNumber.negate)
    | .positive e => do pure (.number (← eval s fuel e).toNumber)
    | .not e => do pure (.ofBool !(← eval s fuel e).isTrue)
    | .compare r a b => do
      let x ← eval s fuel a
      let y ← eval s fuel b
      match x, y with
      | .number n, .number k => pure (.ofBool (r.holds (n.compare k)))
      | x, y => do pure (.ofBool (r.holds (x.compare (← textFormat) y)))
    | .join a b => do
      let x ← textOf (← eval s fuel a)
      let y ← textOf (← eval s fuel b)
      pure (.text (x ++ y))
    | .matches isNegated e p => do
      let t ← textOf (← eval s fuel e)
      let m ← patternOf s fuel p
      pure (.ofBool ((m.find? none t).isSome != isNegated))
    | .both a b => do
      if (← eval s fuel a).isTrue then pure (.ofBool (← eval s fuel b).isTrue)
      else pure (.ofBool false)
    | .either a b => do
      if (← eval s fuel a).isTrue then pure (.ofBool true)
      else pure (.ofBool (← eval s fuel b).isTrue)
    | .choose c a b => do
      if (← eval s fuel c).isTrue then eval s fuel a else eval s fuel b
    | .contains v keys => do
      let k ← keyOf s fuel keys
      let n ← tableOf v
      pure (.ofBool (← onTable n fun t => t.contains k))
    | .size v => do
      let isTable := match v with
        | .global n => s.isTable.getD n false
        | .own _ => true
      match ← if isTable then table? v else pure none with
      | some n => do pure (.ofNat (← onTable n fun t => (t.size, t)))
      | none => do pure (.ofNat (← textOf (← Running.variable_ v)).length)
    | .call f arguments =>
      match s.functions[f]? with
      | none => pure .unset
      | some g => do
        let tables ← see fun m => m.tables.size
        let cells ← cellsOf s fuel g.isTable.toList arguments []
        inFrame cells tables (exec s fuel g.body)
    | .builtin f arguments => do
      let l ← evalAll s fuel arguments
      f.apply l
    | .split e v separator => do
      let t ← textOf (← eval s fuel e)
      let separator ← match separator with
        | none => see fun m => m.fieldSeparator
        | some (.pattern m) => pure (.pattern m)
        | some e => do separatorOf (← eval s fuel e)
      splitInto t (← tableOf v) separator
    | .substitute isGlobal p e target => do
      let m ← patternOf s fuel p
      let by_ ← textOf (← eval s fuel e)
      let spot ← locate s fuel target
      let t ← textOf (← spot.load)
      let (u, n) := substituted m by_ isGlobal (t.length + 2) 0 false none [] t
      if n > 0 then spot.store (.text u)
      pure (.ofNat n)
    | .find e p => do
      let t ← textOf (← eval s fuel e)
      let m ← patternOf s fuel p
      findIn t m
    | .read .main target => do
      let spot ← spotOf? s fuel target
      match ← nextRecord s mostTurns with
      | none => pure (.ofNat 0)
      | some t =>
        keepRecord true spot t
        pure (.ofNat 1)
    | .read (.file e) target => readFrom s fuel false e target
    | .read (.command e) target => readFrom s fuel true e target

/-- Reads a record of a file or a command. -/
def readFrom (s : Script) : Nat → Bool → Expr → Option Target → Running Value
  | 0, _, _, _ => pure .unset
  | fuel + 1, isCommand, e, target => do
    let name ← textOf (← eval s fuel e)
    let spot ← spotOf? s fuel target
    match ← recordFrom isCommand name with
    | .error () => pure (ofInt (-1))
    | .ok none => pure (.ofNat 0)
    | .ok (some t) =>
      keepRecord false spot t
      pure (.ofNat 1)

/-- The spot of a target, if there is one. -/
def spotOf? (s : Script) : Nat → Option Target → Running (Option Spot)
  | 0, _ => pure none
  | _ + 1, none => pure none
  | fuel + 1, some t => do pure (some (← locate s fuel t))

/-- The values of expressions. -/
def evalAll (s : Script) : Nat → List Expr → Running (List Value)
  | 0, _ => pure []
  | _ + 1, [] => pure []
  | fuel + 1, e :: rest => do
    let v ← eval s fuel e
    let l ← evalAll s fuel rest
    pure (v :: l)

/-- The key of expressions. -/
def keyOf (s : Script) : Nat → List Expr → Running Key
  | 0, _ => pure (.text [])
  | fuel + 1, [e] => do
    match ← eval s fuel e with
    | .text t | .input t => pure (.text t)
    | v => do pure (.ofValue (← textFormat) v)
  | fuel + 1, l => do
    let joint ← globalText Slot.keyJoint
    let texts ← (← evalAll s fuel l).mapM textOf
    pure (.text (Text.join joint texts))

/-- The spot of a target. -/
def locate (s : Script) : Nat → Target → Running Spot
  | 0, _ => pure .fieldCount
  | fuel + 1, t =>
    match t with
    | .variable_ v => pure (.variable_ v)
    | .fieldCount => pure .fieldCount
    | .field e => do
      let n ← fieldNumber (← eval s fuel e)
      if !e.isConstant then readyField n
      pure (.field n)
    | .element v keys => do
      let k ← keyOf s fuel keys
      let n ← tableOf v
      onTable n fun t => ((), t.use true k)
      pure (.element n k)

/-- The matcher of an expression where a pattern is wanted. -/
def patternOf (s : Script) : Nat → Expr → Running Regex.Matcher
  | 0, _ => matcherOf []
  | fuel + 1, e =>
    match e with
    | .pattern m => pure m
    | e => do matcherOf (← textOf (← eval s fuel e))

/-- What the variables of a function hold at first. Those before are given from the last one. -/
def cellsOf (s : Script) : Nat → List Bool → List Expr → List Cell → Running (Array Cell)
  | 0, _, _, done => pure done.reverse.toArray
  | _ + 1, [], _, done => pure done.reverse.toArray
  | fuel + 1, isTable :: rest, arguments, done => do
    let cell ← match isTable, arguments with
      | true, e :: _ => do pure (Cell.table (← tableArgument e))
      | true, [] => do pure (.table (← tableArgument (.constant .unset)))
      | false, e :: _ => do pure (.value (← eval s fuel e))
      | false, [] => pure (.value .unset)
    cellsOf s fuel rest (arguments.drop 1) (cell :: done)

/-- Does what a statement says. -/
def exec (s : Script) : Nat → Statement → Running Flow
  | 0, _ => giveUp "function call nested too deeply".toList
  | fuel + 1, statement =>
    match statement with
    | .evaluate e => do
      let _ ← eval s fuel e
      pure .on
    | .print values output => do
      let t ← match values with
        | [] => do
          let format ← globalText Slot.printFormat
          pure (printedText format (← wholeRecord))
        | l => do
          let l ← evalAll s fuel l
          let joint ← globalText Slot.fieldJoint
          let format ← globalText Slot.printFormat
          pure (Text.join joint (l.map (printedText format)))
      let ending ← globalText Slot.recordEnd
      write s fuel output (t ++ ending)
    | .printf values output => do
      let numbers ← textFormat
      let l ← evalAll s fuel values
      let format ← textOf (l.headD .unset)
      let (t, refusal) := Value.formatted numbers format (l.drop 1)
      let flow ← write s fuel output t
      match refusal with
      | some r => failHere (refusalText r "printf".toList format)
      | none => pure flow
    | .block l => execAll s fuel l
    | .choose c a b => do
      if (← eval s fuel c).isTrue then exec s fuel a else exec s fuel b
    | .loop c step body =>
      let condition := match c with
        | some c => do pure (← eval s fuel c).isTrue
        | none => pure true
      let step := match step with
        | some e => do
          let _ ← eval s fuel e
        | none => pure ()
      repeated condition step (exec s fuel body)
    | .atLeastOnce body c => do
      match (← exec s fuel body).turn with
      | .inr () => do
        let condition := do pure (← eval s fuel c).isTrue
        repeated condition (pure ()) (exec s fuel body)
      | .inl flow => pure flow
    | .each v table body => do
      let n ← tableOf table
      let keys ← onTable n Table.keys
      through v (exec s fuel body) keys
    | .leave => pure .leave
    | .again => pure .again
    | .next => pure .next
    | .nextFile => pure .nextFile
    | .exit e => do
      match e with
      | some e =>
        let n := (← eval s fuel e).toNumber.toShort
        Running.change fun m => { m with status := (Int.emod n 256).toNat }
      | none => pure ()
      stop .exit
    | .return_ e => do
      match e with
      | some e => do pure (.back (← eval s fuel e))
      | none => pure (.back .unset)
    | .delete v keys => do
      let n ← tableOf v
      match keys with
      | [] => setTable n .empty
      | keys =>
        let k ← keyOf s fuel keys
        onTable n fun t => ((), t.erase k)
      pure .on

/-- Writes where a statement says. -/
def write (s : Script) : Nat → Option (Way × Expr) → Text → Running Flow
  | 0, _, _ => pure .on
  | fuel + 1, output, t => do
    match output with
    | none => say t
    | some (way, e) =>
      let name ← textOf (← eval s fuel e)
      emit way name t
    pure .on

/-- Does statements one after the other. -/
def execAll (s : Script) : Nat → List Statement → Running Flow
  | 0, _ => pure .on
  | _ + 1, [] => pure .on
  | fuel + 1, statement :: rest => do
    match ← exec s fuel statement with
    | .on => execAll s fuel rest
    | flow => pure flow

end

/-! ### Rules -/

/-- Whether a rule is meant for the record. -/
def Condition.isMet (s : Script) (c : Condition) : Running Bool := do
  match c with
  | .always => pure true
  | .when e => do pure (← eval s mostTurns e).isTrue
  | .between first last n =>
    let isOpen ← see fun m => m.ranges.getD n false
    let begins ← if isOpen then pure true else do pure (← eval s mostTurns first).isTrue
    if !begins then pure false
    else
      let ends := (← eval s mostTurns last).isTrue
      Running.change fun m => { m with ranges := m.ranges.setIfInBounds n !ends }
      pure true

/-- Tries rules one after the other. -/
def applyRules (s : Script) : List Rule → Running Flow
  | [] => pure .on
  | r :: rest => do
    if ← r.condition.isMet s then
      match ← exec s mostTurns r.body with
      | .on => applyRules s rest
      | flow => pure flow
    else applyRules s rest

/-- Goes through the records. -/
def eachRecord (s : Script) : Running Unit :=
  let turn (_ : Unit) : Running (Unit ⊕ Unit) := do
    match ← nextRecord s mostTurns with
    | none => pure (.inl ())
    | some t =>
      countRecord
      setRecord (.input t)
      match ← applyRules s s.rules with
      | .nextFile => leaveFile
      | _ => pure ()
      pure (.inr ())
  iterate turn () mostTurns ()

/-- Does statements one after the other. -/
def runAll (s : Script) : List Statement → Running Unit
  | [] => pure ()
  | b :: rest => do
    let _ ← exec s mostTurns b
    runAll s rest

/-- Runs a script, and answers what has gone wrong. -/
def runScript (s : Script) (assignments : List (Text × Text)) : Running (Option Text) := do
  let start ← caught do
    assignments.forM fun (name, value) => assignNamed s name value
    runAll s s.before
    if !s.rules.isEmpty || !s.behind.isEmpty then eachRecord s
  let ending ← match start with
    | .error (.failure t) => pure (.error (.failure t))
    | _ => caught (runAll s s.behind)
  match ending with
  | .error (.failure t) => pure (some t)
  | _ => pure none

end Console.Host.Tool.Awk

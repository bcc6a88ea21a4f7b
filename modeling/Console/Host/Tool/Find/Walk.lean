import Console.Host.Tool.Find.Reading
import Console.Host.Tool.Starting

/-! The walk through trees of files: each place is asked, and directories are entered unless that is
    not wanted. Commands for many places at once wait until the end. -/

namespace Console.Host.Tool

open Work

namespace Find

/-- What a walk keeps in mind. -/
structure Walk where
  /-- Whether the place that was asked last is not to be entered. -/
  isPruned : Bool
  isOver : Bool
  /-- The paths that wait for commands, the last one first, with the directory for each group. -/
  waiting : List (Nat × Text × List Text)

/-- What is done on a walk. -/
abbrev Walking (α : Type) := StateT Walk Work α

/-- Does some work on a walk. -/
def onTheWay {α : Type} (w : Work α) : Walking α := fun st => do pure (← w, st)

/-- Writes to a descriptor. -/
def write (descriptor : Nat) (t : Text) : Work Unit :=
  if descriptor = 1 then say t else step (Prog.put descriptor t)

/-- Runs a command in a directory, or where the tool runs, and answers whether all was well. -/
def runIn (directory : Option Text) (isSilent : Bool) (words : List Text) : Work Bool := do
  let prepare : Work Unit := do
    if isSilent then withoutInput
    match directory with
    | none => pure ()
    | some d =>
      match ← look fun fs base => fs.locate base d true with
      | .ok n => step (Prog.act fun w => ((), w.updateSelf fun t => { t with directory := n }))
      | .error _ => pure ()
  let report (command : Text) (e : Files.Fault) : Text := quoted command ++ ": ".toList ++ e.wording
  let ending ← runCommand prepare report words (← environment)
  pure (ending == .exited 0)

/-- A path as it is seen from the directory of its last name. -/
def fromInside (path : Text) : Text :=
  match lastName path with
  | ['/'] => ['/']
  | name => ['.', '/'] ++ name

/-- Runs the commands that wait for many places. -/
def runWaiting (commands : Nat → Option (List Text × Bool)) : List (Nat × Text × List Text) →
    Work Unit
  | [] => pure ()
  | (n, directory, paths) :: rest => do
    match commands n with
    | none => pure ()
    | some (words, isInside) =>
      let isWell ← runIn (if isInside then some directory else none) false (words ++ paths.reverse)
      if !isWell then atLeast 1
    runWaiting commands rest

/-- Does something at a place, and answers whether it holds. -/
def Action.perform (a : Action) (p : Place) : Walking Bool := do
  match a with
  | .print d ending =>
    onTheWay (write d (p.path ++ [ending]))
    pure true
  | .format d t =>
    onTheWay do
      write d (← look fun fs base => formatted fs base p (t.length + 1) t)
    pure true
  | .list d =>
    onTheWay do
      write d (← look fun fs _ => longLine fs p)
    pure true
  | .delete =>
    if p.path = ['.'] then pure true
    else
      match ← onTheWay (change fun fs base =>
        if p.node.isDirectory then fs.removeDirectory base p.path else fs.unlink base p.path) with
      | .ok () => pure true
      | .error e =>
        onTheWay (complain 1 ("cannot delete ".toList ++ quoted p.path ++ ": ".toList ++ e.wording))
        pure false
  | .prune =>
    modify fun w => { w with isPruned := true }
    pure true
  | .quit =>
    modify fun w => { w with isOver := true }
    pure true
  | .run words isInside asks =>
    let path := if isInside then fromInside p.path else p.path
    let words := words.map fun w => replaceAll braces path (w.length + 1) w
    if asks then
      onTheWay do
        flush
        step (Prog.put 2 ("< ".toList ++ words.headD [] ++ " ... ".toList ++ p.path ++
          " > ? ".toList))
      pure false
    else onTheWay (runIn (if isInside then some (directoryOf p.path) else none) false words)
  | .gather n _ isInside =>
    let directory := if isInside then directoryOf p.path else []
    let path := if isInside then fromInside p.path else p.path
    let rec add : List (Nat × Text × List Text) → List (Nat × Text × List Text)
      | [] => [(n, directory, [path])]
      | (m, d, l) :: rest =>
        if m = n && d = directory then (m, d, path :: l) :: rest else (m, d, l) :: add rest
    modify fun w => { w with waiting := add w.waiting }
    pure true

/-- Asks and does what an expression says at a place, as far as its value needs that. -/
def Expression.value (p : Place) : Expression → Walking Bool
  | .ask q => do
    pure (← onTheWay (look fun fs base => q.holds fs base p))
  | .act a => a.perform p
  | .not e => do
    let b ← e.value p
    pure (if (← get).isOver then false else !b)
  | .both e f => do
    if ← e.value p then
      if (← get).isOver then pure false else f.value p
    else pure false
  | .either e f => do
    if ← e.value p then pure true
    else if (← get).isOver then pure false
    else f.value p
  | .behind e f => do
    let _ ← e.value p
    if (← get).isOver then pure false else f.value p

/-- The commands of an expression that wait for many places. -/
def Expression.commands : Expression → List (Nat × List Text × Bool)
  | .ask _ => []
  | .act (.gather n words isInside) => [(n, words, isInside)]
  | .act _ => []
  | .not e => e.commands
  | .both e f | .either e f | .behind e f => e.commands ++ f.commands

/-- What is still to be done on a walk. -/
inductive Errand where
  /-- Goes to a path, which was reached from an operand in so many steps. -/
  | visit (path start : Text) (depth : Nat)
  /-- Asks at a place whose entries have been seen. -/
  | leave (p : Place)

/-- Asks at a place if it is deep enough. -/
def askAt (s : Settings) (e : Expression) (p : Place) : Walking Unit := do
  modify fun w => { w with isPruned := false }
  if p.depth ≥ s.least then
    let _ ← e.value p

/-- The errands for the entries of a directory. If it cannot be entered, that is reported. -/
def enter (p : Place) : Walking (List Errand) := do
  match ← onTheWay (look fun fs base => namesIn fs base p.path) with
  | .ok names =>
    pure (names.map fun name => .visit (Files.joinPath p.path name) p.start (p.depth + 1))
  | .error e =>
    onTheWay (complain 1 (quoted p.path ++ ": ".toList ++ e.wording))
    pure []

/-- Does so many errands at most. -/
def walk (s : Settings) (e : Expression) : Nat → List Errand → Walking Unit
  | 0, _ => pure ()
  | _ + 1, [] => pure ()
  | fuel + 1, errand :: rest => do
    if (← get).isOver then pure ()
    else
      match errand with
      | .leave p => do
        askAt s e p
        walk s e fuel rest
      | .visit path start depth => do
        let follows := s.follows || (s.followsOperands && depth = 0)
        let found ← onTheWay do
          let own ← nodeAt path
          if follows then
            match ← nodeBehind path with
            | .ok r => pure (.ok r)
            | .error _ => pure own
          else pure own
        match found with
        | .error fault => do
          onTheWay (complain 1 (quoted path ++ ": ".toList ++ fault.wording))
          walk s e fuel rest
        | .ok (n, node) => do
          let p : Place := ⟨path, start, depth, n, node⟩
          let isEntered := node.isDirectory && s.most.all fun most => depth < most
          if s.isDeep then
            let below ← if isEntered then enter p else pure []
            walk s e fuel (below ++ .leave p :: rest)
          else
            askAt s e p
            let w ← get
            let below ← if isEntered && !w.isPruned && !w.isOver then enter p else pure []
            walk s e fuel (below ++ rest)

/-- How many errands there are at most. -/
def mostErrands : Nat := 1000000000

end Find

/-- Searches trees of files. -/
def find : Program :=
  tool usualManner fun arguments => do
    let (s, l) ← Find.leadingOptions Find.Settings.usual arguments
    let paths := l.takeWhile fun t => !Find.beginsExpression true t
    let words := l.drop paths.length
    let (tokens, s, _) ← (Find.tokens (words.length + 1)).run (s, words)
    match Find.expressionOf s.isPlain tokens with
    | .error e => giveUp e
    | .ok e =>
      let starts := if paths.isEmpty then [['.']] else paths
      let errands := starts.map fun t => Find.Errand.visit t t 0
      let ((), w) ← (Find.walk s e Find.mostErrands errands).run ⟨false, false, []⟩
      let commands := e.commands
      Find.runWaiting (fun n => (commands.find? fun (m, _) => m == n).map fun (_, r) => r) w.waiting

end Console.Host.Tool

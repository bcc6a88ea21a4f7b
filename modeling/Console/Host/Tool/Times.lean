import Console.Host.Tool.Clock
import Console.Host.Tool.Directories
import Console.Host.Tool.Repeated

/-! Tools for times: the current one and others in some format, and the times of files. -/

namespace Console.Host.Tool

open Work

/-- The current time, in nanoseconds. -/
def currentTime : Work Int := look fun fs _ => fs.now

/-- The time when a file was last changed. -/
def timeOf (file : Text) : Work (Except Files.Fault Int) := do
  pure ((← nodeBehind file).map fun (_, node) => node.modified)

/-- Writes the time. -/
def date : Program :=
  toolOf usualManner
    [valued 'd' "date", named "debug" .nothing, valued 'f' "file", ⟨some 'I', "iso-8601", .maybe⟩,
      valued 'r' "reference", flag 'R' "rfc-email", named "rfc-2822" .nothing,
      named "rfc-3339" .value, valued 's' "set", flag 'u' "utc", named "universal" .nothing,
      named "resolution" .nothing]
    fun g => do
      let now ← currentTime
      let iso ← match g.last? "iso-8601" with
        | none => pure none
        | some [] => pure (some "date")
        | some t => do
          pure (some (← chosen "iso-8601" ["hours", "minutes", "date", "seconds", "ns"] t))
      let rfc ← match g.last? "rfc-3339" with
        | none => pure none
        | some t => do pure (some (← chosen "rfc-3339" ["date", "seconds", "ns"] t))
      let format : Text ← match g.operands with
        | [] => pure []
        | ['+' :: t] => pure t
        | [t] => giveUp ("invalid date ".toList ++ quoted t)
        | _ :: extra :: _ => misuse ("extra operand ".toList ++ quoted extra)
      let shown : String := match iso, rfc with
        | some "hours", _ => "%Y-%m-%dT%H%:z"
        | some "minutes", _ => "%Y-%m-%dT%H:%M%:z"
        | some "seconds", _ => "%Y-%m-%dT%H:%M:%S%:z"
        | some "ns", _ => "%Y-%m-%dT%H:%M:%S,%N%:z"
        | some _, _ => "%Y-%m-%d"
        | none, some "seconds" => "%Y-%m-%d %H:%M:%S%:z"
        | none, some "ns" => "%Y-%m-%d %H:%M:%S.%N%:z"
        | none, some _ => "%Y-%m-%d"
        | none, none =>
          if g.has "rfc-email" || g.has "rfc-2822" then "%a, %d %b %Y %H:%M:%S %z"
          else "%a %b %e %H:%M:%S %Z %Y"
      let format := if g.operands.isEmpty then shown.toList else format
      let written (n : Int) : Work Unit :=
        sayLine (Clock.formatted (Clock.Moment.ofNanoseconds n) format)
      let read (t : Text) : Work Unit := do
        match Clock.ofText? now t with
        | some n => written n
        | none => complain 1 ("invalid date ".toList ++ quoted t)
      match g.last? "date", g.last? "reference", g.last? "file" with
      | some t, _, _ => read t
      | none, some file, _ =>
        match ← timeOf file with
        | .ok n => written n
        | .error e => giveUp (faultOf file e.wording)
      | none, none, some file =>
        match ← contents file with
        | .ok t => (linesOf t).forM read
        | .error e => giveUp (faultOf file e)
      | none, none, none => written now

/-- The time that a stamp of digits stands for. -/
def stamp? (now : Int) (t : Text) : Option Int := do
  let digits := t.takeWhile Char.isDigit
  let seconds ← match t.drop digits.length with
    | [] => pure 0
    | ['.', a, b] => if a.isDigit && b.isDigit then pure (Numeral.value 10 0 [a, b]) else none
    | _ => none
  let front := digits.take (digits.length - 8)
  let rest := digits.drop (digits.length - 8)
  let year : Int ← match front.length with
    | 0 => pure (Clock.Moment.ofNanoseconds now).day.year
    | 2 | 4 => pure (Clock.yearOf front)
    | _ => none
  let part (n : Nat) : Nat := Numeral.value 10 0 ((rest.drop n).take 2)
  if rest.length != 8 || part 4 > 23 || part 6 > 59 then none
  else
    let day ← Clock.day? year (part 0) (part 2)
    pure ((day.number * Clock.daySeconds + (part 4 * 3600 + part 6 * 60 + seconds : Nat)) *
      Clock.second)

/-- Makes files that are missing, and sets the times of the others. -/
def touch : Program :=
  toolOf usualManner
    [flag 'a' "", flag 'c' "no-create", valued 'd' "date", flag 'f' "", flag 'h' "no-dereference",
      flag 'm' "", valued 'r' "reference", valued 't' "", named "time" .value]
    fun g => do
      let now ← currentTime
      let reference ← match g.last? "reference" with
        | none => pure none
        | some file =>
          match ← timeOf file with
          | .ok n => pure (some n)
          | .error e =>
            giveUp ("failed to get attributes of ".toList ++ quotedName file ++ ": ".toList ++
              e.wording)
      let time ← match g.last? "date", g.last? "t" with
        | some t, _ =>
          match Clock.ofText? (reference.getD now) t with
          | some n => pure n
          | none => giveUp ("invalid date format ".toList ++ quoted t)
        | none, some t =>
          match stamp? now t with
          | some n => pure n
          | none => giveUp ("invalid date format ".toList ++ quoted t)
        | none, none => pure (reference.getD now)
      if g.operands.isEmpty then misuse "missing file operand".toList
      let setsModified := !g.has "a" || g.has "m"
      g.operands.forM fun file => do
        let isThere ← do pure (← nodeBehind file).toOption.isSome
        let made : Except Files.Fault Unit ← if isThere || g.has "no-create" then pure (.ok ())
          else do
            match ← step (Prog.open_ 3 file
                { Wanted.overwriting with makes := true } Prog.openMode) with
            | .ok d =>
              step (Prog.close d)
              pure (.ok ())
            | .error e => pure (.error e)
        match made with
        | .error .isDirectory =>
          complain 1 ("setting times of ".toList ++ quotedName file ++
            ": No such file or directory".toList)
        | .error e =>
          complain 1 ("cannot touch ".toList ++ quotedName file ++ ": ".toList ++ e.wording)
        | .ok () =>
          if setsModified then
            let _ ← change fun fs base => do
              let n ← fs.locate base file !(g.has "no-dereference")
              pure (fs.setModified n time)

end Console.Host.Tool

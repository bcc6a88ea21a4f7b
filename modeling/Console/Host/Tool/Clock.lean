import Console.Host.Numeral

/-! Dates of the calendar: the seconds since the beginning of 1970 as years, months and days, dates
    as formats write them, and the dates that texts stand for. -/

namespace Console.Host.Tool.Clock

/-! ### Days -/

/-- A day of the calendar. -/
structure Day where
  year : Int
  month : Nat
  day : Nat
  deriving DecidableEq, Repr

/-- The number of a day, counted from the first one of 1970. Years begin with March here, so that
    the day that leap years add is the last one. -/
def Day.number (d : Day) : Int :=
  let year := if d.month ≤ 2 then d.year - 1 else d.year
  let era := Int.fdiv year 400
  let yearOfEra := year - era * 400
  let shifted : Int := if d.month > 2 then d.month - 3 else d.month + 9
  let dayOfYear := (153 * shifted + 2) / 5 + d.day - 1
  let dayOfEra := yearOfEra * 365 + yearOfEra / 4 - yearOfEra / 100 + dayOfYear
  era * 146097 + dayOfEra - 719468

/-- The day of a number. -/
def Day.ofNumber (n : Int) : Day :=
  let n := n + 719468
  let era := Int.fdiv n 146097
  let dayOfEra := n - era * 146097
  let yearOfEra := (dayOfEra - dayOfEra / 1460 + dayOfEra / 36524 - dayOfEra / 146096) / 365
  let dayOfYear := dayOfEra - (365 * yearOfEra + yearOfEra / 4 - yearOfEra / 100)
  let shifted := (5 * dayOfYear + 2) / 153
  let day := dayOfYear - (153 * shifted + 2) / 5 + 1
  let month := if shifted < 10 then shifted + 3 else shifted - 9
  let year := yearOfEra + era * 400
  ⟨if month ≤ 2 then year + 1 else year, month.toNat, day.toNat⟩

/-- The day of the week of a day by its number, from Sunday on. -/
def weekday (n : Int) : Nat := (Int.emod (n + 4) 7).toNat

/-- The number of the day in its year, from zero on. -/
def Day.ofYear (d : Day) : Nat := (d.number - (⟨d.year, 1, 1⟩ : Day).number).toNat

/-- The year and the week of a day, where weeks begin with Monday and belong to the year in which
    most of their days are. -/
def Day.isoWeek (d : Day) : Int × Nat :=
  let n := d.number
  let thursday := n - ((weekday n + 6) % 7 : Nat) + 3
  let year := (Day.ofNumber thursday).year
  (year, ((thursday - (⟨year, 1, 1⟩ : Day).number) / 7 + 1).toNat)

/-! ### Names -/

/-- The names of the days of the week. -/
def weekdays : List String :=
  ["Sunday", "Monday", "Tuesday", "Wednesday", "Thursday", "Friday", "Saturday"]

/-- The names of the months. -/
def months : List String :=
  ["January", "February", "March", "April", "May", "June", "July", "August", "September", "October",
    "November", "December"]

/-- The place of a name among names, of which the first three letters are enough. -/
def placeOf? (names : List String) (t : Text) : Option Nat :=
  let t := Text.lowerAscii t
  if t.length < 3 then none
  else names.findIdx? fun n =>
    let n := Text.lowerAscii n.toList
    n == t || n.take 3 == t || t.isPrefixOf n && t.length == 4

/-! ### Moments -/

/-- A second in nanoseconds. -/
def second : Int := 1000000000

/-- The seconds of a day. -/
def daySeconds : Int := 86400

/-- A moment taken apart. -/
structure Moment where
  /-- The seconds since the beginning of 1970. -/
  seconds : Int
  nanoseconds : Nat
  day : Day
  hour : Nat
  minute : Nat
  second : Nat

/-- A moment from its nanoseconds since the beginning of 1970. -/
def Moment.ofNanoseconds (n : Int) : Moment :=
  let seconds := Int.fdiv n Clock.second
  let number := Int.fdiv seconds daySeconds
  let rest := (seconds - number * daySeconds).toNat
  ⟨seconds, (n - seconds * Clock.second).toNat, Day.ofNumber number, rest / 3600, rest / 60 % 60,
    rest % 60⟩

/-! ### Formats -/

/-- How a number or a name in a format is changed: the sign of what fills it up, its width, and
    whether letters are large or change their case. -/
structure Style where
  pad : Option Char
  width : Nat
  upper : Bool
  swaps : Bool

/-- A number filled up to a width with some character, unless the style says otherwise. -/
def Style.number (s : Style) (pad : Char) (width : Nat) (n : Int) : Text :=
  let digits := Text.ofNat n.natAbs
  let sign : Text := if n < 0 then ['-'] else []
  match s.pad with
  | some '-' => sign ++ digits
  | some '_' => (sign ++ digits).leftpad (max width s.width) ' '
  | some '+' | some '0' => sign ++ digits.leftpad (max width s.width - sign.length) '0'
  | _ =>
    let wide := max width s.width
    if pad = ' ' then (sign ++ digits).leftpad wide ' '
    else sign ++ digits.leftpad (wide - sign.length) '0'

/-- A text in the case and the width that the style says. -/
def Style.text (s : Style) (t : Text) : Text :=
  let t := if s.upper then t.map Char.toUpper
    else if s.swaps then
      (if t.all fun c => !c.isLower then t.map Char.toLower else t.map Char.toUpper)
    else t
  t.leftpad s.width (if s.pad = some '0' then '0' else ' ')

/-- The first three letters of a name. -/
def short (names : List String) (n : Nat) : Text := ((names[n]?).getD "").toList.take 3

/-- What a letter of a format stands for. -/
def directive (m : Moment) (s : Style) (letter : Char) : Option Text :=
  let n := m.day.number
  let name (l : List String) (i : Nat) : Text := ((l[i]?).getD "").toList
  let two (k : Nat) : Text := s.number '0' 2 k
  let plain : Style := ⟨none, 0, false, false⟩
  let twoOf (k : Nat) : Text := plain.number '0' 2 k
  let time := twoOf m.hour ++ ':' :: twoOf m.minute ++ ':' :: twoOf m.second
  let hour12 := if m.hour % 12 = 0 then 12 else m.hour % 12
  let half : Text := if m.hour < 12 then "AM".toList else "PM".toList
  let year (k : Int) : Text := plain.number '0' 2 (Int.emod k 100)
  let (isoYear, isoWeek) := m.day.isoWeek
  match letter with
  | '%' => some (s.text ['%'])
  | 'n' => some (s.text ['\n'])
  | 't' => some (s.text ['\t'])
  | 'a' => some (s.text (short weekdays (weekday n)))
  | 'A' => some (s.text (name weekdays (weekday n)))
  | 'b' | 'h' => some (s.text (short months (m.day.month - 1)))
  | 'B' => some (s.text (name months (m.day.month - 1)))
  | 'c' =>
    some (s.text (short weekdays (weekday n) ++ ' ' :: short months (m.day.month - 1) ++ ' ' ::
      plain.number ' ' 2 m.day.day ++ ' ' :: time ++ ' ' :: Text.ofInt m.day.year))
  | 'C' => some (s.number '0' 2 (Int.fdiv m.day.year 100))
  | 'd' => some (two m.day.day)
  | 'D' | 'x' =>
    some (s.text (twoOf m.day.month ++ '/' :: twoOf m.day.day ++ '/' :: year m.day.year))
  | 'e' => some (s.number ' ' 2 m.day.day)
  | 'F' =>
    let rest := '-' :: twoOf m.day.month ++ '-' :: twoOf m.day.day
    some ({ s with width := s.width - rest.length }.number '0' 4 m.day.year ++ rest)
  | 'g' => some (s.number '0' 2 (Int.emod isoYear 100))
  | 'G' => some (s.number '0' 4 isoYear)
  | 'H' => some (two m.hour)
  | 'I' => some (two hour12)
  | 'j' => some (s.number '0' 3 (m.day.ofYear + 1 : Nat))
  | 'k' => some (s.number ' ' 2 m.hour)
  | 'l' => some (s.number ' ' 2 hour12)
  | 'm' => some (two m.day.month)
  | 'M' => some (two m.minute)
  | 'N' =>
    let digits := (Text.ofNat m.nanoseconds).leftpad 9 '0'
    some (if s.width = 0 then digits else (digits.take s.width).rightpad s.width '0')
  | 'p' => some (s.text half)
  | 'P' => some (s.text (Text.lowerAscii half))
  | 'q' => some (s.number '0' 1 ((m.day.month - 1) / 3 + 1 : Nat))
  | 'r' => some (s.text (twoOf hour12 ++ time.drop 2 ++ ' ' :: half))
  | 'R' => some (s.text (time.take 5))
  | 's' => some (s.number '0' 1 m.seconds)
  | 'S' => some (two m.second)
  | 'T' | 'X' => some (s.text time)
  | 'u' => some (s.number '0' 1 (if weekday n = 0 then 7 else weekday n : Nat))
  | 'U' => some (two ((m.day.ofYear + 7 - weekday n) / 7))
  | 'V' => some (two isoWeek)
  | 'w' => some (s.number '0' 1 (weekday n))
  | 'W' => some (two ((m.day.ofYear + 7 - (weekday n + 6) % 7) / 7))
  | 'y' => some (s.number '0' 2 (Int.emod m.day.year 100))
  | 'Y' => some (s.number '0' 4 m.day.year)
  | 'z' => some "+0000".toList
  | 'Z' => some (s.text (if s.swaps then "utc".toList.map Char.toUpper else "UTC".toList))
  | _ => none

/-- Reads signs of style in front of a letter. -/
def styleOf : Style → Text → Style × Text
  | s, c :: rest =>
    if "-_0+".toList.elem c then styleOf { s with pad := some c } rest
    else if c = '^' then styleOf { s with upper := true } rest
    else if c = '#' then styleOf { s with swaps := true } rest
    else (s, c :: rest)
  | s, [] => (s, [])

/-- A moment as a format says. -/
def format (m : Moment) : Nat → Text → Text
  | 0, _ => []
  | _ + 1, [] => []
  | fuel + 1, '%' :: rest =>
    let (s, t) := styleOf ⟨none, 0, false, false⟩ rest
    let digits := t.takeWhile Char.isDigit
    let s := { s with width := Numeral.value 10 0 digits }
    let t := t.drop digits.length
    match t with
    | ':' :: ':' :: 'z' :: more => "+00:00:00".toList ++ format m fuel more
    | ':' :: 'z' :: more => "+00:00".toList ++ format m fuel more
    | letter :: more =>
      match directive m s letter with
      | some u => u ++ format m fuel more
      | none => '%' :: format m fuel rest
    | [] => '%' :: format m fuel rest
  | fuel + 1, c :: rest => c :: format m fuel rest

/-- A moment as a format says. -/
def formatted (m : Moment) (t : Text) : Text := format m (t.length + 1) t

/-! ### Reading -/

/-- What a text says about a moment: a day, a time of the day, the shift of its zone, and by what it
    is then moved. -/
structure Said where
  day : Option Day
  /-- The seconds of the day and the nanoseconds. -/
  time : Option (Int × Nat)
  zone : Int
  weekday : Option (Nat × Int)
  years : Int
  months : Int
  seconds : Int
  isRelative : Bool

/-- The seconds of a unit of time. -/
def unitSeconds? (t : Text) : Option Int :=
  let t := Text.lowerAscii t
  let t := if t.length > 1 && t.getLast? = some 's' then t.dropLast else t
  match String.ofList t with
  | "sec" | "second" => some 1
  | "min" | "minute" => some 60
  | "hour" => some 3600
  | "day" => some 86400
  | "week" => some 604800
  | "fortnight" => some 1209600
  | _ => none

/-- Moves a moment by a number of some unit. -/
def Said.moved? (s : Said) (n : Int) (unit : Text) : Option Said :=
  let s := { s with isRelative := true }
  match unitSeconds? unit with
  | some k => some { s with seconds := s.seconds + n * k }
  | none =>
    let t := Text.lowerAscii unit
    if t = "month".toList || t = "months".toList then some { s with months := s.months + n }
    else if t = "year".toList || t = "years".toList then some { s with years := s.years + n }
    else none

/-- A shift of a zone in front of which a sign stands. -/
def zone? (t : Text) : Option Int :=
  match t with
  | sign :: rest =>
    let digits := rest.filter (· != ':')
    if (sign != '+' && sign != '-') || !digits.all Char.isDigit then none
    else
      let n : Int := Numeral.value 10 0 digits
      let shift := if digits.length ≤ 2 then n * 3600 else n / 100 * 3600 + n % 100 * 60
      if digits.isEmpty || digits.length > 4 then none
      else some (if sign = '-' then -shift else shift)
  | [] => none

/-- A time of the day with colons, and the zone behind it. -/
def time? (t : Text) : Option ((Int × Nat) × Option Int) := do
  let clock := t.takeWhile fun c => c.isDigit || c == ':' || c == '.'
  let rest := t.drop clock.length
  let zone ← match rest with
    | [] => pure none
    | ['Z'] | ['z'] => pure (some 0)
    | rest => (zone? rest).map some
  let parts := Text.splitOn ':' clock
  let number (t : Text) : Option Int := (Text.toNat? t).map Int.ofNat
  let seconds (t : Text) : Option (Int × Nat) := do
    let whole := t.takeWhile (· != '.')
    let places := (t.drop (whole.length + 1)).take 9
    let n ← number whole
    pure (n, Numeral.value 10 0 (places.rightpad 9 '0'))
  let (h, m, (s, nano)) ← match parts with
    | [h, m] => do pure (← number h, ← number m, ((0 : Int), 0))
    | [h, m, s] => do pure (← number h, ← number m, ← seconds s)
    | _ => none
  if h < 24 && m < 60 && s ≤ 60 then pure ((h * 3600 + m * 60 + s, nano), zone) else none

/-- The number of days of a month. -/
def monthLength (year : Int) (month : Nat) : Nat :=
  let next : Day := if month ≥ 12 then ⟨year + 1, 1, 1⟩ else ⟨year, month + 1, 1⟩
  (next.number - (⟨year, month, 1⟩ : Day).number).toNat

/-- A day, if it is in the calendar. -/
def day? (year : Int) (month day : Nat) : Option Day :=
  if 1 ≤ month && month ≤ 12 && 1 ≤ day && day ≤ monthLength year month then
    some ⟨year, month, day⟩
  else none

/-- A year of which the last two digits can be enough. -/
def yearOf (digits : Text) : Int :=
  let n : Int := Numeral.value 10 0 digits
  if digits.length ≤ 2 then if n < 69 then n + 2000 else n + 1900 else n

/-- A day in numbers. -/
def numericDay? (now : Day) (t : Text) : Option Day :=
  let isNumber (u : Text) : Bool := !u.isEmpty && u.all Char.isDigit
  let value (u : Text) : Nat := Numeral.value 10 0 u
  match Text.splitOn '-' t, Text.splitOn '/' t with
  | [y, m, d], _ =>
    if isNumber y && isNumber m && isNumber d then day? (yearOf y) (value m) (value d) else none
  | _, [a, b, c] =>
    if !(isNumber a && isNumber b && isNumber c) then none
    else if a.length ≥ 4 then day? (yearOf a) (value b) (value c)
    else day? (yearOf c) (value a) (value b)
  | _, [a, b] =>
    if isNumber a && isNumber b then day? now.year (value a) (value b) else none
  | _, _ =>
    if isNumber t && t.length = 8 then
      day? (yearOf (t.take 4)) (value ((t.drop 4).take 2)) (value (t.drop 6))
    else if isNumber t && t.length = 6 then
      day? (yearOf (t.take 2)) (value ((t.drop 2).take 2)) (value (t.drop 4))
    else none

/-- What a word means that stands for a moment by itself. -/
def Said.word? (s : Said) (t : Text) : Option Said :=
  match String.ofList (Text.lowerAscii t) with
  | "now" | "today" => some { s with isRelative := true }
  | "yesterday" => s.moved? (-1) "day".toList
  | "tomorrow" => s.moved? 1 "day".toList
  | "z" | "utc" | "gmt" | "ut" => some { s with zone := 0 }
  | _ => none

/-- Reads the words of a text. -/
def read (now : Day) : Nat → Said → List Text → Option Said
  | 0, _, _ => none
  | _ + 1, s, [] => some s
  | fuel + 1, s, t :: rest =>
    let go (s : Said) (rest : List Text) : Option Said := read now fuel s rest
    let bare := t.filter (· != ',')
    let month := placeOf? months bare
    let number (u : Text) : Option Nat := Text.toNat? (u.filter (· != ','))
    match s.word? t, t, rest with
    | some s, _, rest => go s rest
    | none, sign :: digits, rest =>
      if sign = '+' || sign = '-' then
        let (digits, rest) := match digits, rest with
          | [], u :: rest => (u, rest)
          | digits, rest => (digits, rest)
        let number := digits.takeWhile Char.isDigit
        let unit := digits.drop number.length
        let n : Int := if number.isEmpty then 1 else Numeral.value 10 0 number
        let n := if sign = '-' then -n else n
        match unit, rest with
        | [], u :: more =>
          match s.moved? n u with
          | some s => go s more
          | none => (zone? t).bind fun z => go { s with zone := z } rest
        | [], [] => (zone? t).bind fun z => go { s with zone := z } []
        | unit, rest =>
          match s.moved? n unit with
          | some s => go s rest
          | none => (zone? t).bind fun z => go { s with zone := z } rest
      else if sign = '@' then
        let (negative, digits) := Numeral.sign digits
        let whole := digits.takeWhile Char.isDigit
        let rest' := digits.drop whole.length
        let places := match rest' with
          | '.' :: p => p
          | _ => []
        let hasPlaces := places.all Char.isDigit && rest'.head? = some '.'
        if whole.isEmpty || !(rest'.isEmpty || hasPlaces) then none
        else
          let n : Int := Numeral.value 10 0 whole
          let nano := Numeral.value 10 0 ((places.take 9).rightpad 9 '0')
          let n := if negative then -n else n
          go { s with
            day := some ⟨1970, 1, 1⟩, time := some (0, nano), zone := 0,
            seconds := s.seconds + n } rest
      else
        match numericDay? now t, time? t with
        | some d, _ => go { s with day := some d } rest
        | none, some (clock, zone) =>
          let (clock, rest) : (Int × Nat) × List Text := match rest with
            | u :: more =>
              let hour := clock.1 / 3600
              let half := String.ofList (Text.lowerAscii (u.filter (· != '.')))
              if half = "am" then
                ((if hour = 12 then clock.1 - 43200 else clock.1, clock.2), more)
              else if half = "pm" then
                ((if hour = 12 then clock.1 else clock.1 + 43200, clock.2), more)
              else (clock, rest)
            | [] => (clock, rest)
          go { s with time := some clock, zone := zone.getD s.zone } rest
        | none, none =>
          match month, rest with
          | some m, d :: y :: more =>
            match number d, number y with
            | some d, some year =>
              if y.length = 4 then
                (day? year (m + 1) d).bind fun day => go { s with day := some day } more
              else
                (day? now.year (m + 1) d).bind fun day => go { s with day := some day } (y :: more)
            | some d, none =>
              (day? now.year (m + 1) d).bind fun day => go { s with day := some day } (y :: more)
            | none, _ => none
          | some m, [d] =>
            (number d).bind fun d => (day? now.year (m + 1) d).bind fun day =>
              go { s with day := some day } []
          | _, _ =>
            let half := Text.lowerAscii (t.dropWhile Char.isDigit)
            let digits := t.takeWhile Char.isDigit
            match placeOf? weekdays bare, Text.toNat? digits with
            | some w, _ => go { s with weekday := some (w, 0) } rest
            | none, some n =>
              if half = "am".toList || half = "pm".toList then
                let h : Int := (n % 12 + (if half = "pm".toList then 12 else 0) : Nat)
                if n ≤ 12 then go { s with time := some (h * 3600, 0) } rest else none
              else if !half.isEmpty then (s.moved? n half).bind fun s => ago fuel s n half rest
              else
                match rest with
                | u :: more =>
                  match placeOf? months u with
                  | some m =>
                    let (year, more) : Int × List Text := match more with
                      | y :: rest =>
                        match number y with
                        | some year => if y.length = 4 then (year, rest) else (now.year, more)
                        | none => (now.year, more)
                      | [] => (now.year, more)
                    (day? year (m + 1) n).bind fun day => go { s with day := some day } more
                  | none => (s.moved? n u).bind fun s => ago fuel s n u more
                | [] =>
                  if digits.length ≤ 2 && n < 24 then go { s with time := some (n * 3600, 0) } []
                  else if digits.length = 4 && n / 100 < 24 && n % 100 < 60 then
                    go { s with time := some ((n / 100 * 3600 + n % 100 * 60 : Nat), 0) } []
                  else none
            | none, none =>
              match String.ofList (Text.lowerAscii t), rest with
              | "next", u :: more => step fuel s 1 u more
              | "last", u :: more => step fuel s (-1) u more
              | "this", u :: more => step fuel s 0 u more
              | _, _ => none
    | none, [], rest => go s rest
where
  /-- Goes on behind a unit, which counts backwards if the word for it follows. -/
  ago (fuel : Nat) (s : Said) (n : Int) (unit : Text) (rest : List Text) : Option Said :=
    match rest with
    | u :: more =>
      if Text.lowerAscii u = "ago".toList then
        (s.moved? (-2 * n) unit).bind fun s => read now fuel s more
      else read now fuel s rest
    | [] => read now fuel s []
  /-- Goes on behind a word for the next or the last unit or day of the week. -/
  step (fuel : Nat) (s : Said) (n : Int) (unit : Text) (rest : List Text) : Option Said :=
    match placeOf? weekdays unit with
    | some w => read now fuel { s with weekday := some (w, n) } rest
    | none => (s.moved? n unit).bind fun s => read now fuel s rest

/-- The moment that has been said, in nanoseconds. -/
def Said.moment (s : Said) (now : Int) : Int :=
  let m := Moment.ofNanoseconds now
  let day := s.day.getD m.day
  let isFixed := s.day.isSome || s.weekday.isSome
  let (clock, nano) : Int × Nat := match s.time with
    | some t => t
    | none =>
      if isFixed then (0, 0)
      else (m.hour * 3600 + m.minute * 60 + m.second, m.nanoseconds)
  let months := (day.year + s.years) * 12 + (day.month - 1 : Nat) + s.months
  let first : Day := ⟨Int.fdiv months 12, (Int.emod months 12).toNat + 1, 1⟩
  let number := first.number + (day.day - 1 : Nat)
  let number := match s.weekday with
    | some (w, n) =>
      if s.day.isSome then number
      else
        let ahead := (w + 7 - Clock.weekday number) % 7
        let weeks : Int := if n > 0 && ahead ≠ 0 then n - 1 else n
        number + ahead + 7 * weeks
    | none => number
  ((number * daySeconds + clock - s.zone + s.seconds) * second) + nano

/-- The moment that a text stands for, in nanoseconds. -/
def ofText? (now : Int) (t : Text) : Option Int :=
  let today := (Moment.ofNanoseconds now).day
  let rec spaced : Text → Text
    | a :: 'T' :: b :: rest =>
      if a.isDigit && b.isDigit then a :: ' ' :: spaced (b :: rest)
      else a :: spaced ('T' :: b :: rest)
    | a :: rest => a :: spaced rest
    | [] => []
  let blanked := (spaced t).map fun c => if Numeral.isSpace c then ' ' else c
  let words := (Text.splitOn ' ' blanked).filter fun w => !w.isEmpty
  let start : Said := ⟨none, none, 0, none, 0, 0, 0, false⟩
  if words.isEmpty then some ({ start with day := some today }.moment now)
  else (read today (words.length + 1) start words).map fun s => s.moment now

end Console.Host.Tool.Clock

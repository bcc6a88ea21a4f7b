import Console.Host.Source

/-! Reading scripts. A script is read line by line, so that a line runs before a fault in a later
    one is found. Words are read by where they stand, in quotes or in braces, and the commands
    among them by the same readers as all others. -/

namespace Console.Host

open Reader

/-- More steps than a script takes to be read. -/
def plenty : Nat := 1000000000000

/-- The characters that end a word outside quotes. -/
def isDelimiter (c : Char) : Bool := " \t\n;&|<>()".toList.contains c

/-- Where the parts of a word stand. -/
inductive Within where
  | bare
  | quotes
  /-- The operand of a parameter in braces. -/
  | braces (inQuotes inDocument : Bool)
  /-- An arithmetic expression, inside so many parentheses of its own. -/
  | sum (depth : Nat)
  /-- A line of a document. -/
  | document
  /-- The mark at the end of a document, in quotes or not. -/
  | mark (inQuotes : Bool)
  deriving DecidableEq, Repr

/-- Whether characters stand for themselves there. -/
def Within.isQuoted : Within → Bool
  | .quotes | .braces true _ | .sum _ | .document | .mark true => true
  | _ => false

/-- What is missing if the script ends there. -/
def Within.missing? : Within → Option Misreading
  | .bare | .document | .mark false => none
  | .quotes | .mark true | .braces true false => some .unterminatedQuote
  | .braces _ _ => some (.missing ['\x7d'])
  | .sum _ => some (.missing "))".toList)

/-- Whether a backslash hides a character there. -/
def Within.escapes (w : Within) (c : Char) : Bool :=
  !w.isQuoted || c == '\\' || c == '\x60' || c == '$' ||
    (c == '"' && w != .document) ||
    (c == '\x7d' && match w with
      | .braces _ _ => true
      | _ => false)

/-- Puts a part behind others, which are given from the last one. -/
def addPart : List Part → Part → List Part
  | .plain s :: rest, .plain t => .plain (s ++ t) :: rest
  | .quoted s :: rest, .quoted t => .quoted (s ++ t) :: rest
  | parts, part => part :: parts

/-- Characters that stand for themselves. -/
def literal (w : Within) (t : Text) : Part := if w.isQuoted then .quoted t else .plain t

/-- The characters up to the end of a run without meaning, and the rest. -/
def plainRun (w : Within) : Text → Text
  | [] => []
  | c :: rest =>
    let isOrdinary := c.isAlphanum || c == '_' || c == '.' || c == ',' || c == '/' || c == '-' ||
      c == '+' || c == ':' || c == '=' || c == '%' || c == '@' || (w.isQuoted && c == ' ')
    if isOrdinary then c :: plainRun w rest else []

/-- The text of a mark. -/
def markText (w : Word) : Text :=
  w.flatMap fun
    | .plain t | .quoted t => t
    | _ => []

/-- The text in backquotes; a backslash keeps its meaning only before a few characters. -/
def backquoted (inQuotes : Bool) : Nat → Reader Text
  | 0 => pure []
  | fuel + 1 => do
    match ← peekJoined plenty with
    | none => fail .unterminatedBackquote
    | some '\x60' =>
      skip
      pure []
    | some '\\' =>
      skip
      match ← peek with
      | none => fail .unterminatedBackquote
      | some c =>
        skip
        let rest ← backquoted inQuotes fuel
        if c == '\\' || c == '\x60' || c == '$' || (inQuotes && c == '"') then pure (c :: rest)
        else pure ('\\' :: c :: rest)
    | some c =>
      skip
      pure (c :: (← backquoted inQuotes fuel))

/-- What is looked for where a token is read. -/
structure Sought where
  /-- Whether newlines are skipped. -/
  beyondLines : Bool
  keywords : Bool
  aliases : Bool
  /-- Whether the word is the mark of a document. -/
  isMark : Bool

/-- A token that is taken as it is. -/
def anything : Sought := ⟨false, false, false, false⟩

/-- A token with which a command can begin. -/
def beginning : Sought := ⟨true, true, true, false⟩

/-- A token behind which a command goes on. -/
def goingOn : Sought := ⟨false, true, true, false⟩

/-- The first word of a simple command. -/
def leadingWord : Sought := ⟨false, false, true, false⟩

/-- Takes a sign of one or two characters, of which the first has been seen. -/
def doubled (c : Char) : Reader Token := do
  skip
  if (← peekJoined plenty) = some c then
    skip
    pure (.sign [c, c])
  else pure (.sign [c])

/-- Takes the sign of a redirection behind its first character. -/
def redirectionSign (digits : Text) (first : Char) : Reader Token := do
  skip
  let second ← peekJoined plenty
  let two (c : Char) : Reader Text := do
    skip
    pure [first, c]
  let sign ← match first, second with
    | '>', some '>' | '>', some '&' | '>', some '|' | '<', some '&' | '<', some '>' =>
      two (second.getD ' ')
    | '<', some '<' => do
      let t ← two '<'
      if (← peekJoined plenty) = some '-' then
        skip
        pure (t ++ ['-'])
      else pure t
    | _, _ => pure [first]
  let usual := if first = '>' then 1 else 0
  pure (.redirection ((Text.toNat? digits).getD usual) sign)

/-! ### The grammar -/

mutual

/-- Reads the parts up to the end of where they stand, and puts them behind others. -/
def parts : Nat → Within → List Part → Reader (List Part)
  | 0, w, _ => fail (w.missing?.getD .unterminatedQuote)
  | fuel + 1, w, before => do
    let run := plainRun w (← get).rest
    if !run.isEmpty then
      let _ ← peek
      run.forM fun _ => skip
      return ← parts fuel w (addPart before (literal w run))
    match ← peekJoined plenty with
    | none =>
      match w.missing? with
      | some cause => fail cause
      | none => pure before.reverse
    | some c =>
      let itself : Reader (List Part) := do
        skip
        parts fuel w (addPart before (literal w [c]))
      let finished : Reader (List Part) := do
        skip
        pure before.reverse
      match w, c with
      | .quotes, '"' | .mark true, '"' | .braces _ _, '\x7d' => finished
      | .document, '\n' =>
        skip
        pure (addPart before (.quoted ['\n'])).reverse
      | .sum depth, '(' =>
        skip
        parts fuel (.sum (depth + 1)) (addPart before (.quoted ['(']))
      | .sum (depth + 1), ')' =>
        skip
        parts fuel (.sum depth) (addPart before (.quoted [')']))
      | .sum 0, ')' =>
        skip
        if (← peekJoined plenty) = some ')' then finished
        else parts fuel w (addPart before (.quoted [')']))
      | _, '\\' =>
        skip
        match ← peek with
        | none => parts fuel w (addPart before (.quoted ['\\']))
        | some d =>
          skip
          let t := if w.escapes d then [d] else ['\\', d]
          parts fuel w (addPart before (.quoted t))
      | _, '\'' =>
        if w.isQuoted then itself
        else
          skip
          let t ← takeUntil (· == '\'')
          match ← peek with
          | none => fail .unterminatedQuote
          | some _ =>
            skip
            parts fuel w (addPart before (.quoted t))
      | .document, '"' | .sum _, '"' => itself
      | .mark false, '"' =>
        skip
        let l ← parts fuel (.mark true) []
        parts fuel w (addPart before (.quoted (markText l)))
      | _, '"' =>
        skip
        let l ← parts fuel .quotes []
        -- All positional parameters and nothing else can be no field at all.
        let l := match l with
          | [.parameter ['@'] .value _] => l
          | l => .quoted [] :: l
        parts fuel w (l.foldl addPart before)
      | .mark _, '$' | .mark _, '\x60' => itself
      | _, '$' =>
        skip
        let l ← dollar fuel w
        parts fuel w (addPart before l)
      | _, '\x60' =>
        skip
        let l ← oldSubstitution fuel w.isQuoted
        parts fuel w (addPart before l)
      | _, _ =>
        if (w = .bare || w = .mark false) && isDelimiter c then pure before.reverse else itself

/-- Reads the script in backquotes. What its commands leave of it is dropped. -/
def oldSubstitution : Nat → Bool → Reader Part
  | 0, _ => fail .unterminatedBackquote
  | fuel + 1, inQuotes => do
    let t ← backquoted inQuotes plenty
    let outer ← get
    let inner := Source.ofText t outer.aliases outer.nextDocument
    set { inner with
      blocked := outer.insets.map Inset.name ++ outer.blocked, documents := outer.documents }
    let commands ← list fuel true true
    let inner ← get
    set { outer with documents := inner.documents, nextDocument := inner.nextDocument }
    pure (.output commands inQuotes)

/-- Reads what follows a dollar sign. -/
def dollar : Nat → Within → Reader Part
  | 0, w => pure (literal w ['$'])
  | fuel + 1, w => do
    let inQuotes := w.isQuoted
    match ← peekJoined plenty with
    | some '(' =>
      skip
      if (← peekJoined plenty) = some '(' then
        skip
        let l ← parts fuel (.sum 0) []
        pure (.arithmetic l inQuotes)
      else
        let outer ← get
        set { outer with awaited := [], isBack := false }
        let commands ← list fuel true true
        let token ← readToken fuel anything
        if !token.isSign ")" then expecting ")"
        modify fun s => { s with awaited := outer.awaited, isBack := false }
        pure (.output commands inQuotes)
    | some '\x7b' =>
      skip
      inBraces fuel w
    | some c =>
      if isNameStart c then pure (.parameter (← takeWhile isNameChar plenty) .value inQuotes)
      else if c.isDigit || isSpecial c then
        skip
        pure (.parameter [c] .value inQuotes)
      else pure (literal w ['$'])
    | none => pure (literal w ['$'])

/-- Reads a parameter in braces. -/
def inBraces : Nat → Within → Reader Part
  | 0, _ => fail (.missing ['\x7d'])
  | fuel + 1, w => do
    let inQuotes := w.isQuoted
    let inDocument := match w with
      | .document | .braces _ true => true
      | _ => false
    let ahead : Reader (Option Char) := peekJoined plenty
    let operand (name : Text) (use : List Part → Use) : Reader Part := do
      let l ← parts fuel (.braces inQuotes inDocument) []
      pure (.parameter name (use l) inQuotes)
    let malformed (name : Text) : Reader Part := operand name fun _ => .malformed
    let pattern (name : Text) (c : Char) : Reader Part := do
      skip
      let longest := (← ahead) = some c
      if longest then skip
      let l ← parts fuel (.braces false inDocument) []
      pure (.parameter name (.without (c == '%') longest l) inQuotes)
    let behind (name : Text) : Reader Part := do
      let filled := (← ahead) = some ':'
      if filled then skip
      match ← ahead with
      | some '\x7d' =>
        skip
        pure (.parameter name .value inQuotes)
      | some '-' => do skip; operand name (.orElse filled)
      | some '=' => do skip; operand name (.orAssign filled)
      | some '?' => do skip; operand name (.orFail filled)
      | some '+' => do skip; operand name (.ifSet filled)
      | some c =>
        if !filled && (c = '%' || c = '#') then pattern name c
        else
          skip
          malformed name
      | none => malformed name
    let named : Reader Text := do
      match ← ahead with
      | some c =>
        if isNameStart c then takeWhile isNameChar plenty
        else if c.isDigit then takeWhile Char.isDigit plenty
        else pure []
      | none => pure []
    let length (name : Text) : Reader Part := do
      if (← ahead) = some '\x7d' then
        skip
        pure (.parameter name .length inQuotes)
      else malformed name
    match ← named with
    | name@(_ :: _) => behind name
    | [] =>
      match ← ahead with
      | none | some '\x7d' => malformed []
      | some '#' =>
        skip
        match ← named with
        | name@(_ :: _) => length name
        | [] =>
          match ← ahead with
          | none | some '\x7d' => behind ['#']
          | some c =>
            let before ← get
            skip
            if (← ahead) = some '\x7d' then
              if isSpecial c then length [c] else malformed []
            else
              set before
              behind ['#']
      | some c =>
        skip
        if isSpecial c then behind [c] else malformed []

/-- Reads a word, or the beginning of a redirection. -/
def wordOrRedirection : Nat → Bool → Reader Token
  | 0, _ => pure .endOfText
  | fuel + 1, isMark => do
    let start := (← get).line
    let w ← tryCatch (parts fuel (if isMark then .mark false else .bare) []) fun e =>
      match e.cause with
      | .unterminatedQuote => throw { e with line := start }
      | .missing ['\x7d'] => throw { e with line := start }
      | _ => throw e
    let digits? : Option Text := match plainText? w with
      | some [] => some []
      | some [d] => if d.isDigit then some [d] else none
      | _ => none
    match digits?, ← peek with
    | some digits, some '>' => redirectionSign digits '>'
    | some digits, some '<' => redirectionSign digits '<'
    | _, _ => pure (.word w)

/-- Reads a token by its characters alone. -/
def scan : Nat → Bool → Reader Token
  | 0, _ => pure .endOfText
  | fuel + 1, isMark => do
    if (← get).isBack then
      modify fun s => { s with isBack := false }
      return (← get).last
    match ← peekJoined plenty with
    | none => pure .endOfText
    | some c =>
      if c == ' ' || c == '\t' then
        skip
        scan fuel isMark
      else if c == '#' then
        let _ ← takeUntil (· == '\n')
        scan fuel isMark
      else if c == '\n' then
        skip
        pure .newline
      else if c == '&' || c == '|' || c == ';' then doubled c
      else if c == '(' || c == ')' then
        skip
        pure (.sign [c])
      else
        let token ← wordOrRedirection fuel isMark
        if let .word w := token then modify fun s => { s with lastWord := w }
        pure token

/-- Reads tokens up to the first that is no newline. -/
def scanBeyond : Nat → Bool → Reader Token
  | 0, _ => pure .endOfText
  | fuel + 1, isMark => do
    match ← scan fuel isMark with
    | .newline =>
      readDocuments fuel
      scanBeyond fuel isMark
    | token => pure token

/-- Reads a token. A word in quotes is neither reserved nor an alias. -/
def readToken : Nat → Sought → Reader Token
  | 0, _ => pure .endOfText
  | fuel + 1, sought => do
    let token ← if sought.beyondLines then scanBeyond fuel sought.isMark
      else scan fuel sought.isMark
    let s ← get
    let aliases := sought.aliases || s.aliasNext
    set { s with last := token, aliasNext := false }
    match token with
    | .word w =>
      match if hasQuotes w then none else plainText? w with
      | none => pure token
      | some t =>
        if sought.keywords && reserved.contains t then
          modify fun s => { s with last := .keyword t }
          pure (.keyword t)
        else if aliases then
          match ← aliasValue? t with
          | none => pure token
          | some value =>
            if !value.isEmpty then inset t value
            readToken fuel { sought with aliases := aliases }
        else pure token
    | _ => pure token

/-- Reads the lines of a document up to its mark. -/
def documentLines : Nat → Awaited → List Part → Reader (List Part)
  | 0, _, before => pure before.reverse
  | fuel + 1, a, before => do
    if a.dropsTabs then
      let _ ← takeUntil (· != '\t')
    let rest := (← get).rest
    match a.mark.isPrefixOf? rest with
    | some [] =>
      let _ ← takeUntil fun _ => false
      return before.reverse
    | some ('\n' :: _) =>
      let _ ← takeUntil (· == '\n')
      skip
      return before.reverse
    | _ =>
      if rest.isEmpty then return before.reverse
      let line ← if a.expands then parts fuel .document [] else do
        let t ← takeUntil (· == '\n')
        if (← peek).isSome then
          skip
          pure [.quoted (t ++ ['\n'])]
        else pure [.quoted t]
      documentLines fuel a (line.foldl addPart before)

/-- Reads the documents that begin here. -/
def readDocuments : Nat → Reader Unit
  | 0 => pure ()
  | fuel + 1 => do
    let s ← get
    match s.awaited with
    | [] => pure ()
    | a :: others =>
      set { s with awaited := [] }
      let l ← documentLines fuel a []
      modify fun s => { s with documents := (a.number, l) :: s.documents, awaited := others }
      readDocuments fuel

/-- Reads the word of a redirection behind its sign. -/
def redirectionOf : Nat → Nat → Text → Reader Redirection
  | 0, d, _ => pure (.copy d [])
  | fuel + 1, d, sign => do
    let isDocument := "<<".toList.isPrefixOf sign
    match ← readToken fuel { anything with isMark := isDocument } with
    | .word w =>
      match String.ofList sign with
      | "<" => pure (.input d w)
      | ">" => pure (.output d w false)
      | ">|" => pure (.output d w true)
      | ">>" => pure (.append d w)
      | "<>" => pure (.update d w)
      | ">&" | "<&" => pure (.copy d w)
      | _ =>
        let n := (← get).nextDocument
        let a : Awaited := ⟨n, markText w, sign.getLast? = some '-', !hasQuotes w⟩
        modify fun s => { s with nextDocument := n + 1, awaited := s.awaited ++ [a] }
        pure (.document d n)
    | _ => unexpected none

/-- Reads the redirections behind a command. Only right behind it can a reserved word stand. -/
def redirections : Nat → Sought → Reader (List Redirection)
  | 0, _ => pure []
  | fuel + 1, sought => do
    match ← readToken fuel sought with
    | .redirection d sign =>
      let r ← redirectionOf fuel d sign
      pure (r :: (← redirections fuel anything))
    | _ =>
      giveBack
      pure []

/-- Reads the rest of a simple command, or the definition of a function. -/
def simple : Nat → Nat → List (Text × Word) → List Word → List Redirection → Reader Command
  | 0, line, _, _, _ => pure (.simple line [] [] [])
  | fuel + 1, line, assignments, words, rs => do
    match ← readToken fuel (if words.isEmpty then leadingWord else anything) with
    | .word w =>
      match if words.isEmpty then assignment? w else none with
      | some a => simple fuel line (assignments ++ [a]) words rs
      | none => simple fuel line assignments (words ++ [w]) rs
    | .redirection d sign =>
      let r ← redirectionOf fuel d sign
      simple fuel line assignments words (rs ++ [r])
    | token =>
      match token.isSign "(", assignments, words, rs with
      | true, [], [w], [] =>
        let closing ← readToken fuel anything
        if !closing.isSign ")" then expecting ")"
        match if hasQuotes w then none else plainText? w with
        | some name =>
          if !isName name || specialNames.contains name then fail .badFunctionName
          let start := (← get).line
          let _ ← readToken fuel beginning
          giveBack
          pure (.function start name (← command fuel start))
        | none => fail .badFunctionName
      | _, _, _, _ =>
        giveBack
        pure (.simple line assignments words rs)

/-- Reads a command, whose first token has been read. One of several words stands on a line that
    is known. -/
def command : Nat → Nat → Reader Command
  | 0, _ => pure (.group [])
  | fuel + 1, line => do
    let token ← readToken fuel anything
    let closedBy (s : String) (c : Command) : Reader Command := do
      let end_ ← readToken fuel anything
      if !(end_.isKeyword s || end_.isSign s) then expecting s
      pure c
    let withRedirections (c : Command) : Reader Command := do
      match c, ← redirections fuel goingOn with
      | c, [] => pure c
      | .subshell line body _, rs => pure (.subshell line body rs)
      | c, rs => pure (.redirected line c rs)
    match token with
    | .word _ | .redirection _ _ =>
      giveBack
      simple fuel (← get).line [] [] []
    | .sign ['('] =>
      let body ← list fuel false true
      withRedirections (← closedBy ")" (.subshell line body []))
    | .keyword t =>
      match String.ofList t with
      | "\x7b" =>
        let body ← list fuel false true
        withRedirections (← closedBy "\x7d" (.group body))
      | "if" => withRedirections (← branches fuel)
      | "while" | "until" =>
        let condition ← list fuel false true
        if !(← readToken fuel anything).isKeyword "do" then expecting "do"
        let body ← list fuel false true
        withRedirections (← closedBy "done" (.loop (t == "until".toList) condition body))
      | "for" => withRedirections (← forLoop fuel line)
      | "case" =>
        match ← readToken fuel anything with
        | .word w =>
          if !(← readToken fuel beginning).isKeyword "in" then expecting "in"
          withRedirections (.choice line w (← clauses fuel))
        | _ => unexpected (some "word".toList)
      | _ => unexpected none
    | _ => unexpected none

/-- Reads the branches behind `if`, up to `fi`. -/
def branches : Nat → Reader Command
  | 0 => pure (.group [])
  | fuel + 1 => do
    let condition ← list fuel false true
    if !(← readToken fuel anything).isKeyword "then" then expecting "then"
    let yes ← list fuel false true
    let token ← readToken fuel anything
    if token.isKeyword "elif" then
      let no ← branches fuel
      pure (.branch condition yes [no])
    else
      let no ← if token.isKeyword "else" then list fuel false true else do
        giveBack
        pure []
      if !(← readToken fuel anything).isKeyword "fi" then expecting "fi"
      pure (.branch condition yes no)

/-- Reads a loop over words. -/
def forLoop : Nat → Nat → Reader Command
  | 0, _ => pure (.group [])
  | fuel + 1, line => do
    let name ← match ← readToken fuel anything with
      | .word w =>
        match if hasQuotes w then none else plainText? w with
        | some name => if isName name then pure name else fail .badLoopVariable
        | none => fail .badLoopVariable
      | _ => fail .badLoopVariable
    let token ← readToken fuel beginning
    let words ← if token.isKeyword "in" then do
        let ws ← wordsOf fuel
        match (← get).last with
        | .newline | .sign [';'] => pure (some ws)
        | _ => unexpected none
      else do
        if !token.isSign ";" then giveBack
        pure none
    if !(← readToken fuel beginning).isKeyword "do" then expecting "do"
    let body ← list fuel false true
    if !(← readToken fuel anything).isKeyword "done" then expecting "done"
    pure (.each line name words body)

/-- Reads words up to the first token that is none. -/
def wordsOf : Nat → Reader (List Word)
  | 0 => pure []
  | fuel + 1 => do
    match ← readToken fuel anything with
    | .word w => pure (w :: (← wordsOf fuel))
    | _ => pure []

/-- Reads the clauses of a choice up to `esac`. -/
def clauses : Nat → Reader (List (List Word × List Command))
  | 0 => pure []
  | fuel + 1 => do
    let token ← readToken fuel { beginning with aliases := false }
    if token.isKeyword "esac" then return []
    if token.isSign "(" then
      let _ ← readToken fuel anything
    let patterns ← patternsOf fuel
    if !(← get).last.isSign ")" then expecting ")"
    let body ← list fuel true true
    let token ← readToken fuel { beginning with aliases := false }
    if token.isKeyword "esac" then pure [(patterns, body)]
    else if token.isSign ";;" then pure ((patterns, body) :: (← clauses fuel))
    else expecting ";;"

/-- Reads the patterns of a clause behind the first token; each one is the word that was read last,
    and the first token behind them has been read. -/
def patternsOf : Nat → Reader (List Word)
  | 0 => pure []
  | fuel + 1 => do
    let w := (← get).lastWord
    if (← readToken fuel anything).isSign "|" then
      let _ ← readToken fuel anything
      pure (w :: (← patternsOf fuel))
    else pure [w]

/-- Reads the commands behind a pipe, as many as there are. -/
def piped : Nat → Reader (List Command)
  | 0 => pure []
  | fuel + 1 => do
    if (← readToken fuel anything).isSign "|" then
      let line := (← get).line
      let _ ← readToken fuel beginning
      giveBack
      let c ← command fuel line
      pure (c :: (← piped fuel))
    else
      giveBack
      pure []

/-- Reads a pipeline, which an exclamation mark negates. The first token has been read. -/
def pipeline : Nat → Reader Command
  | 0 => pure (.group [])
  | fuel + 1 => do
    let negates := (← get).last.isKeyword "!"
    if negates then
      let _ ← readToken fuel anything
      let _ ← readToken fuel goingOn
      giveBack
    let first ← command fuel (← get).line
    let c ← match ← piped fuel with
      | [] => pure first
      | others => pure (.pipeline (first :: others))
    pure (if negates then .negated c else c)

/-- Reads pipelines joined by `&&` and `||`, which bind to the left. -/
def joined : Nat → Command → Reader Command
  | 0, c => pure c
  | fuel + 1, c => do
    let token ← readToken fuel anything
    let next : Reader Command := do
      let _ ← readToken fuel beginning
      giveBack
      pipeline fuel
    if token.isSign "&&" then joined fuel (.both c (← next))
    else if token.isSign "||" then joined fuel (.either c (← next))
    else
      giveBack
      pure c

/-- Reads commands up to where a list ends. In a list within others newlines are skipped, and only
    where it may be empty can it end at once. -/
def list : Nat → Bool → Bool → Reader (List Command)
  | 0, _, _ => pure []
  | fuel + 1, mayEnd, isWithin => do
    let token ← readToken fuel { beginning with beyondLines := isWithin }
    match token with
    | .newline =>
      readDocuments fuel
      return []
    | .endOfText =>
      readDocuments fuel
      modify fun s => { s with last := .endOfText, isBack := true }
      return []
    | _ => pure ()
    giveBack
    if isWithin && mayEnd && token.endsList then return []
    let c ← joined fuel (← pipeline fuel)
    let line := (← get).line
    let token ← readToken fuel anything
    let c := if token.isSign "&" then .background line c else c
    match token with
    | .endOfText =>
      readDocuments fuel
      modify fun s => { s with last := .endOfText, isBack := true }
      pure [c]
    | .newline =>
      giveBack
      pure (c :: (← list fuel true isWithin))
    | token =>
      if token.isSign "&" || token.isSign ";" then pure (c :: (← list fuel true isWithin))
      else
        if !isWithin then unexpected none
        giveBack
        pure [c]

end

/-- The next line of a script, or none at its end. A line can hold no commands. -/
def nextLine (s : Source) : Except SyntaxFault (Option (List Command) × Source) := do
  let s := { s with isBack := false, awaited := [] }
  let (l, s) ← (list plenty true false).run s
  match l, s.last with
  | [], .endOfText => pure (none, s)
  | l, _ => pure (some l, s)

end Console.Host

import Console.Host.Tool.Awk.Number
import Console.Host.Tool.Awk.Pattern

/-! Tokens of scripts over records. A newline ends a statement unless something has to follow, a
    slash begins a pattern where no operand stands before it, and an angle behind what is printed
    leads to a file. -/

namespace Console.Host.Tool.Awk

/-- What is wrong with a script. -/
inductive Fault where
  | unexpected (c : Char)
  /-- Something that is opened by a mark and never ends. -/
  | runaway (kind mark start : Text)
  | extra (c : Char)
  | overflow (numeral : Text)
  | near (token : Text)
  | missing (closing : Char) (token : Text)
  | pattern (fault : Pattern.Fault) (source : Text)
  | wrongNumber (function : Text)
  | noArguments (statement : Text)
  | tooMany (function : Text)
  /-- A name that is used as something that it is not. -/
  | reference (kind name : Text)
  | argument (number : Nat) (function actual formal : Text)
  | returnOutside
  | misplaced (word : Text)
  | loopOutside (word : Text)
  | redefined (function : Text)
  | duplicated (parameter : Text)
  | neverDefined (function : Text)
  | ownParameter

/-- The wording of a fault. -/
def Fault.message : Fault → Text
  | .unexpected c => "unexpected character '".toList ++ c :: "'".toList
  | .runaway kind mark start => "runaway ".toList ++ kind ++ [' '] ++ mark ++ start ++ " ...".toList
  | .extra c => "extra '".toList ++ c :: "'".toList
  | .overflow numeral => numeral ++ " : decimal overflow".toList
  | .near token => "syntax error at or near ".toList ++ token
  | .missing c token => "missing ".toList ++ c :: " near ".toList ++ token
  | .pattern f source =>
    "regular expression compile failed (".toList ++ f.message.toList ++ ")\n".toList ++ source
  | .wrongNumber f => "wrong number of arguments in call to ".toList ++ f
  | .noArguments s => "no arguments in call to ".toList ++ s
  | .tooMany f => "too many arguments in call to ".toList ++ f
  | .reference kind name => "illegal reference to ".toList ++ kind ++ ' ' :: name
  | .argument n f actual formal =>
    "type error in arg(".toList ++ Text.ofNat n ++ ") in call to ".toList ++ f ++
      " (actual ".toList ++ actual ++ " vs ".toList ++ formal ++ [')']
  | .returnOutside => "return outside function body".toList
  | .misplaced word => "improper use of ".toList ++ word
  | .loopOutside word => word ++ " statement outside of loop".toList
  | .redefined f => "redefinition of ".toList ++ f
  | .duplicated p => p ++ " is duplicated in argument list".toList
  | .neverDefined f => "function ".toList ++ f ++ " never defined".toList
  | .ownParameter => "function parameter cannot be the function".toList

/-- A fault at a line. -/
structure Complaint where
  line : Nat
  fault : Fault

/-- The wording of a complaint. -/
def Complaint.message (c : Complaint) : Text :=
  let isBare := match c.fault with
    | .unexpected _ => true
    | _ => false
  (if isBare then [] else "line ".toList) ++ Text.ofNat c.line ++ ": ".toList ++ c.fault.message

/-- A token. -/
inductive Token where
  | number (x : Number)
  | text (t : Text)
  | pattern (source : Text)
  /-- A word, and whether a parenthesis stands right behind it. -/
  | word (name : Text) (isCalled : Bool)
  | sign (s : String)
  /-- A sign behind which it is said where the output goes. -/
  | output (s : String)
  | newline
  /-- A semicolon, which can be missing before a closing brace. -/
  | semicolon (isSupplied : Bool)
  | finish
  | wrong (f : Fault)

/-- Whether a token is a word. -/
def Token.isWord (token : Token) (w : String) : Bool :=
  match token with
  | .word name _ => name == w.toList
  | _ => false

/-- Whether a token is a sign. -/
def Token.isSign (token : Token) (s : String) : Bool :=
  match token with
  | .sign w => w == s
  | _ => false

/-- A token of a line, as it is spelled. -/
structure Spotted where
  token : Token
  line : Nat
  spelling : Text

/-! ### Words -/

/-- The words that begin statements or parts of them. -/
def keywords : List String :=
  ["print", "printf", "do", "while", "for", "break", "continue", "if", "else", "in", "delete",
    "getline", "exit", "next", "nextfile", "return", "BEGIN", "END", "function"]

/-- The names of functions that every script has. -/
def builtinNames : List String :=
  ["length", "substr", "index", "split", "sub", "gsub", "match", "sprintf", "int", "sqrt", "exp",
    "log", "sin", "cos", "atan2", "rand", "srand", "tolower", "toupper", "system", "close",
    "fflush", "systime", "mktime", "strftime"]

/-- Whether an operand can end with a token, so that a slash behind it divides. -/
def Token.endsOperand : Token → Bool
  | .number _ | .text _ | .pattern _ => true
  | .word name _ =>
    let name := String.ofList name
    name == "getline" || !keywords.contains name && !builtinNames.contains name
  | .sign s => s == ")" || s == "]"
  | _ => false

/-- Whether a token counts up or down. A character behind a slash is lost there. -/
def Token.counts : Token → Bool
  | .sign s => s == "++" || s == "--"
  | _ => false

/-- Whether a token separates statements, so that a closing brace needs no semicolon before it. -/
def Token.separates : Token → Bool
  | .newline | .semicolon _ => true
  | .sign s => s == "\x7d"
  | _ => false

/-! ### Texts -/

/-- A text in which escapes are replaced. Unknown ones keep their backslashes. -/
def unescaped : Nat → Text → Text
  | 0, t => t
  | _ + 1, [] => []
  | fuel + 1, '\\' :: rest =>
    match rest with
    | [] => ['\\']
    | c :: _ =>
      let next := rest.drop 1
      let isHexadecimal := c == 'x' && next.head?.any (Numeral.isDigit 16)
      let isKnown := "abfnrtv\\\"".toList.elem c || Numeral.isDigit 8 c || isHexadecimal
      if isKnown then
        let (d, rest) := Pattern.escape rest
        d :: unescaped fuel rest
      else '\\' :: c :: unescaped fuel next
  | fuel + 1, c :: rest => c :: unescaped fuel rest

/-- A text with its escapes replaced. -/
def withoutEscapes (t : Text) : Text :=
  if t.elem '\\' then unescaped (t.length + 1) t else t

/-- The inside of a text up to its closing quote, from its end, with the number of newlines that are
    hidden in it. A newline that is not hidden ends it without success. -/
def quotedInside (done : Text) (lines : Nat) : Text → Text × Nat × Option Text
  | [] => (done, lines, none)
  | '"' :: rest => (done, lines, some rest)
  | '\n' :: _ => (done, lines, none)
  | '\\' :: '\n' :: rest => quotedInside done (lines + 1) rest
  | '\\' :: c :: rest => quotedInside (c :: '\\' :: done) lines rest
  | c :: rest => quotedInside (c :: done) lines rest

/-- Where a pattern is while it is read: outside brackets, right behind an opening one, or farther
    in them. -/
inductive Zone where
  | outside
  | opening
  | inside
  deriving DecidableEq, Repr

/-- The inside of a pattern up to its closing slash, from its end. -/
def patternInside (zone : Zone) (done : Text) : Text → Text × Option Text
  | [] => (done, none)
  | '\n' :: _ => (done, none)
  | '\\' :: '/' :: rest => patternInside zone ('/' :: done) rest
  | '\\' :: c :: rest =>
    if c = '\n' then (done, none)
    else patternInside (if zone = .outside then .outside else .inside) (c :: '\\' :: done) rest
  | c :: rest =>
    if c = '/' && zone = .outside then (done, some rest)
    else
      let zone : Zone := match zone, c with
        | .outside, '[' => .opening
        | .outside, _ => .outside
        | .opening, '^' => .opening
        | .opening, _ => .inside
        | .inside, ']' => .outside
        | .inside, _ => .inside
      patternInside zone (c :: done) rest

/-- How much of what never ends is shown. -/
def shownSize : Nat := 10

/-- The numeral at the beginning of a text. -/
def numeralLength (t : Text) : Nat :=
  let whole := (t.takeWhile Char.isDigit).length
  let places := match t.drop whole with
    | '.' :: rest => 1 + (rest.takeWhile Char.isDigit).length
    | _ => 0
  let size := whole + places
  match t.drop size with
  | c :: rest =>
    let sign := if rest.head?.any fun c => c == '+' || c == '-' then 1 else 0
    let digits := ((rest.drop sign).takeWhile Char.isDigit).length
    if (c == 'e' || c == 'E') && digits > 0 then size + 1 + sign + digits else size
  | [] => size

/-! ### Blanks -/

/-- Whether a character can stand in a word. -/
def isWordChar (c : Char) : Bool := c.isAlphanum || c == '_'

/-- Drops blanks and comments, and newlines that are hidden or unwanted, counting lines. -/
def skipBlanks (acrossLines inComment : Bool) (line : Nat) : Text → Nat × Text
  | [] => (line, [])
  | '\n' :: rest =>
    if acrossLines then skipBlanks acrossLines false (line + 1) rest else (line, '\n' :: rest)
  | c :: rest =>
    if inComment then skipBlanks acrossLines true line rest
    else if c = '#' then skipBlanks acrossLines true line rest
    else if Numeral.isSpace c then skipBlanks acrossLines false line rest
    else
      match c, rest with
      | '\\', '\n' :: more => skipBlanks acrossLines false (line + 1) more
      | c, rest => (line, c :: rest)

/-- Drops blanks and newlines. -/
def skipLines (line : Nat) (t : Text) : Nat × Text := skipBlanks true false line t

/-! ### Tokens -/

/-- The signs, of which the longest one counts that fits. -/
def signs : List String :=
  ["&&", "||", "==", "!=", "!~", "<=", ">=", "++", "--", "+=", "-=", "*=", "%=", "^=", "+", "-",
    "*", "%", "^", "<", ">", "=", "!", "~", "?", ":", ",", "$", "(", ")", "[", "]", "|", "\x7b"]

/-- What is known of the text before a token. -/
structure Scan where
  line : Nat
  parens : Nat
  braces : Nat
  /-- Whether the output of a statement can still be led somewhere. -/
  prints : Bool
  last : Token

/-- A sign at the beginning of a text. -/
def takeSign? (s : Scan) (t : Text) : Option (Token × Text) :=
  let isOutput := s.prints && s.parens == 0
  match isOutput, t with
  | true, '>' :: '>' :: rest => some (.output ">>", rest)
  | true, '>' :: rest => some (.output ">", rest)
  | _, '|' :: '|' :: rest => some (.sign "||", rest)
  | true, '|' :: rest => some (.output "|", rest)
  | _, t =>
    (signs.find? fun w => w.toList.isPrefixOf t).map fun w => (.sign w, t.drop w.length)

/-- What is known behind a sign, and whether newlines behind it are dropped. -/
def Scan.behindSign (s : Scan) (w : String) : Scan × Bool :=
  match w with
  | "(" => ({ s with parens := s.parens + 1 }, false)
  | ")" => ({ s with parens := s.parens - 1 }, false)
  | "\x7b" => ({ s with braces := s.braces + 1, prints := false }, true)
  | "&&" | "||" | "," => (s, true)
  | _ => (s, false)

/-- The rest behind a closing brace: behind the outermost one a semicolon in the same line is
    dropped, and then newlines. -/
def behindBrace (isOutermost : Bool) (line : Nat) (t : Text) : Nat × Text :=
  let (line', rest) := skipBlanks false false line t
  match isOutermost, rest with
  | true, ';' :: rest => skipLines line' rest
  | _, _ => skipLines line t

/-- The token at the beginning of a text without blanks, with what is known behind it. -/
def takeToken (s : Scan) (t : Text) : Token × Scan × Text :=
  let s' : Scan := { s with prints := false }
  match t with
  | [] => (.finish, s, [])
  | '\n' :: rest =>
    let (line, rest) := skipLines (s.line + 1) rest
    (.newline, { s' with line := line }, rest)
  | ';' :: rest =>
    let (line, rest) := skipLines s.line rest
    (.semicolon false, { s' with line := line }, rest)
  | '\x7d' :: rest =>
    if s.braces = 0 then
      let (_, behind) := skipBlanks false false s.line rest
      (.wrong (.extra '\x7d'), s, if behind.head? = some ';' then behind.drop 1 else rest)
    else if !s.last.separates then (.semicolon true, s', t)
    else
      let braces := s.braces - 1
      let (line, rest) := behindBrace (braces == 0) s.line rest
      (.sign "\x7d", { s' with line := line, braces := braces }, rest)
  | '"' :: rest =>
    let (done, lines, rest?) := quotedInside [] 0 rest
    match rest? with
    | some rest => (.text (withoutEscapes done.reverse), { s with line := s.line + lines }, rest)
    | none =>
      (.wrong (.runaway "string constant".toList ['"'] (done.reverse.take shownSize)), s, [])
  | c :: rest =>
    let isNumber := c.isDigit || c == '.' && rest.head?.any Char.isDigit
    if isNumber then
      let numeral := t.take (numeralLength t)
      let rest := t.drop numeral.length
      match Number.ofText numeral with
      | .real x =>
        if x.isInf then (.wrong (.overflow numeral), { s with last := .number (.real x) }, rest)
        else (.number (.real x), s, rest)
      | x => (.number x, s, rest)
    else if isWordChar c then
      let name := t.takeWhile isWordChar
      let rest := t.drop name.length
      let w := String.ofList name
      let prints := s.prints || w == "print" || w == "printf"
      let isFront := w == "do" || w == "else"
      let (line, behind) := if isFront then skipLines s.line rest else (s.line, rest)
      (.word name (rest.head? = some '('), { s with line := line, prints := prints }, behind)
    else if c = '/' && !s.last.endsOperand then
      let dropsFirst := s.last.counts && rest.head? != some '='
      let (done, rest?) := patternInside .outside [] (if dropsFirst then rest.drop 1 else rest)
      match rest? with
      | some rest => (.pattern done.reverse, s, rest)
      | none =>
        let kind := "regular expression".toList
        (.wrong (.runaway kind ['/'] (done.reverse.take shownSize)), s, [])
    else if c = '/' then
      match rest with
      | '=' :: rest => (.sign "/=", s, rest)
      | rest => (.sign "/", s, rest)
    else
      match takeSign? s t with
      | none => (.wrong (.unexpected c), s, [])
      | some (.output w, rest) => (.output w, s', rest)
      | some (.sign w, rest) =>
        if w == ")" && s.parens == 0 then (.wrong (.extra ')'), s, rest)
        else
          let (s, dropsLines) := s.behindSign w
          let (line, rest) := if dropsLines then skipLines s.line rest else (s.line, rest)
          (.sign w, { s with line := line }, rest)
      | some (token, rest) => (token, s, rest)

/-- A token as it is spelled. -/
def Token.spelled (token : Token) (t rest : Text) : Text :=
  match token with
  | .newline => "end of line".toList
  | .semicolon isSupplied => if isSupplied then ['\x7d'] else [';']
  | .finish => "end of file".toList
  | .sign s | .output s => s.toList
  | .text t | .pattern t => t
  | .word name _ => name
  | .number _ => t.take (t.length - rest.length)
  | .wrong _ => []

/-- The tokens of a text, so many at most. -/
def tokensFrom : Nat → Scan → Text → List Spotted
  | 0, _, _ => []
  | fuel + 1, s, t =>
    let (line, t) := skipBlanks false false s.line t
    let s := { s with line := line }
    let (token, s, rest) := takeToken s t
    let here : Spotted := ⟨token, line, token.spelled t rest⟩
    match token with
    | .finish => [here]
    | .wrong _ => here :: tokensFrom fuel s rest
    | token => here :: tokensFrom fuel { s with last := token } rest

/-- The tokens of a script. Newlines in front are dropped, and one is added behind. -/
def tokens (t : Text) : List Spotted :=
  let (line, rest) := skipLines 1 (t ++ ['\n'])
  tokensFrom (2 * t.length + 8) ⟨line, 0, 0, false, .newline⟩ rest

end Console.Host.Tool.Awk

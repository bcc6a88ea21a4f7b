import Console.Calculator.Grammar
import Console.Proofs.Binary64.Nearest
import Console.Proofs.Calculator.Lexing
import Console.Proofs.Text.Numeral
import Mathlib.Data.List.Chain

/-! Texts as lexemes with blanks between them. Every text is a layout of lexemes up to the first
    character that belongs to none, and its tokens are those of the lexemes, unless a number literal
    has no value or such a character is there: then the leftmost of these is the fault. Blanks only
    matter between two characters of literals. -/

namespace Console.Calculator

/-! ### Literals -/

/-- Whether a run of digits and dots is the literal of a number: without a dot a value that is a
    64-bit integer, otherwise one dot and at least one digit. -/
def ValidLiteral (literal : Text) : Prop :=
  if '.' ∈ literal then literal.count '.' = 1 ∧ ∃ c ∈ literal, c.isDigit = true
  else Nat.ofDigitChars 10 literal 0 ≤ twoTo 63 - 1

/-- Whether a literal is valid can be computed. -/
instance (literal : Text) : Decidable (ValidLiteral literal) :=
  inferInstanceAs (Decidable (if '.' ∈ literal then
    literal.count '.' = 1 ∧ ∃ c ∈ literal, c.isDigit = true
    else Nat.ofDigitChars 10 literal 0 ≤ twoTo 63 - 1))

/-- The number of a valid literal: without a dot the integer of its digits, otherwise the double
    nearest to the value of its digits, scaled by the places behind the dot. -/
def literalNumber (literal : Text) : Number :=
  if '.' ∈ literal then
    .float (Binary64.ofDecimal false (Nat.ofDigitChars 10 (literal.filter (· != '.')) 0)
      (-((literal.dropWhile (· != '.')).tail.length : Int)))
  else .int (Int64.ofInt (Nat.ofDigitChars 10 literal 0 : Int))

/-- The bits of a literal with a dot are those of the nearest double. -/
theorem literalNumber_isNearest {literal : Text} (hdot : '.' ∈ literal) :
    ∃ bits, literalNumber literal = .float (Binary64.signed false bits) ∧
      Binary64.IsNearest ((Nat.ofDigitChars 10 (literal.filter (· != '.')) 0 : Nat) *
        10 ^ (-((literal.dropWhile (· != '.')).tail.length : ℤ))) bits := by
  obtain ⟨bits, hbits, hnearest⟩ := Binary64.ofDecimal_isNearest false
    (Nat.ofDigitChars 10 (literal.filter (· != '.')) 0)
    (-((literal.dropWhile (· != '.')).tail.length : ℤ))
  exact ⟨bits, by rw [literalNumber, if_pos hdot, hbits], hnearest⟩

theorem isDigit_of_isLiteralChar {c : Char} (h : isLiteralChar c = true) (hdot : c ≠ '.') :
    c.isDigit = true := by
  rw [isLiteralChar, Bool.or_eq_true, beq_iff_eq] at h
  exact h.resolve_right hdot

/-- Literals without a dot. -/
theorem ofLiteral?_of_notMem {literal : Text} (hne : literal ≠ [])
    (hchars : ∀ c ∈ literal, isLiteralChar c = true) (hdot : '.' ∉ literal) :
    (ValidLiteral literal → Number.ofLiteral? literal = some (literalNumber literal)) ∧
      (¬ ValidLiteral literal → Number.ofLiteral? literal = none) := by
  have hne' : ∀ c ∈ literal, c ≠ '.' := fun c hc heq => hdot (heq ▸ hc)
  have hdigits : ∀ c ∈ literal, c.isDigit = true := fun c hc =>
    isDigit_of_isLiteralChar (hchars c hc) (hne' c hc)
  rw [ofLiteral?_whole hne', Text.toNat?_eq_some hne hdigits, Option.bind_some]
  have hhalf : twoTo 63 = 9223372036854775808 := rfl
  simp only [ValidLiteral, literalNumber, if_neg hdot, hhalf]
  constructor
  · intro h
    rw [fit?_of_lt (by omega) (by rw [Word.half]; omega)]
    rfl
  · intro h
    rw [fit?, if_neg (by rw [Word.half]; omega)]
    rfl

/-- Literals with a dot, split at the first one. -/
theorem ofLiteral?_of_dot {whole places : Text} (hwhole : '.' ∉ whole)
    (hchars : ∀ c ∈ whole ++ '.' :: places, isLiteralChar c = true) :
    (ValidLiteral (whole ++ '.' :: places) →
      Number.ofLiteral? (whole ++ '.' :: places) = some (literalNumber (whole ++ '.' :: places))) ∧
      (¬ ValidLiteral (whole ++ '.' :: places) →
        Number.ofLiteral? (whole ++ '.' :: places) = none) := by
  have hpass : ∀ c ∈ whole, (c != '.') = true := fun c hc =>
    bne_iff_ne.2 fun heq => hwhole (heq ▸ hc)
  have htake : (whole ++ '.' :: places).takeWhile (· != '.') = whole := by
    rw [List.takeWhile_append_of_pos hpass, List.takeWhile_cons_of_neg (by simp), List.append_nil]
  have hdrop : (whole ++ '.' :: places).dropWhile (· != '.') = '.' :: places := by
    rw [List.dropWhile_append_of_pos hpass, List.dropWhile_cons_of_neg (by simp)]
  have hcount : (whole ++ '.' :: places).count '.' = 1 ↔ '.' ∉ places := by
    rw [List.count_append, List.count_cons_self, List.count_eq_zero.2 hwhole, ← List.count_eq_zero]
    omega
  have hdigit : (∃ c ∈ whole ++ '.' :: places, c.isDigit = true) ↔
      ∃ c ∈ whole ++ places, c.isDigit = true := by
    simp [or_and_right, exists_or]
  have hvalid : ValidLiteral (whole ++ '.' :: places) ↔
      '.' ∉ places ∧ ∃ c ∈ whole ++ places, c.isDigit = true := by
    rw [ValidLiteral, if_pos (by simp), hcount, hdigit]
  have hnumber : Number.ofLiteral? (whole ++ '.' :: places) =
      (Text.toNat? (whole ++ places)).map fun n =>
        .float (Binary64.ofDecimal false n (-places.length)) := by
    rw [Number.ofLiteral?, htake, hdrop]
  have hfree (hplaces : '.' ∉ places) : ∀ c ∈ whole ++ places, c ≠ '.' := by
    rintro c hc rfl
    exact (List.mem_append.1 hc).elim hwhole hplaces
  rw [hvalid, hnumber]
  constructor
  · rintro ⟨hplaces, c, hc, -⟩
    have hdigits : ∀ c ∈ whole ++ places, c.isDigit = true := fun c hc =>
      isDigit_of_isLiteralChar (hchars c (by grind)) (hfree hplaces c hc)
    have hkept : (whole ++ '.' :: places).filter (· != '.') = whole ++ places := by
      rw [List.filter_append, List.filter_cons_of_neg (by simp), ← List.filter_append]
      exact List.filter_eq_self.2 fun c hc => bne_iff_ne.2 (hfree hplaces c hc)
    rw [Text.toNat?_eq_some (List.ne_nil_of_mem hc) hdigits, literalNumber, if_pos (by simp), hkept,
      hdrop]
    rfl
  · intro hinvalid
    have hnone : Text.toNat? (whole ++ places) = none := by
      rw [Text.toNat?, if_neg]
      intro hall
      rw [Bool.and_eq_true, List.all_eq_true] at hall
      refine hinvalid ⟨fun hplaces => ?_, ?_⟩
      · exact absurd (hall.2 '.' (List.mem_append_right _ hplaces)) (by decide)
      · obtain ⟨c, hc⟩ := List.exists_mem_of_ne_nil (whole ++ places) (by simpa using hall.1)
        exact ⟨c, hc, hall.2 c hc⟩
    rw [hnone]
    rfl

/-- A run of digits and dots has a number exactly if it is valid. -/
theorem ofLiteral?_of_chars {literal : Text} (hne : literal ≠ [])
    (hchars : ∀ c ∈ literal, isLiteralChar c = true) :
    (ValidLiteral literal → Number.ofLiteral? literal = some (literalNumber literal)) ∧
      (¬ ValidLiteral literal → Number.ofLiteral? literal = none) := by
  by_cases hdot : '.' ∈ literal
  · obtain ⟨whole, places, rfl, hwhole⟩ := List.eq_append_cons_of_mem hdot
    exact ofLiteral?_of_dot hwhole hchars
  · exact ofLiteral?_of_notMem hne hchars hdot

/-! ### Lexemes -/

/-- An operator, a parenthesis, or a run of digits and dots. -/
inductive Lexeme where
  | sum (op : SumOp)
  | product (op : ProductOp)
  | opening
  | closing
  | literal (text : Text) (ne_nil : text ≠ []) (chars : ∀ c ∈ text, isLiteralChar c = true)

namespace Lexeme

/-- The characters of a lexeme. -/
def text : Lexeme → Text
  | sum op => [op.symbol]
  | product op => [op.symbol]
  | opening => ['(']
  | closing => [')']
  | literal text _ _ => text

/-- Whether a lexeme is a number literal. -/
def isLiteral : Lexeme → Bool
  | literal _ _ _ => true
  | _ => false

/-- Whether a lexeme makes a token. -/
def Valid : Lexeme → Prop
  | literal text _ _ => ValidLiteral text
  | _ => True

/-- The token of a valid lexeme. -/
def token : Lexeme → Token
  | sum op => .sum op
  | product op => .product op
  | opening => .opening
  | closing => .closing
  | literal text _ _ => .number (literalNumber text)

/-- What is no literal is one character, which makes the token by itself. -/
theorem exists_char {l : Lexeme} (h : l.isLiteral = false) :
    l.Valid ∧ ∃ c, l.text = [c] ∧ Token.ofChar? c = some l.token := by
  match l, h with
  | sum .plus, _ | sum .minus, _ => exact ⟨trivial, _, rfl, rfl⟩
  | product .times, _ | product .over, _ | product .modulo, _ => exact ⟨trivial, _, rfl, rfl⟩
  | opening, _ | closing, _ => exact ⟨trivial, _, rfl, rfl⟩

/-- A character that makes a token by itself is a lexeme. -/
theorem exists_of_ofChar? {c : Char} {t : Token} (h : Token.ofChar? c = some t) :
    ∃ l : Lexeme, l.text = [c] ∧ l.isLiteral = false := by
  unfold Token.ofChar? at h
  split at h
  · exact ⟨sum .plus, rfl, rfl⟩
  · exact ⟨sum .minus, rfl, rfl⟩
  · exact ⟨product .times, rfl, rfl⟩
  · exact ⟨product .over, rfl, rfl⟩
  · exact ⟨product .modulo, rfl, rfl⟩
  · exact ⟨opening, rfl, rfl⟩
  · exact ⟨closing, rfl, rfl⟩
  · exact nomatch h

end Lexeme

/-- Whether a text does not go on with a character of literals. -/
def EndsLiteral (rest : Text) : Prop := ∀ c ∈ rest.head?, isLiteralChar c = false

theorem EndsLiteral.takeWhile_append {literal rest : Text} (h : EndsLiteral rest)
    (hchars : ∀ c ∈ literal, isLiteralChar c = true) :
    (literal ++ rest).takeWhile isLiteralChar = literal ∧
      (literal ++ rest).dropWhile isLiteralChar = rest := by
  rw [List.takeWhile_append_of_pos hchars, List.dropWhile_append_of_pos hchars]
  cases rest with
  | nil => simp
  | cons c rest =>
    have hc : isLiteralChar c = false := h c rfl
    simp [hc]

/-- A run that ends within a text is not longer in a longer text. -/
theorem takeWhile_append_of_ends {t : Text} (h : ¬ ∀ c ∈ t, isLiteralChar c = true) (more : Text) :
    (t ++ more).takeWhile isLiteralChar = t.takeWhile isLiteralChar ∧
      (t ++ more).dropWhile isLiteralChar = t.dropWhile isLiteralChar ++ more := by
  have hlength : ¬ (t.takeWhile isLiteralChar).length = t.length := fun hlength =>
    h (List.takeWhile_eq_self_iff.1 ((List.takeWhile_prefix _).eq_of_length hlength))
  have hnonempty : ¬ (t.dropWhile isLiteralChar).isEmpty = true := by
    rwa [List.isEmpty_iff, List.dropWhile_eq_nil_iff]
  rw [List.takeWhile_append, if_neg hlength, List.dropWhile_append, if_neg hnonempty]
  exact ⟨rfl, rfl⟩

theorem endsLiteral_dropWhile (t : Text) : EndsLiteral (t.dropWhile isLiteralChar) := by
  intro c hc
  have hhead := List.head?_dropWhile_not isLiteralChar t
  rw [Option.mem_def.1 hc] at hhead
  exact hhead

/-- Blanks end a literal. -/
theorem endsLiteral_gap_append {gap back : Text} (hgap : ∀ c ∈ gap, isBlank c = true)
    (hback : gap = [] → EndsLiteral back) : EndsLiteral (gap ++ back) := by
  cases gap with
  | nil => exact hback rfl
  | cons c gap =>
    rintro d ⟨⟩
    refine Bool.eq_false_iff.2 fun hd => ?_
    exact absurd (hgap c List.mem_cons_self) (by rw [isBlank_of_isLiteralChar hd]; decide)

theorem tokenize_gap {gap : Text} (hgap : ∀ c ∈ gap, isBlank c = true) (rest : Text) :
    tokenize (gap ++ rest) = tokenize rest := by
  induction gap with
  | nil => rfl
  | cons c gap ih =>
    rw [List.forall_mem_cons] at hgap
    rw [List.cons_append, tokenize_blank hgap.1, ih hgap.2]

/-- The first lexeme of a text makes the first token, or it is an invalid literal. -/
theorem tokenize_lexeme {l : Lexeme} {rest : Text} (hrest : l.isLiteral = true → EndsLiteral rest) :
    (l.Valid → tokenize (l.text ++ rest) = (tokenize rest).map (l.token :: ·)) ∧
      (¬ l.Valid → tokenize (l.text ++ rest) = .error (.invalidNumber l.text)) := by
  cases hl : l.isLiteral with
  | false =>
    obtain ⟨hvalid, c, htext, htoken⟩ := Lexeme.exists_char hl
    rw [htext]
    exact ⟨fun _ => tokenize_symbol htoken rest, fun h => absurd hvalid h⟩
  | true =>
    cases l with
    | literal text hne hchars =>
      obtain ⟨c, digits, rfl⟩ := List.exists_cons_of_ne_nil hne
      obtain ⟨hvalid, hinvalid⟩ := ofLiteral?_of_chars hne hchars
      rw [List.forall_mem_cons] at hchars
      obtain ⟨htake, hdrop⟩ := (hrest hl).takeWhile_append hchars.2
      have hread := tokenize_run hchars.1 (digits ++ rest)
      rw [htake, hdrop] at hread
      constructor
      · intro h
        exact hread.trans (by rw [hvalid h]; rfl)
      · intro h
        exact hread.trans (by rw [hinvalid h]; rfl)
    | _ => exact nomatch hl

/-! ### Layouts -/

/-- Lexemes with what stands behind each of them. -/
def joined (pieces : List (Lexeme × Text)) : Text :=
  pieces.flatMap fun piece => piece.1.text ++ piece.2

theorem joined_cons_append (piece : Lexeme × Text) (rest : List (Lexeme × Text)) (back : Text) :
    joined (piece :: rest) ++ back = piece.1.text ++ (piece.2 ++ (joined rest ++ back)) := by
  simp [joined]

/-- Lexemes with blanks between them: only blanks stand behind a lexeme, and at least one between
    two literals. -/
structure LaidOut (pieces : List (Lexeme × Text)) : Prop where
  blank : ∀ piece ∈ pieces, ∀ c ∈ piece.2, isBlank c = true
  apart : pieces.IsChain fun piece next =>
    piece.1.isLiteral = true → next.1.isLiteral = true → piece.2 ≠ []

/-- A character that is no blank and belongs to no lexeme. -/
def Foreign (c : Char) : Prop :=
  isBlank c = false ∧ isLiteralChar c = false ∧ c ∉ "+-*/%()".toList

theorem Foreign.ofChar?_eq_none {c : Char} (h : Foreign c) : Token.ofChar? c = none := by
  obtain ⟨-, -, hsymbol⟩ := h
  unfold Token.ofChar?
  split
  all_goals first
    | rfl
    | exact absurd hsymbol (by decide)

theorem foreign_of_ofChar?_eq_none {c : Char} (hblank : isBlank c = false)
    (hliteral : isLiteralChar c = false) (h : Token.ofChar? c = none) : Foreign c := by
  refine ⟨hblank, hliteral, fun hsymbol => ?_⟩
  have hall : ∀ c ∈ "+-*/%()".toList, (Token.ofChar? c).isSome = true := List.all_eq_true.1 rfl
  have hsome := hall c hsymbol
  rw [h] at hsome
  exact nomatch hsome

variable {pieces rest : List (Lexeme × Text)} {piece : Lexeme × Text} {back : Text}

/-- Behind a literal its run of digits and dots ends. -/
theorem LaidOut.endsLiteral (h : LaidOut (piece :: rest)) (hback : EndsLiteral back)
    (hliteral : piece.1.isLiteral = true) : EndsLiteral (piece.2 ++ (joined rest ++ back)) := by
  refine endsLiteral_gap_append (h.blank piece List.mem_cons_self) fun hempty => ?_
  cases rest with
  | nil => exact hback
  | cons next rest =>
    have hnext : next.1.isLiteral = false :=
      Bool.eq_false_iff.2 fun hnext => (List.isChain_cons_cons.1 h.apart).1 hliteral hnext hempty
    obtain ⟨-, c, htext, htoken⟩ := Lexeme.exists_char hnext
    rw [joined_cons_append, htext]
    rintro d ⟨⟩
    exact (ofChar?_spec htoken).2

theorem LaidOut.tail (h : LaidOut (piece :: rest)) : LaidOut rest :=
  ⟨fun p hp => h.blank p (List.mem_cons_of_mem _ hp), h.apart.tail⟩

/-- The first piece makes the first token, or it is an invalid literal. -/
theorem LaidOut.tokenize_cons (h : LaidOut (piece :: rest)) (hback : EndsLiteral back) :
    (piece.1.Valid → tokenize (joined (piece :: rest) ++ back) =
      (tokenize (joined rest ++ back)).map (piece.1.token :: ·)) ∧
    (¬ piece.1.Valid → tokenize (joined (piece :: rest) ++ back) =
      .error (.invalidNumber piece.1.text)) := by
  obtain ⟨hvalid, hinvalid⟩ := tokenize_lexeme (h.endsLiteral hback)
  rw [joined_cons_append]
  refine ⟨fun hpiece => ?_, hinvalid⟩
  rw [hvalid hpiece, tokenize_gap (h.blank piece List.mem_cons_self)]

/-- Valid lexemes make their tokens. -/
theorem LaidOut.tokenize_of_valid (h : LaidOut pieces) (hback : EndsLiteral back)
    (hvalid : ∀ p ∈ pieces, p.1.Valid) :
    tokenize (joined pieces ++ back) = (tokenize back).map (pieces.map (·.1.token) ++ ·) := by
  induction pieces with
  | nil => cases hback : tokenize back <;> simp [joined, hback, Except.map]
  | cons piece rest ih =>
    rw [List.forall_mem_cons] at hvalid
    rw [(h.tokenize_cons hback).1 hvalid.1, ih h.tail hvalid.2]
    cases tokenize back <;> rfl

/-- The first invalid literal is the fault. -/
theorem LaidOut.tokenize_of_invalid {before after : List (Lexeme × Text)}
    (h : LaidOut (before ++ piece :: after)) (hback : EndsLiteral back)
    (hvalid : ∀ p ∈ before, p.1.Valid) (hinvalid : ¬ piece.1.Valid) :
    tokenize (joined (before ++ piece :: after) ++ back) =
      .error (.invalidNumber piece.1.text) := by
  induction before with
  | nil => exact (h.tokenize_cons hback).2 hinvalid
  | cons first before ih =>
    rw [List.forall_mem_cons] at hvalid
    rw [List.cons_append] at h ⊢
    rw [(h.tokenize_cons hback).1 hvalid.1, ih h.tail hvalid.2]
    rfl

/-- A lexeme in front of a layout, if a literal ends there. -/
theorem LaidOut.cons {l : Lexeme} {lead : Text} (h : LaidOut pieces)
    (hlead : ∀ c ∈ lead, isBlank c = true)
    (hends : l.isLiteral = true → EndsLiteral (lead ++ (joined pieces ++ back))) :
    LaidOut ((l, lead) :: pieces) := by
  refine ⟨List.forall_mem_cons.2 ⟨hlead, h.blank⟩, ?_⟩
  cases pieces with
  | nil => exact .singleton _
  | cons next rest =>
    refine .cons_cons (fun hl hnext hempty => ?_) h.apart
    -- a literal would go on in the next one
    obtain ⟨lexeme, gap⟩ := next
    cases lexeme with
    | literal text hne hchars =>
      obtain ⟨c, more, rfl⟩ := List.exists_cons_of_ne_nil hne
      obtain rfl : lead = [] := hempty
      have hc := hends hl c rfl
      exact absurd (hchars c List.mem_cons_self) (by rw [hc]; decide)
    | _ => exact nomatch hnext

theorem exists_laidOut (text : Text) : ∃ lead pieces back, (∀ c ∈ lead, isBlank c = true) ∧
    LaidOut pieces ∧ (∀ c ∈ back.head?, Foreign c) ∧ text = lead ++ (joined pieces ++ back) := by
  match text with
  | [] => exact ⟨[], [], [], by simp, ⟨by simp, .nil⟩, by simp, rfl⟩
  | c :: rest =>
    by_cases hblank : isBlank c = true
    · obtain ⟨lead, pieces, back, hlead, hlaid, hback, heq⟩ := exists_laidOut rest
      refine ⟨c :: lead, pieces, back, List.forall_mem_cons.2 ⟨hblank, hlead⟩, hlaid, hback, ?_⟩
      rw [heq, List.cons_append]
    by_cases hliteral : isLiteralChar c = true
    · obtain ⟨lead, pieces, back, hlead, hlaid, hback, heq⟩ :=
        exists_laidOut (rest.dropWhile isLiteralChar)
      have hchars : ∀ d ∈ c :: rest.takeWhile isLiteralChar, isLiteralChar d = true :=
        List.forall_mem_cons.2 ⟨hliteral, fun d hd => List.mem_takeWhile_imp hd⟩
      refine ⟨[], (.literal _ (List.cons_ne_nil _ _) hchars, lead) :: pieces, back, by simp,
        hlaid.cons hlead fun _ => heq ▸ endsLiteral_dropWhile rest, hback, ?_⟩
      rw [joined_cons_append, ← heq]
      exact congrArg (c :: ·) List.takeWhile_append_dropWhile.symm
    cases htoken : Token.ofChar? c with
    | none =>
      have hforeign := foreign_of_ofChar?_eq_none (by simpa using hblank) (by simpa using hliteral)
        htoken
      exact ⟨[], [], c :: rest, by simp, ⟨by simp, .nil⟩, by rintro d ⟨⟩; exact hforeign, rfl⟩
    | some t =>
      obtain ⟨lead, pieces, back, hlead, hlaid, hback, heq⟩ := exists_laidOut rest
      obtain ⟨l, htext, hl⟩ := Lexeme.exists_of_ofChar? htoken
      have hends : l.isLiteral = true → EndsLiteral (lead ++ (joined pieces ++ back)) := fun h =>
        absurd (hl.symm.trans h) (by decide)
      refine ⟨[], (l, lead) :: pieces, back, by simp, hlaid.cons hlead hends, hback, ?_⟩
      rw [joined_cons_append, ← heq, htext]
      rfl
termination_by text.length
decreasing_by
  all_goals simp only [List.length_cons]
  · omega
  · have := (List.dropWhile_sublist (p := isLiteralChar) (l := rest)).length_le
    omega
  · omega

/-- Lexemes with blanks between them, and blanks in front. -/
structure Layout where
  lead : Text
  pieces : List (Lexeme × Text)
  blank : ∀ c ∈ lead, isBlank c = true
  laidOut : LaidOut pieces

/-- The text of a layout. -/
def Layout.text (layout : Layout) : Text := layout.lead ++ joined layout.pieces

theorem Layout.tokenize_append (layout : Layout) (back : Text) :
    tokenize (layout.text ++ back) = tokenize (joined layout.pieces ++ back) := by
  rw [Layout.text, List.append_assoc, tokenize_gap layout.blank]

/-- Every text is a layout up to its first foreign character. -/
theorem exists_layout (text : Text) : ∃ (layout : Layout) (back : Text),
    (∀ c ∈ back.head?, Foreign c) ∧ text = layout.text ++ back := by
  obtain ⟨lead, pieces, back, hlead, hlaid, hback, rfl⟩ := exists_laidOut text
  exact ⟨⟨lead, pieces, hlead, hlaid⟩, back, hback, (List.append_assoc _ _ _).symm⟩

/-! ### Blanks -/

/-- No two characters of literals meet between two texts. -/
def Apart (front back : Text) : Prop :=
  ∀ a ∈ front.getLast?, ∀ b ∈ back.head?, ¬ (isLiteralChar a = true ∧ isLiteralChar b = true)

theorem Apart.of_suffix {front rest back : Text} (h : Apart front back) (hrest : rest <:+ front) :
    Apart rest back := by
  obtain ⟨start, rfl⟩ := hrest
  intro c hc
  refine h c ?_
  rw [List.getLast?_append, Option.mem_def.1 hc]
  rfl

/-- Blanks mean nothing, except between two characters of literals. -/
theorem tokenize_insert_gap {gap back : Text} (hgap : ∀ c ∈ gap, isBlank c = true) (front : Text)
    (hends : Apart front back) : tokenize (front ++ (gap ++ back)) = tokenize (front ++ back) := by
  match front, hends with
  | [], _ => exact tokenize_gap hgap back
  | c :: rest, hends =>
    rw [List.cons_append, List.cons_append]
    have ih := tokenize_insert_gap hgap rest (hends.of_suffix (List.suffix_cons _ _))
    by_cases hblank : isBlank c = true
    · rw [tokenize_blank hblank, tokenize_blank hblank, ih]
    by_cases hliteral : isLiteralChar c = true
    · rw [tokenize_run hliteral, tokenize_run hliteral]
      by_cases hall : ∀ d ∈ rest, isLiteralChar d = true
      -- the literal ends where the blanks come in
      · have hlast := List.getLast?_eq_some_getLast (List.cons_ne_nil c rest)
        have hchars : ∀ d ∈ c :: rest, isLiteralChar d = true :=
          List.forall_mem_cons.2 ⟨hliteral, hall⟩
        have hback : EndsLiteral back := fun b hb =>
          Bool.eq_false_iff.2 fun hb' => hends _ hlast b hb ⟨hchars _ (List.getLast_mem _), hb'⟩
        obtain ⟨htake, hdrop⟩ := hback.takeWhile_append hall
        obtain ⟨htake', hdrop'⟩ :=
          (endsLiteral_gap_append hgap fun _ => hback).takeWhile_append hall
        rw [htake, hdrop, htake', hdrop', tokenize_gap hgap]
      -- the literal ends before
      · obtain ⟨htake, hdrop⟩ := takeWhile_append_of_ends hall back
        obtain ⟨htake', hdrop'⟩ := takeWhile_append_of_ends hall (gap ++ back)
        have ih' := tokenize_insert_gap hgap (rest.dropWhile isLiteralChar)
          (hends.of_suffix ((List.dropWhile_suffix _).trans (List.suffix_cons _ _)))
        rw [htake, hdrop, htake', hdrop', ih']
    cases htoken : Token.ofChar? c with
    | some t => rw [tokenize_symbol htoken, tokenize_symbol htoken, ih]
    | none =>
      rw [tokenize_of_ofChar?_none hblank hliteral htoken,
        tokenize_of_ofChar?_none hblank hliteral htoken]
termination_by front.length
decreasing_by
  all_goals simp only [List.length_cons]
  · omega
  · have := (List.dropWhile_sublist (p := isLiteralChar) (l := rest)).length_le
    omega

/-- The tokens of a text are those of its lexemes, whatever blanks stand between them. In front of
    the end of the text, or of its first foreign character, the first literal without a number is
    the fault; otherwise the foreign character is, and without one there are the tokens in order.
    Every text is read so. Hence blanks that come in or go away, except between two characters of
    literals, change no answer and no fault. -/
theorem tokenize_reads_lexemes :
    (∀ (layout : Layout) (back : Text), (∀ c ∈ back.head?, Foreign c) →
      ((∀ piece ∈ layout.pieces, piece.1.Valid) → tokenize (layout.text ++ back) =
        match back with
        | [] => .ok (layout.pieces.map (·.1.token))
        | c :: _ => .error (.unexpectedToken [c])) ∧
      ∀ before piece after, layout.pieces = before ++ piece :: after →
        (∀ earlier ∈ before, earlier.1.Valid) → ¬ piece.1.Valid →
          tokenize (layout.text ++ back) = .error (.invalidNumber piece.1.text)) ∧
    (∀ text, ∃ (layout : Layout) (back : Text),
      (∀ c ∈ back.head?, Foreign c) ∧ text = layout.text ++ back) ∧
    ∀ front gap back, (∀ c ∈ gap, isBlank c = true) → Apart front back →
      execute (front ++ (gap ++ back)) = execute (front ++ back) := by
  refine ⟨fun layout back hback => ?_, exists_layout, fun front gap back hgap hends => ?_⟩
  · have hends : EndsLiteral back := fun c hc => (hback c hc).2.1
    rw [layout.tokenize_append]
    refine ⟨fun hvalid => ?_, fun before piece after hpieces hvalid hinvalid => ?_⟩
    · rw [layout.laidOut.tokenize_of_valid hends hvalid]
      cases back with
      | nil => simp [Except.map]
      | cons c back =>
        obtain ⟨hblank, hliteral, -⟩ := hback c rfl
        rw [tokenize_of_ofChar?_none (by simp [hblank]) (by simp [hliteral])
          (hback c rfl).ofChar?_eq_none]
        rfl
    · have hlaid := layout.laidOut
      rw [hpieces] at hlaid ⊢
      exact hlaid.tokenize_of_invalid hends hvalid hinvalid
  · rw [execute, execute, tokenize_insert_gap hgap front hends]

/-- The literal with two dots stands before the character that is no token, and is the fault. -/
theorem tokenize_reads_lexemes_of_two_dots :
    tokenize ['0', '7', '\u3000', '*', '1', '.', '.', ' ', '^'] =
        .error (.invalidNumber ['1', '.', '.']) ∧
      execute ['0', '7', '\u3000', '*'] = execute ['0', '7', '*'] := by
  let before : List (Lexeme × Text) :=
    [(.literal ['0', '7'] (List.cons_ne_nil _ _) (List.all_eq_true.1 rfl), ['\u3000']),
      (.product .times, [])]
  let piece : Lexeme × Text :=
    (.literal ['1', '.', '.'] (List.cons_ne_nil _ _) (List.all_eq_true.1 rfl), [' '])
  have hspace : ∀ c ∈ ['\u3000'], isBlank c = true := List.all_eq_true.1 rfl
  have hlaid : LaidOut (before ++ [piece]) := by
    constructor
    · simp [before, piece, isBlank]
    · simp [before, piece, Lexeme.isLiteral]
  let layout : Layout := ⟨[], before ++ [piece], List.forall_mem_nil _, hlaid⟩
  obtain ⟨hread, -, hblank⟩ := tokenize_reads_lexemes
  have hforeign : Foreign '^' := ⟨by decide, by decide, by decide⟩
  have hnumber : ValidLiteral ['0', '7'] := by decide
  have hvalid : ∀ earlier ∈ before, earlier.1.Valid := by
    simp only [before, List.forall_mem_cons]
    exact ⟨hnumber, trivial, List.forall_mem_nil _⟩
  have hinvalid : ¬ piece.1.Valid := by
    change ¬ ValidLiteral ['1', '.', '.']
    decide
  have htext : ∀ c ∈ ['^'].head?, Foreign c := by
    rintro c ⟨⟩
    exact hforeign
  refine ⟨(hread layout ['^'] htext).2 before piece [] rfl hvalid hinvalid, ?_⟩
  exact hblank ['0', '7'] ['\u3000'] ['*'] hspace (by rintro a ⟨⟩ b ⟨⟩; decide)

end Console.Calculator

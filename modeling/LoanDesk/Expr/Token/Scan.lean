import LoanDesk.Expr.Token

/-!
# Splitting a source into tokens

White space separates tokens and is dropped.  The first character of a token says what shape the
token has, and with it where the token ends; `Lexeme.scan` splits off one token, and `tokenize`
repeats that to the end of the source.

Main statement: `Lexeme.scan_eq_ok`, a token and what follows it make up the characters scanned.
-/

namespace LoanDesk

/-- The characters with a meaning of their own. -/
def isMark (c : Char) : Bool :=
  c == '(' || c == ')' || c == '<' || c == '>' || c == '=' || c == '!' || c == '\x7b' ||
    c == '\x7d' || c == '"' || c == '\''

/-- The characters that words and numbers are made of. -/
def isWordChar (c : Char) : Bool := !Text.isBlank c && !isMark c

/-- The characters that field names are made of: letters and digits of ASCII and the low line. -/
def isFieldChar (c : Char) : Bool := c.isAlphanum || c == '_'

/-- The tokens that are reserved words. -/
def keyword? : String → Option TokenKind
  | "and" => some .and
  | "or" => some .or
  | "not" => some .not
  | "None" => some .none
  | "null" => some .none
  | "True" => some .true
  | "False" => some .false
  | _ => none

/-- What a word stands for: a keyword, else a finite number, else itself. -/
def TokenKind.ofWord (w : List Char) : TokenKind :=
  match keyword? (String.ofList w), Number.readFinite? w with
  | some kind, _ => kind
  | Option.none, some x => .number x
  | Option.none, Option.none => .word (String.ofList w)

/-- The comparison that a character starts, by whether an equals sign follows. -/
def comparison? : Char → Bool → Option Comparison
  | '<', false => some .lt
  | '<', true => some .le
  | '>', false => some .gt
  | '>', true => some .ge
  | '=', true => some .eq
  | '!', true => some .ne
  | _, _ => none

/-- The characters up to the closing quote, and those after it; `escaped` says that a backslash
stands right before. -/
def splitQuoted (quote : Char) (escaped : Bool) : List Char → Option (List Char × List Char)
  | [] => none
  | c :: cs =>
    if c = quote ∧ escaped = false then some ([], cs)
    else (splitQuoted quote (!escaped && c == '\\') cs).map fun (body, rest) => (c :: body, rest)

/-- The text that stands between quotes, where a backslash gives the character after it. -/
def unescape (escaped : Bool) : List Char → List Char
  | [] => []
  | c :: cs =>
    if c = '\\' ∧ escaped = false then unescape true cs else c :: unescape false cs

/-- A token split off the front of a source. -/
structure Lexeme where
  kind : TokenKind
  /-- The characters of the token. -/
  chars : List Char
  /-- The characters after the token. -/
  rest : List Char

namespace Lexeme

/-- A comparison. -/
def scanComparison (c : Char) (cs : List Char) : Except LexFault Lexeme :=
  match cs with
  | '=' :: rest =>
    match comparison? c true with
    | some op => .ok ⟨.compare op, [c, '='], rest⟩
    | none => .error (.unknownOperator c)
  | _ =>
    match comparison? c false with
    | some op => .ok ⟨.compare op, [c], cs⟩
    | none => .error (.unknownOperator c)

/-- A text between quotes. -/
def scanQuoted (quote : Char) (cs : List Char) : Except LexFault Lexeme :=
  match splitQuoted quote false cs with
  | some (body, rest) =>
    .ok ⟨.quoted (String.ofList (unescape false body)), quote :: body ++ [quote], rest⟩
  | none => .error .unterminatedString

/-- A field name and the brace that closes it. -/
def scanField (cs : List Char) : Except LexFault Lexeme :=
  let name := cs.takeWhile (· != '\x7d')
  match cs.dropWhile (· != '\x7d') with
  | [] => .error .unclosedPlaceholder
  | close :: rest =>
    if name.isEmpty || !name.all isFieldChar then .error (.invalidFieldName (String.ofList name))
    else .ok ⟨.field (String.ofList name), '\x7b' :: name ++ [close], rest⟩

/-- The token that starts with `c`, which is no white space. -/
def scan (c : Char) (cs : List Char) : Except LexFault Lexeme :=
  if c = '(' then .ok ⟨.openParen, [c], cs⟩
  else if c = ')' then .ok ⟨.closeParen, [c], cs⟩
  else if c = '<' ∨ c = '>' ∨ c = '=' ∨ c = '!' then scanComparison c cs
  else if c = '"' ∨ c = '\'' then scanQuoted c cs
  else if c = '\x7b' then scanField cs
  else if isWordChar c then
    let word := c :: cs.takeWhile isWordChar
    .ok ⟨.ofWord word, word, cs.dropWhile isWordChar⟩
  else .error (.unexpectedChar c)

/-! ### A token is a part of the source -/

/-- A quoted text is split at its closing quote. -/
theorem splitQuoted_eq_some {quote : Char} {escaped : Bool} {cs body rest : List Char}
    (h : splitQuoted quote escaped cs = some (body, rest)) : body ++ quote :: rest = cs := by
  induction cs generalizing escaped body with
  | nil => simp [splitQuoted] at h
  | cons c cs ih =>
    rw [splitQuoted] at h
    split at h
    next hc =>
      obtain ⟨rfl, rfl⟩ := Prod.mk.inj (Option.some.inj h)
      simp [hc.1]
    next =>
      obtain ⟨⟨b, r⟩, hb, heq⟩ := Option.map_eq_some_iff.1 h
      obtain ⟨rfl, rfl⟩ := Prod.mk.inj heq
      simp [ih hb]

/-- A token and what follows it are the characters scanned, and a token has its first character. -/
theorem scan_eq_ok {c : Char} {cs : List Char} {l : Lexeme} (h : scan c cs = .ok l) :
    l.chars ++ l.rest = c :: cs ∧ l.chars.head? = some c := by
  unfold scan at h
  split at h
  · cases h; exact ⟨rfl, rfl⟩
  split at h
  · cases h; exact ⟨rfl, rfl⟩
  split at h
  · unfold scanComparison at h
    split at h <;> split at h <;> cases h <;> exact ⟨rfl, rfl⟩
  split at h
  · unfold scanQuoted at h
    split at h
    next body rest hs => cases h; exact ⟨by simp [← splitQuoted_eq_some hs], rfl⟩
    next => cases h
  split at h
  next hc =>
    unfold scanField at h
    split at h
    · cases h
    next close rest hs =>
      simp only at h
      split at h
      · cases h
      · cases h
        refine ⟨?_, by simp [hc]⟩
        have := @List.takeWhile_append_dropWhile _ (· != '\x7d') cs
        rw [hs] at this
        simp only [List.append_assoc, List.cons_append, List.nil_append, hc, this]
  split at h
  · cases h; exact ⟨by simp [List.takeWhile_append_dropWhile], rfl⟩
  · cases h

/-- A word takes at least one character. -/
theorem length_rest_lt {c : Char} {cs : List Char} {l : Lexeme} (h : scan c cs = .ok l) :
    l.rest.length < (c :: cs).length := by
  obtain ⟨happ, hhead⟩ := scan_eq_ok h
  rw [← happ, List.length_append]
  cases hl : l.chars with
  | nil => simp [hl] at hhead
  | cons d ds => simp

end Lexeme

/-- The tokens of the characters that stand at `offset` in the source, after those in `done`,
which are in reverse. -/
def tokensFrom (offset : Nat) (done : List Token) (cs : List Char) :
    Except ParseError (List Token) :=
  match cs with
  | [] => .ok done.reverse
  | c :: cs =>
    if Text.isBlank c then tokensFrom (offset + c.utf8Size) done cs
    else
      match _h : Lexeme.scan c cs with
      | .error fault => .error (.lexical fault offset)
      | .ok l =>
        let stop := offset + Text.byteLength l.chars
        tokensFrom stop (⟨l.kind, offset, stop⟩ :: done) l.rest
termination_by cs.length
decreasing_by
  · simp
  · exact Lexeme.length_rest_lt _h

/-- The tokens of a source. -/
def tokenize (source : String) : Except ParseError (List Token) := tokensFrom 0 [] source.toList

end LoanDesk

import LoanDesk.Expr.Token.Scan

/-!
# Words cut out of the source

A cutting lexer goes along the word characters for the offset at which they end, and cuts the word
out of the source by the offsets of its two ends.  The scanner of `Lexeme` takes the characters that
it has gone along instead.  A source has no part from one offset to another if either lies beyond
its end or inside a character, or if they are in the wrong order.
-/

namespace LoanDesk

/-- The part of a text from one byte offset up to another. -/
def Text.slice? (source : String) (start stop : Nat) : Option String := do
  let first ← source.pos? ⟨start⟩
  let past ← source.pos? ⟨stop⟩
  let part ← source.slice? first past
  return part.copy

/-- The offset at which the word characters end that stand at an offset. -/
def wordStop (offset : Nat) : List Char → Nat
  | [] => offset
  | c :: cs => if isWordChar c then wordStop (offset + c.utf8Size) cs else offset

/-- The token that starts with `c` at an offset of the source, which is no white space; `none` if
the token is a word that the source has no part for. -/
def Lexeme.cut (source : String) (offset : Nat) (c : Char) (cs : List Char) :
    Option (Except LexFault Lexeme) :=
  if isWordChar c then
    (Text.slice? source offset (wordStop offset (c :: cs))).map fun word =>
      .ok ⟨.ofWord word.toList, word.toList, cs.dropWhile isWordChar⟩
  else some (scan c cs)

/-- A word that is cut out of the source takes at least one character. -/
theorem Lexeme.length_rest_lt_of_cut {source : String} {offset : Nat} {c : Char} {cs : List Char}
    {l : Lexeme} (h : cut source offset c cs = some (.ok l)) :
    l.rest.length < (c :: cs).length := by
  rw [cut] at h
  split at h
  · obtain ⟨word, -, e⟩ := Option.map_eq_some_iff.1 h
    cases e
    exact Nat.lt_succ_of_le (List.dropWhile_sublist _).length_le
  · exact length_rest_lt (Option.some.inj h)

/-- The tokens of the characters that stand at `offset` in the source, after those in `done`, which
are in reverse, with words cut out of the source. -/
def cutTokensFrom (source : String) (offset : Nat) (done : List Token) (cs : List Char) :
    Option (Except ParseError (List Token)) :=
  match cs with
  | [] => some (.ok done.reverse)
  | c :: cs =>
    if Text.isBlank c then cutTokensFrom source (offset + c.utf8Size) done cs
    else
      match _h : Lexeme.cut source offset c cs with
      | none => none
      | some (.error fault) => some (.error (.lexical fault offset))
      | some (.ok l) =>
        let stop := offset + Text.byteLength l.chars
        cutTokensFrom source stop (⟨l.kind, offset, stop⟩ :: done) l.rest
termination_by cs.length
decreasing_by
  · simp
  · exact Lexeme.length_rest_lt_of_cut _h

/-- The tokens of a source with words cut out of it; `none` if it has no part for one of them. -/
def cutTokens (source : String) : Option (Except ParseError (List Token)) :=
  cutTokensFrom source 0 [] source.toList

end LoanDesk

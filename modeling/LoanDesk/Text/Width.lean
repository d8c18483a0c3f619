import LoanDesk.Text.Cluster

/-!
# The width of text

A text is measured from its end, character by character, with the cluster that the characters
after it form and the style that they select for it.

Main statements: `width_append`, by which a text is measured apart from what follows it if that is
settled, and `width_pad`.
-/

namespace LoanDesk.Text

/-- The styles that a selector gives to the character before it. -/
inductive Style
  /-- Drawn in colours. -/
  | emoji
  /-- Drawn as text. -/
  | text
  /-- Drawn as wide as an ideograph. -/
  | fullWidth
deriving DecidableEq

namespace Style

/-- The style that a character selects. -/
def select? (c : Char) : Option Style :=
  if c = '\ufe0f' then some emoji
  else if c = '\ufe0e' then some text
  else if c = '\ufe01' then some fullWidth
  else none

/-- Whether a character can be drawn in a style. -/
def fits (c : Char) : Style → Bool
  | emoji => takesEmojiStyle c
  | text => takesTextStyle c
  | fullWidth => c = '\u2018' || c = '\u2019' || c = '\u201c' || c = '\u201d'

/-- The cluster that a character in a style begins, and the columns that are settled with it. -/
def start : Style → Nat × Cluster
  | emoji => (0, .emoji)
  | text => (1, .plain)
  | fullWidth => (2, .plain)

/-- Whether the selector of a style, or an emoji in it, does not end a joined emoji. -/
def goesOn (style : Style) (cluster : Cluster) : Bool := style = emoji && cluster.isJoined

end Style

/-- How far a text is measured. -/
structure Measure where
  /-- The columns that no character before changes. -/
  settled : Nat
  /-- What the first characters form. -/
  cluster : Cluster
  /-- The style of the character before. -/
  style : Option Style

namespace Measure

/-- The measure of no text. -/
def zero : Measure := ⟨0, .plain, none⟩

/-- The columns in all. -/
def total (m : Measure) : Nat := m.settled + m.cluster.columns

/-- The measure where nothing joins the first characters any more. -/
def settle (m : Measure) : Measure := ⟨m.total, .plain, none⟩

/-- The measure where the cluster goes on only if it is a ligature or `goesOn` holds. -/
def across (goesOn : Cluster → Bool) (m : Measure) : Measure :=
  if m.cluster.isLigature || goesOn m.cluster then ⟨m.settled, m.cluster, none⟩ else m.settle

/-- The measure with a character before, which no style fits. -/
def beforePlain (c : Char) (m : Measure) : Measure :=
  match Style.select? c with
  | some style => ⟨(m.across style.goesOn).settled, (m.across style.goesOn).cluster, some style⟩
  | none => ⟨m.settled + (m.cluster.before c).1, (m.cluster.before c).2, none⟩

/-- The measure with a character before, which a style fits. -/
def beforeStyled (style : Style) (m : Measure) : Measure :=
  if style.goesOn m.cluster then ⟨m.settled, .emoji, none⟩
  else ⟨m.total + style.start.1, style.start.2, none⟩

/-- The measure with a character before. -/
def before (c : Char) (m : Measure) : Measure :=
  match m.style with
  | none => m.beforePlain c
  | some style =>
    if style.fits c then m.beforeStyled style
    else (m.across fun _ => false).beforePlain c

/-- The measure with more columns after the text. -/
def shift (n : Nat) (m : Measure) : Measure := ⟨m.settled + n, m.cluster, m.style⟩

/-- Columns after the text are settled. -/
theorem settled_shift (n : Nat) (m : Measure) : (m.shift n).settled = m.settled + n := rfl

/-- Columns after the text leave what its first characters form. -/
theorem cluster_shift (n : Nat) (m : Measure) : (m.shift n).cluster = m.cluster := rfl

/-- Columns after the text leave the style of the character before. -/
theorem style_shift (n : Nat) (m : Measure) : (m.shift n).style = m.style := rfl

/-- Columns after the text add to the columns in all. -/
theorem total_shift (n : Nat) (m : Measure) : (m.shift n).total = m.total + n := by
  rw [total, total, settled_shift, cluster_shift, Nat.add_right_comm]

/-- Columns after the text play no part in whether its cluster goes on. -/
theorem across_shift (goesOn : Cluster → Bool) (n : Nat) (m : Measure) :
    (m.shift n).across goesOn = (m.across goesOn).shift n := by
  unfold across
  rw [cluster_shift]
  split
  · rfl
  · rw [settle, settle, total_shift, shift]

/-- Columns after the text play no part in how a plain character goes before it. -/
theorem beforePlain_shift (c : Char) (n : Nat) (m : Measure) :
    (m.shift n).beforePlain c = (m.beforePlain c).shift n := by
  unfold beforePlain
  cases Style.select? c with
  | some style =>
    dsimp only
    rw [across_shift, settled_shift, cluster_shift, shift]
  | none => simp only [shift, Nat.add_right_comm]

/-- Columns after the text play no part in how a styled character goes before it. -/
theorem beforeStyled_shift (style : Style) (n : Nat) (m : Measure) :
    (m.shift n).beforeStyled style = (m.beforeStyled style).shift n := by
  unfold beforeStyled
  rw [cluster_shift]
  split
  · rfl
  · rw [total_shift, shift, Nat.add_right_comm]

/-- Columns after the text play no part in how a character goes before it. -/
theorem before_shift (c : Char) (n : Nat) (m : Measure) :
    (m.shift n).before c = (m.before c).shift n := by
  unfold before
  rw [style_shift]
  cases m.style with
  | none => exact beforePlain_shift c n m
  | some style =>
    dsimp only
    split
    · exact beforeStyled_shift style n m
    · rw [across_shift, beforePlain_shift]

end Measure

/-- The measure of a text. -/
def measure : List Char → Measure
  | [] => .zero
  | c :: cs => (measure cs).before c

/-- The number of columns that a text takes. -/
def width (cs : List Char) : Nat := (measure cs).total

/-- The text with spaces up to a number of columns. -/
def pad (columns : Nat) (cs : List Char) : List Char :=
  cs ++ List.replicate (columns - width cs) ' '

/-- Plain text after a text adds its columns to the measure. -/
theorem measure_append {ds : List Char} {n : Nat} (h : measure ds = ⟨n, .plain, none⟩)
    (cs : List Char) : measure (cs ++ ds) = (measure cs).shift n := by
  induction cs with
  | nil => rw [List.nil_append, h, measure, Measure.zero, Measure.shift, Nat.zero_add]
  | cons c cs ih => rw [List.cons_append, measure, ih, Measure.before_shift, measure]

/-- Plain text after a text adds its columns to the width. -/
theorem width_append {ds : List Char} {n : Nat} (h : measure ds = ⟨n, .plain, none⟩)
    (cs : List Char) : width (cs ++ ds) = width cs + n := by
  rw [width, measure_append h, Measure.total_shift, width]

/-- Each space takes one column. -/
theorem measure_replicate_space (n : Nat) :
    measure (List.replicate n ' ') = ⟨n, .plain, none⟩ := by
  induction n with
  | zero => rfl
  | succ n ih =>
    rw [List.replicate_succ, measure, ih]
    rfl

/-- A padded text is as wide as asked for, unless it was wider before. -/
theorem width_pad {columns : Nat} {cs : List Char} (h : width cs ≤ columns) :
    width (pad columns cs) = columns := by
  rw [pad, width_append (measure_replicate_space _)]
  omega

end LoanDesk.Text

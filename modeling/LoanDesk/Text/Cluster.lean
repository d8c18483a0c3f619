import LoanDesk.Text.Columns
import LoanDesk.Text.Emoji

/-!
# Clusters

Characters side by side may share their columns: letters that are written as one, flags of two
letters, and emoji that are joined.  A text is read from its end, and a cluster is what its first
characters form so far; the character before them either joins the cluster or begins one of its
own, and then the columns of the cluster are settled.
-/

namespace LoanDesk.Text

/-- The characters without columns that keep a lam from an alef. -/
def partingChars : CharSet :=
  ⟨[
    (0x605, 0x605), (0x890, 0x891), (0x8e2, 0x8e2), (0x9be, 0x9be), (0x9d7, 0x9d7), (0xb3e, 0xb3e),
    (0xb57, 0xb57), (0xbbe, 0xbbe), (0xbd7, 0xbd7), (0xcc0, 0xcc0), (0xcc2, 0xcc2), (0xcc7, 0xcc8),
    (0xcca, 0xccb), (0xcd5, 0xcd6), (0xd3e, 0xd3e), (0xd4e, 0xd4e), (0xd57, 0xd57), (0xdcf, 0xdcf),
    (0xddf, 0xddf), (0x1160, 0x11ff), (0x1715, 0x1715), (0x1734, 0x1734), (0x180e, 0x180e),
    (0x1b35, 0x1b35), (0x1b3b, 0x1b3b), (0x1b3d, 0x1b3d), (0x1b43, 0x1b44), (0x1baa, 0x1baa),
    (0x1bf2, 0x1bf3), (0x200c, 0x200d), (0x2065, 0x2069), (0x302e, 0x302f), (0x3164, 0x3164),
    (0xa8fa, 0xa8fa), (0xa953, 0xa953), (0xa9c0, 0xa9c0), (0xd7b0, 0xd7c6), (0xd7cb, 0xd7fb),
    (0xffa0, 0xffa0), (0xfff0, 0xfff8), (0x111c0, 0x111c0), (0x111c2, 0x111c3), (0x11235, 0x11235),
    (0x1133e, 0x1133e), (0x1134d, 0x1134d), (0x11357, 0x11357), (0x113b8, 0x113b8),
    (0x113c2, 0x113c2), (0x113c5, 0x113c5), (0x113c7, 0x113c9), (0x113cf, 0x113cf),
    (0x113d1, 0x113d1), (0x114b0, 0x114b0), (0x114bd, 0x114bd), (0x115af, 0x115af),
    (0x116b6, 0x116b6), (0x11930, 0x11930), (0x1193d, 0x1193d), (0x1193f, 0x1193f),
    (0x11941, 0x11941), (0x11a84, 0x11a89), (0x11d46, 0x11d46), (0x11f02, 0x11f02),
    (0x11f41, 0x11f41), (0x16ff0, 0x16ff1), (0x1d165, 0x1d166), (0x1d16d, 0x1d172),
    (0xe0000, 0xe0000), (0xe0002, 0xe001f), (0xe0080, 0xe00ff), (0xe01f0, 0xe0fff)
  ]⟩

/-- A mark that an Arabic ligature is written across. -/
def isTransparent (c : Char) : Bool := attachedChars.contains c && !partingChars.contains c

/-- A joiner or selector that other ligatures are written across. -/
def isJoinerOrSelector (c : Char) : Bool :=
  let n := c.toNat
  n = 0x34f || (0x17b4 ≤ n && n ≤ 0x17b5) || (0x180b ≤ n && n ≤ 0x180d) || n = 0x180f ||
    n = 0x200d || (0xfe00 ≤ n && n ≤ 0xfe0f) || (0xe0100 ≤ n && n ≤ 0xe01ef)

/-- The letters lam. -/
def isLam (c : Char) : Bool :=
  let n := c.toNat
  n = 0x644 || (0x6b5 ≤ n && n ≤ 0x6b8) || n = 0x76a || n = 0x8a6 || n = 0x8c7

/-- The letters alef. -/
def isAlef (c : Char) : Bool :=
  let n := c.toNat
  (0x622 ≤ n && n ≤ 0x623) || n = 0x625 || n = 0x627 || (0x671 ≤ n && n ≤ 0x673) || n = 0x675 ||
    (0x773 ≤ n && n ≤ 0x774) || (0x870 ≤ n && n ≤ 0x882)

/-- The consonants of Tifinagh. -/
def isTifinagh (c : Char) : Bool :=
  let n := c.toNat
  (0x2d31 ≤ n && n ≤ 0x2d65) || n = 0x2d6f

/-- The Khmer letters that have a form below another letter. -/
def khmerLetters : CharSet :=
  ⟨[
    (0x1780, 0x1782), (0x1784, 0x1787), (0x1789, 0x178c), (0x178e, 0x1793), (0x1795, 0x1798),
    (0x179b, 0x179d), (0x17a0, 0x17a0), (0x17a2, 0x17a2), (0x17a7, 0x17a7), (0x17ab, 0x17ac),
    (0x17af, 0x17af)
  ]⟩

/-- The ends of the ligatures. -/
inductive Ligature
  /-- An alef, for a lam before it. -/
  | alef
  /-- A lamed, for a joined Hebrew alef. -/
  | lamed
  /-- A Buginese ya, for a joined vowel. -/
  | ya
  /-- A Buginese ya with its vowel, for the letter a. -/
  | vowelYa
  /-- A consonant of Tifinagh, for another that is joined. -/
  | tifinagh
  /-- A consonant of Tifinagh with the visible joiner. -/
  | joinerTifinagh
  /-- A second tone letter of Lisu. -/
  | lisuTone
  /-- An Orkhon i, for a joined bash. -/
  | orkhonI
  /-- A Khmer letter, for the sign that puts it below another. -/
  | khmer

/-- The columns that the end of a ligature takes without the rest. -/
def Ligature.columns : Ligature → Nat
  | alef | lamed | ya | vowelYa | tifinagh | lisuTone | orkhonI | khmer => 1
  | joinerTifinagh => 2

/-- What the first characters of a text form. -/
inductive Cluster
  /-- Nothing that another character joins. -/
  | plain
  | lineFeed
  /-- The end of a ligature and whether a joiner stands before it. -/
  | ligature (last : Ligature) (joined : Bool)
  /-- A vowel sign e of Kirat Rai. -/
  | kiratE
  /-- A vowel sign ai of Kirat Rai. -/
  | kiratAi
  | skinTone
  | flagLetter
  | flagLetters
  | emoji
  /-- An emoji with a joiner before it. -/
  | joinedEmoji
  /-- An emoji with a joiner and the frame of a key before it. -/
  | joinedKeycap
  /-- An emoji with a joiner and one letter of a flag before it. -/
  | joinedLetter
  /-- An emoji with a joiner and an even number of letters of flags before it. -/
  | joinedEven
  /-- An emoji with a joiner and an odd number of letters of flags before it, one not counted. -/
  | joinedOdd
  /-- An emoji with a joiner and the end of the name of a flag before it. -/
  | flagName (letters digits : Nat)

namespace Cluster

/-- The columns that a cluster takes. -/
def columns : Cluster → Nat
  | plain => 0
  | ligature last _ => last.columns
  | lineFeed | kiratE | kiratAi | flagLetter => 1
  | skinTone | flagLetters | emoji | joinedEmoji | joinedKeycap | joinedEven | flagName _ _ => 2
  | joinedLetter | joinedOdd => 3

/-- A ligature, which selectors of style do not end. -/
def isLigature : Cluster → Bool
  | ligature _ _ => true
  | _ => false

/-- An emoji that a joiner before it joins to another. -/
def isJoined : Cluster → Bool
  | joinedEmoji | joinedKeycap => true
  | _ => false

/-- The cluster that a character begins, and the columns that are settled with it. -/
def start (c : Char) : Nat × Cluster :=
  if c = '\n' then (0, lineFeed)
  else if isSkinTone c then (0, skinTone)
  else if isFlagLetter c then (0, flagLetter)
  else if isEmoji c then (0, emoji)
  else if c = '\u05dc' then (0, ligature .lamed false)
  else if isAlef c then (0, ligature .alef false)
  else if khmerLetters.contains c then (0, ligature .khmer false)
  else if c = '\u1a10' then (0, ligature .ya false)
  else if isTifinagh c then (0, ligature .tifinagh false)
  else if c = '\ua4fc' || c = '\ua4fd' then (0, ligature .lisuTone false)
  else if c.toNat = 0x10c03 then (0, ligature .orkhonI false)
  else if c.toNat = 0x16d67 then (0, kiratE)
  else if c.toNat = 0x16d68 then (0, kiratAi)
  else (charColumns c, plain)

/-- What a character and the ligature after it form. -/
def joinLigature (c : Char) (joined : Bool) : Ligature → Option (Nat × Cluster)
  | .alef =>
    if isLam c then some (1, plain)
    else if isTransparent c then some (0, ligature .alef joined)
    else none
  | .lamed =>
    if joined && c = '\u05d0' then some (1, plain) else across .lamed
  | .ya =>
    if joined && c = '\u1a17' then some (0, ligature .vowelYa false) else across .ya
  | .vowelYa =>
    if c = '\u1a15' then some (1, plain) else across .vowelYa
  | .tifinagh =>
    if c = '\u2d7f' then some (0, ligature .joinerTifinagh false)
    else if joined && isTifinagh c then some (1, plain)
    else across .tifinagh
  | .joinerTifinagh =>
    if isTifinagh c then some (1, plain) else across .joinerTifinagh
  | .lisuTone =>
    if 0xa4f8 ≤ c.toNat && c.toNat ≤ 0xa4fb then some (1, plain) else across .lisuTone
  | .orkhonI =>
    if joined && c.toNat = 0x10c32 then some (1, plain) else across .orkhonI
  | .khmer =>
    if c = '\u17d2' then some (0, plain) else across .khmer
where
  /-- The ligature with the character before it, if the ligature is written across that. -/
  across (last : Ligature) : Option (Nat × Cluster) :=
    if isJoinerOrSelector c then some (0, ligature last (joined || c = '\u200d')) else none

/-- What a character and the name of a flag after it form. -/
def joinFlagName (c : Char) (letters digits : Nat) : Option (Nat × Cluster) :=
  let n := c.toNat
  if 0xe0061 ≤ n && n ≤ 0xe007a && digits = 0 && letters < 6 then
    some (0, flagName (letters + 1) 0)
  else if 0xe0030 ≤ n && n ≤ 0xe0039 && letters ≤ 4 && digits < 3 then
    some (0, flagName letters (digits + 1))
  else if n = 0x1f3f4 && (digits = 3 || (digits = 0 && 3 ≤ letters)) then some (0, emoji)
  else none

/-- What a character and the cluster after it form, and the columns that are settled with it, if
the character joins the cluster. -/
def join? (c : Char) : Cluster → Option (Nat × Cluster)
  | plain | joinedKeycap => none
  | lineFeed => if c = '\r' then some (1, plain) else none
  | ligature last joined => joinLigature c joined last
  | kiratE =>
    if c.toNat = 0x16d63 || c.toNat = 0x16d69 then some (1, plain)
    else if c.toNat = 0x16d67 then some (0, kiratAi)
    else if c.toNat = 0x16d68 then some (1, kiratE)
    else none
  | kiratAi => if c.toNat = 0x16d63 then some (1, plain) else none
  | skinTone =>
    if takesSkinTone c then some (0, emoji)
    else if c = '\u200d' then some (0, joinedEmoji)
    else none
  | flagLetter => if isFlagLetter c then some (0, flagLetters) else none
  | flagLetters =>
    if isFlagLetter c then some (1, flagLetters)
    else if c = '\u200d' then some (0, joinedEmoji)
    else none
  | emoji => if c = '\u200d' then some (0, joinedEmoji) else none
  | joinedEmoji =>
    if c = '\u20e3' then some (0, joinedKeycap)
    else if isFlagLetter c then some (0, joinedLetter)
    else if isSkinTone c then some (0, skinTone)
    else if c.toNat = 0xe007f then some (0, flagName 0 0)
    else if isEmoji c then some (0, emoji)
    else none
  | joinedLetter => if isFlagLetter c then some (0, joinedEven) else none
  | joinedEven =>
    if isFlagLetter c then some (2, joinedOdd)
    else if c = '\u200d' then some (0, joinedEmoji)
    else none
  | joinedOdd =>
    if isFlagLetter c then some (0, joinedEven)
    else if c = '\u200d' then some (1, joinedEmoji)
    else none
  | flagName letters digits => joinFlagName c letters digits

/-- What a character and the cluster after it form, and the columns that are settled with it. -/
def before (c : Char) (cluster : Cluster) : Nat × Cluster :=
  match cluster.join? c with
  | some joint => joint
  | none => let (columns, first) := start c; (cluster.columns + columns, first)

end Cluster

end LoanDesk.Text

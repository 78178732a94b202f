import Gatehouse.Yaml.Glyph

/-!
# Scalars

A scalar can be written in quotes, without them, or as lines behind a bar or an angle.

* `folded` is what the blanks between two words stand for, wherever lines are joined;
* `readQuoted` reads a scalar in quotes, `readPlain` one without;
* `readLines` reads a scalar that is written as lines.

Each leaves the characters behind the scalar.
-/

namespace Gatehouse.Yaml

/-- What the blanks between two words stand for. Without a line break they stand for themselves. One
    line break stands for a space, and more stand for one line feed less. If the line before them was
    joined by a backslash, every line break stands for a line feed. -/
def folded (joined : Bool) (blanks : List Glyph) : List Char :=
  match joined, blanks.countP Glyph.isBreak with
  | true, n => List.replicate n '\n'
  | false, 0 => blanks.map (·.char)
  | false, 1 => [' ']
  | false, n + 2 => List.replicate (n + 1) '\n'

/-! ## 1. Scalars in quotes -/

/-- The character that a letter behind a backslash stands for. -/
def escaped : Char → Option Char
  | '0' => some '\x00'
  | 'a' => some '\x07'
  | 'b' => some '\x08'
  | 't' => some '\t'
  | '\t' => some '\t'
  | 'n' => some '\n'
  | 'v' => some '\x0b'
  | 'f' => some '\x0c'
  | 'r' => some '\r'
  | 'e' => some '\x1b'
  | ' ' => some ' '
  | '"' => some '"'
  | '\x27' => some '\x27'
  | '\\' => some '\\'
  | 'N' => some '\u0085'
  | '_' => some '\u00a0'
  | 'L' => some '\u2028'
  | 'P' => some '\u2029'
  | _ => none

/-- How many hexadecimal digits follow a letter behind a backslash. -/
def codeLength : Char → Option Nat
  | 'x' => some 2
  | 'u' => some 4
  | 'U' => some 8
  | _ => none

/-- The value of a hexadecimal digit. -/
def hexValue (c : Char) : Option Nat :=
  let n := c.toNat
  if 0x30 ≤ n ∧ n ≤ 0x39 then some (n - 0x30)
  else if 0x41 ≤ n ∧ n ≤ 0x46 then some (n - 0x37)
  else if 0x61 ≤ n ∧ n ≤ 0x66 then some (n - 0x57)
  else none

/-- How far the reading of a scalar in quotes has come. -/
inductive QuotedStage where
  /-- These blanks, latest first, have been read since the last word; none inside a word. -/
  | blanks (joined : Bool) (read : List Glyph)
  /-- A backslash has been read. -/
  | backslash
  /-- The number of a character is being read: so many digits are missing, and this is its value. -/
  | code (missing : Nat) (value : Nat)
  /-- A single quote has been read, which ends the scalar unless another one follows. -/
  | quote

/-- The rest of a scalar in quotes, and what follows it. `done` are its characters so far, latest
    first. A document must not begin or end inside it. -/
def readQuotedFrom (quote : Char) (done : List Char) :
    QuotedStage → List Glyph → Option (String × List Glyph)
  | .quote, [] => some (String.ofList done.reverse, [])
  | _, [] => none
  | .quote, g :: rest =>
    if g.char == quote then readQuotedFrom quote (quote :: done) (.blanks false []) rest
    else some (String.ofList done.reverse, g :: rest)
  | .backslash, g :: rest =>
    if g.isBreak then readQuotedFrom quote done (.blanks true []) rest
    else match escaped g.char, codeLength g.char with
      | some c, _ => readQuotedFrom quote (c :: done) (.blanks false []) rest
      | _, some n => readQuotedFrom quote done (.code n 0) rest
      | _, _ => none
  | .code missing value, g :: rest =>
    match hexValue g.char with
    | none => none
    | some d =>
      let value := value * 16 + d
      if 1 < missing then readQuotedFrom quote done (.code (missing - 1) value) rest
      else if value.isValidChar then
        readQuotedFrom quote (Char.ofNat value :: done) (.blanks false []) rest
      else none
  | .blanks joined read, g :: rest =>
    if g.isBlank then readQuotedFrom quote done (.blanks joined (g :: read)) rest
    else if atMarker (g :: rest) then none
    else
      let done := (folded joined read.reverse).reverse ++ done
      if g.char == quote then
        if quote == '\x27' then readQuotedFrom quote done .quote rest
        else some (String.ofList done.reverse, rest)
      else if g.char == '\\' && quote == '"' then readQuotedFrom quote done .backslash rest
      else readQuotedFrom quote (g.char :: done) (.blanks false []) rest

/-- The rest of a scalar behind its first quote, and what follows it. Inside single quotes, two of them
    stand for one, and a backslash is a character like any other. -/
def readQuoted (quote : Char) (s : List Glyph) : Option (String × List Glyph) :=
  readQuotedFrom quote [] (.blanks false []) s

/-! ## 2. Scalars without quotes -/

/-- Does the character separate values inside brackets? -/
def isSeparator (c : Char) : Bool := [',', '[', ']', '\x7b', '\x7d'].contains c

/-- Does a colon before these characters end a key? -/
def endsKey (inBrackets : Bool) (s : List Glyph) : Bool :=
  endsWord s || (inBrackets && s.head?.any (fun g => isSeparator g.char))

/-- Does a scalar without quotes end before the character `g`? `blanks` have been read since its last
    word, and `rest` follows. It ends where a key or, inside brackets, an item does. Behind blanks it
    also ends at a comment, at the start or end of a document, and where a word is not set in so far
    as `depth`. -/
def endsPlain (inBrackets : Bool) (depth : Nat) (blanks : List Glyph) (g : Glyph)
    (rest : List Glyph) : Bool :=
  (g.char == ':' && endsKey inBrackets rest) || (inBrackets && isSeparator g.char) ||
    (!blanks.isEmpty &&
      (g.char == '#' || atMarker (g :: rest) || (!inBrackets && decide (g.column < depth))))

/-- The rest of a scalar without quotes, whether a line break follows it, and what comes then. `done`
    are its characters so far and `blanks` those read since its last word, both latest first. No tab
    may stand on a new line before `depth`. -/
def readPlainFrom (inBrackets : Bool) (depth : Nat) (done : List Char) (blanks : List Glyph) :
    List Glyph → Option (String × Bool × List Glyph)
  | [] => some (String.ofList done.reverse, blanks.any Glyph.isBreak, [])
  | g :: rest =>
    if g.isBlank then
      if g.char == '\t' && blanks.any Glyph.isBreak && decide (g.column < depth) then none
      else readPlainFrom inBrackets depth done (g :: blanks) rest
    else if endsPlain inBrackets depth blanks g rest then
      some (String.ofList done.reverse, blanks.any Glyph.isBreak, g :: rest)
    else
      readPlainFrom inBrackets depth
        (g.char :: ((folded false blanks.reverse).reverse ++ done)) [] rest

/-- A scalar without quotes, whether a line break follows it, and what comes then. -/
def readPlain (inBrackets : Bool) (depth : Nat) (s : List Glyph) :
    Option (String × Bool × List Glyph) :=
  readPlainFrom inBrackets depth [] [] s

/-! ## 3. Scalars in lines -/

/-- Which of the line breaks at the end of a scalar in lines belong to it. -/
inductive Tail where
  | noBreak
  | oneBreak
  | allBreaks
  deriving DecidableEq, Repr

/-- The sign for the line breaks at the end, and what follows it. -/
def readTail : List Glyph → Option Tail × List Glyph
  | [] => (none, [])
  | g :: rest =>
    if g.char == '+' then (some .allBreaks, rest)
    else if g.char == '-' then (some .noBreak, rest)
    else (none, g :: rest)

/-- The digit that says how far the lines are set in, and what follows it. It must not be zero. -/
def readIncrement : List Glyph → Option (Option Nat × List Glyph)
  | [] => some (none, [])
  | g :: rest =>
    if g.char == '0' then none
    else if g.char.isDigit then some (some (g.char.toNat - 0x30), rest)
    else some (none, g :: rest)

/-- What stands on the line that announces the scalar, and the lines below it. The two signs can come
    in either order; only blanks and a comment may follow. -/
def readHeader (s : List Glyph) : Option (Tail × Option Nat × List Glyph) := do
  let (before, s) := readTail s
  let (increment, s) ← readIncrement s
  let (after, s) := if before.isNone then readTail s else (none, s)
  let s := s.dropWhile Glyph.isGap
  let s := if s.head?.any (fun g => g.char == '#') then s.dropWhile (fun g => !g.isBreak) else s
  let tail := (before.orElse (fun _ => after)).getD .oneBreak
  match s with
  | [] => some (tail, increment, [])
  | g :: rest => if g.isBreak then some (tail, increment, rest) else none

/-- How far the first line that holds anything is set in, or a blank line before it if that has more
    spaces; `most` is the most so far. No tab may stand before it. -/
def firstDepth (most : Nat) : List Glyph → Option Nat
  | [] => some most
  | g :: rest =>
    if g.char == ' ' then firstDepth most rest
    else if g.char == '\t' then none
    else if g.isBreak then firstDepth (max most g.column) rest
    else some (max most g.column)

/-- Passes over the spaces before a depth and over empty lines: how many line breaks there were, and
    what follows. -/
def skipBreaks (depth : Nat) : List Glyph → Option (Nat × List Glyph)
  | [] => some (0, [])
  | g :: rest =>
    if g.char == ' ' && decide (g.column < depth) then skipBreaks depth rest
    else if g.char == '\t' && decide (g.column < depth) then none
    else if g.isBreak then (skipBreaks depth rest).map (fun (n, s) => (n + 1, s))
    else some (0, g :: rest)

/-- What the lines of a scalar have been read to. -/
structure LinesRead where
  /-- The characters so far, latest first. -/
  done : List Char
  /-- Has the last line ended? -/
  hasEnded : Bool
  /-- How many empty lines followed it. -/
  empty : Nat
  /-- Did it begin with a blank? -/
  isSetIn : Bool

/-- The lines from a depth on. A line break between two of them stands for a line feed; if lines are
    joined (`joining`) and neither begins with a blank, it stands for a space, or for nothing before
    empty lines. -/
def linesFrom (joining : Bool) (depth : Nat) :
    (fuel : Nat) → LinesRead → List Glyph → Option (LinesRead × List Glyph)
  | 0, r, s => some (r, s)
  | _, r, [] => some (r, [])
  | fuel + 1, r, g :: s =>
    if g.column ≠ depth then some (r, g :: s)
    else
      let between :=
        if !r.hasEnded then []
        else if joining && !r.isSetIn && !g.isGap then (if r.empty = 0 then [' '] else [])
        else ['\n']
      let (line, rest) := (g :: s).span (fun g => !g.isBreak)
      let done := (between ++ List.replicate r.empty '\n' ++ line.map (·.char)).reverse ++ r.done
      match rest with
      | [] => some (⟨done, false, 0, g.isGap⟩, [])
      | _ :: rest =>
        match skipBreaks depth rest with
        | none => none
        | some (n, rest) => linesFrom joining depth fuel ⟨done, true, n, g.isGap⟩ rest

/-- A scalar in lines behind its bar or angle, and what follows it. `outer` is how far the list or
    mapping it stands in is set in. -/
def readLines (joining : Bool) (outer : Option Nat) (s : List Glyph) :
    Option (String × List Glyph) := do
  let (tail, increment, s) ← readHeader s
  let least := (outer.map (· + 1)).getD 0
  let depth ← match increment with
    | some n => some (outer.getD 0 + n)
    | none => (firstDepth 0 s).map (fun n => max (max n least) 1)
  let (empty, s) ← skipBreaks depth s
  let (r, s) ← linesFrom joining depth s.length ⟨[], false, empty, false⟩ s
  let lineEnd := if r.hasEnded then ['\n'] else []
  let ending := match tail with
    | .noBreak => []
    | .oneBreak => lineEnd
    | .allBreaks => lineEnd ++ List.replicate r.empty '\n'
  some (String.ofList (r.done.reverse ++ ending), s)

end Gatehouse.Yaml

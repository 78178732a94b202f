import Gatehouse.Yaml.Scalar

/-!
# Tokens

A text is cut into tokens: scalars, the signs between them, and, where lines are set in further or less
far than before, the starts and ends of lists and mappings.

That a word is the key of a mapping shows at the colon behind it. So every place where a key can begin
is kept as a `KeySpot`, and a colon puts the tokens for a key, and for a mapping if one starts there,
back to it. A key ends on the line it begins on and has at most `keyLimit` characters.

Tags, anchors, aliases and directives are refused.

* `Lexer.next` reads one token;
* `tokens?` reads all tokens of a text.
-/

namespace Gatehouse.Yaml

/-- A piece of a text. -/
inductive Token where
  | documentStart
  | documentEnd
  /-- A list whose items have dashes starts here. -/
  | listStart
  /-- A mapping whose entries have lines of their own starts here. -/
  | mappingStart
  /-- The list or mapping started last ends here. -/
  | blockEnd
  | openBracket
  | closeBracket
  | openBrace
  | closeBrace
  | comma
  /-- An item of a list follows. -/
  | item
  | key
  | value
  | plain (text : String)
  | quoted (text : String)
  deriving DecidableEq, Repr

/-- A place where a key can begin. -/
structure KeySpot where
  glyph : Glyph
  /-- How many tokens stand before it. -/
  number : Nat
  /-- Must a key begin here? -/
  isRequired : Bool
  deriving DecidableEq, Repr

/-- How many characters a key can have. -/
def keyLimit : Nat := 1024

/-- How many brackets and braces can be open at once. -/
def bracketLimit : Nat := 255

/-- What is known between two tokens. -/
structure Lexer where
  /-- The tokens so far, latest first, and how many they are. -/
  tokens : List Token
  count : Nat
  /-- How far the open lists and mappings are set in, innermost first. -/
  depths : List Nat
  /-- Where a key can have begun, inside the innermost brackets. -/
  spot : Option KeySpot
  /-- Where keys can have begun outside them, one place for each open bracket. -/
  outer : List (Option KeySpot)
  /-- Can a key begin here? -/
  allowsKey : Bool
  /-- The character right behind the last scalar in quotes. -/
  behindQuote : Option Glyph

namespace Lexer

/-- Nothing has been read. -/
def start : Lexer := ⟨[], 0, [], none, [], true, none⟩

/-- Is a bracket or a brace open? -/
def inBrackets (l : Lexer) : Bool := !l.outer.isEmpty

/-- One more token. -/
def push (l : Lexer) (t : Token) : Lexer :=
  { l with tokens := t :: l.tokens, count := l.count + 1 }

/-- A token put behind the first `number` tokens. -/
def insert (l : Lexer) (number : Nat) (t : Token) : Lexer :=
  { l with tokens := l.tokens.insertIdx (l.count - number) t, count := l.count + 1 }

/-! ## 1. Depths -/

/-- Ends the lists and mappings that are set in further than a depth. Inside brackets depths do not
    count. -/
def closeTo (l : Lexer) (depth : Option Nat) : Lexer :=
  if l.inBrackets then l
  else
    let isOpen (d : Nat) : Bool := depth.any (d ≤ ·)
    let (closed, depths) := l.depths.span (fun d => !isOpen d)
    let ends := List.replicate closed.length Token.blockEnd
    { l with tokens := ends ++ l.tokens, count := l.count + ends.length, depths := depths }

/-- Is a column further in than all open lists and mappings, and not inside brackets? -/
def startsBlock (l : Lexer) (column : Nat) : Bool :=
  !l.inBrackets && l.depths.head?.all (· < column)

/-- Starts a list or a mapping behind the first `number` tokens, if the column is one that starts
    one. -/
def openAt (l : Lexer) (column number : Nat) (t : Token) : Lexer :=
  if l.startsBlock column then { l.insert number t with depths := column :: l.depths } else l

/-! ## 2. Keys -/

/-- Gives up the place where a key can have begun; this fails if one must begin there. -/
def dropSpot (l : Lexer) : Option Lexer :=
  if l.spot.any (·.isRequired) then none else some { l with spot := none }

/-- Keeps the place before `g` as one where a key can begin. In brackets a word that is set in exactly
    as far as the innermost list or mapping around them must be a key. -/
def keepSpot (l : Lexer) (g : Glyph) : Option Lexer :=
  if l.allowsKey then
    l.dropSpot.map (fun l => { l with
      spot := some ⟨g, l.count, l.inBrackets && l.depths.head? == some g.column⟩ })
  else some l

/-- Can a key that began at a place not go on as far as `g`? -/
def isStale (g : Glyph) (s : KeySpot) : Bool :=
  decide (s.glyph.line < g.line) || decide (s.glyph.column + keyLimit < g.column)

/-- Gives up the places of keys that cannot go on as far as `g`; this fails if one must. -/
def expire (l : Lexer) (g : Glyph) : Option Lexer :=
  if (l.spot :: l.outer).any (·.any (fun s => isStale g s && s.isRequired)) then none
  else
    let live (s : Option KeySpot) : Option KeySpot := s.filter (fun s => !isStale g s)
    some { l with spot := live l.spot, outer := l.outer.map live }

/-! ## 3. Single tokens -/

/-- The blanks and comments before the next token; whether a key can begin behind them. A line break
    lets one begin, except inside brackets. A tab is no blank where a key can begin. -/
def skipBlanks (inBrackets allowsKey inComment : Bool) : List Glyph → Bool × List Glyph
  | [] => (allowsKey, [])
  | g :: s =>
    if g.isBreak then skipBlanks inBrackets (allowsKey || !inBrackets) false s
    else if inComment || g.char == ' ' || (g.char == '\t' && (inBrackets || !allowsKey)) then
      skipBlanks inBrackets allowsKey inComment s
    else if g.char == '#' then skipBlanks inBrackets allowsKey true s
    else (allowsKey, g :: s)

/-- The start or end of a document. -/
def document (l : Lexer) (t : Token) (s : List Glyph) : Option (Lexer × List Glyph) :=
  (l.closeTo none).dropSpot.map (fun l => ({ l.push t with allowsKey := false }, s.drop 3))

/-- An opening bracket or brace. -/
def openFlow (l : Lexer) (t : Token) (g : Glyph) : Option Lexer := do
  let l ← l.keepSpot g
  if l.outer.length < bracketLimit then
    some { l.push t with spot := none, outer := l.spot :: l.outer, allowsKey := true }
  else none

/-- A closing bracket or brace. -/
def closeFlow (l : Lexer) (t : Token) : Option Lexer := do
  let l ← l.dropSpot
  let (spot, outer) := match l.outer with
    | [] => (l.spot, [])
    | spot :: outer => (spot, outer)
  some { l.push t with spot := spot, outer := outer, allowsKey := false }

/-- A comma. -/
def comma (l : Lexer) : Option Lexer :=
  l.dropSpot.map (fun l => { l.push .comma with allowsKey := true })

/-- The dash of an item. It stands where a key could begin, and not inside brackets. -/
def item (l : Lexer) (g : Glyph) : Option Lexer :=
  if l.inBrackets || !l.allowsKey then none
  else
    (l.openAt g.column l.count .listStart).dropSpot.map
      (fun l => { l.push .item with allowsKey := true })

/-- A question mark, which announces a key. -/
def question (l : Lexer) (g : Glyph) : Option Lexer :=
  if !l.inBrackets && !l.allowsKey then none
  else
    (l.openAt g.column l.count .mappingStart).dropSpot.map
      (fun l => { l.push .key with allowsKey := !l.inBrackets })

/-- The colon behind a key. A key that was not announced begins at the place kept for it. -/
def colon (l : Lexer) (g : Glyph) : Option Lexer :=
  match l.spot with
  | some s =>
    let l := (l.insert s.number .key).openAt s.glyph.column s.number .mappingStart
    some { l.push .value with spot := none, allowsKey := false }
  | none =>
    if !l.inBrackets && !l.allowsKey then none
    else
      let l := l.openAt g.column l.count .mappingStart
      some { l.push .value with allowsKey := !l.inBrackets }

/-- A scalar in quotes. -/
def quoted (l : Lexer) (g : Glyph) (s : List Glyph) : Option (Lexer × List Glyph) := do
  let l ← l.keepSpot g
  let (text, s) ← readQuoted g.char s
  some ({ l.push (.quoted text) with allowsKey := false, behindQuote := s.head? }, s)

/-- A scalar without quotes. Behind a line break a key can begin. -/
def plain (l : Lexer) (g : Glyph) (s : List Glyph) : Option (Lexer × List Glyph) := do
  let l ← l.keepSpot g
  let depth := (l.depths.head?.map (· + 1)).getD 0
  let (text, isAtBreak, s) ← readPlain l.inBrackets depth (g :: s)
  some ({ l.push (.plain text) with allowsKey := isAtBreak }, s)

/-- A scalar in lines, which are joined behind an angle. A key can begin behind it. -/
def lines (l : Lexer) (g : Glyph) (s : List Glyph) : Option (Lexer × List Glyph) := do
  let l ← l.keepSpot g
  let (text, s) ← readLines (g.char == '>') l.depths.head? s
  some ({ l.push (.quoted text) with allowsKey := true }, s)

/-- Reads the token that begins with the character `g`, before which blanks have been passed over. -/
def next (l : Lexer) (g : Glyph) (s : List Glyph) : Option (Lexer × List Glyph) :=
  let alone (l : Option Lexer) : Option (Lexer × List Glyph) := l.map (·, s)
  if isMarker '-' (g :: s) then l.document .documentStart (g :: s)
  else if isMarker '.' (g :: s) then l.document .documentEnd (g :: s)
  else match g.char with
    | '[' => alone (l.openFlow .openBracket g)
    | '\x7b' => alone (l.openFlow .openBrace g)
    | ']' => alone (l.closeFlow .closeBracket)
    | '\x7d' => alone (l.closeFlow .closeBrace)
    | ',' => alone l.comma
    | '"' => l.quoted g s
    | '\x27' => l.quoted g s
    | '-' => if endsWord s then alone (l.item g) else l.plain g s
    | '?' => if endsWord s then alone (l.question g) else l.plain g s
    | ':' =>
      if endsKey l.inBrackets s || (l.inBrackets && l.behindQuote == some g) then alone (l.colon g)
      else l.plain g s
    | c =>
      if (c == '|' || c == '>') && !l.inBrackets then l.lines g s
      else if ['*', '&', '!', '%', '@', '\x60'].contains c then none
      else l.plain g s

/-- Reads all tokens. Each takes at least one character, so that `fuel` need not exceed their
    number. -/
def run : (fuel : Nat) → Lexer → List Glyph → Option Lexer
  | fuel, l, s =>
    let (allowsKey, s) := skipBlanks l.inBrackets l.allowsKey false s
    match fuel, s with
    | _, [] => some (l.closeTo none)
    | 0, _ => none
    | fuel + 1, g :: s =>
      match ({ l with allowsKey := allowsKey }.expire g).bind
          (fun l => (l.closeTo (some g.column)).next g s) with
      | some (l, s) => run fuel l s
      | none => none

end Lexer

/-- The tokens of a text. -/
def tokens? (text : String) : Option (List Token) :=
  let s := glyphs text
  (Lexer.start.run s.length s).map (fun l => l.tokens.reverse)

end Gatehouse.Yaml

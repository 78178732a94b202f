/-!
# Characters in their places

A YAML text is read as its characters, each with the line and the column it stands in: how far a word
is set in says what it belongs to.

A carriage return and a line feed make one line break, and a text ends at its first null character.
-/

namespace Gatehouse.Yaml

/-- A character and where it stands. -/
structure Glyph where
  char : Char
  line : Nat
  column : Nat
  deriving DecidableEq, Repr

namespace Glyph

/-- Is the character a space or a tab? -/
def isGap (g : Glyph) : Bool := g.char == ' ' || g.char == '\t'

/-- Is the character a line break? -/
def isBreak (g : Glyph) : Bool := g.char == '\n' || g.char == '\r'

/-- Does the character separate words? -/
def isBlank (g : Glyph) : Bool := g.isGap || g.isBreak

end Glyph

/-- The characters of a text that begins at a place. Only a line feed begins another line. -/
def glyphsFrom (line column : Nat) : List Char → List Glyph
  | [] => []
  | '\r' :: '\n' :: s => ⟨'\n', line, column⟩ :: glyphsFrom (line + 1) 0 s
  | c :: s =>
    if c == '\x00' then []
    else ⟨c, line, column⟩ ::
      (if c == '\n' then glyphsFrom (line + 1) 0 s else glyphsFrom line (column + 1) s)

/-- The characters of a whole text. -/
def glyphs (text : String) : List Glyph := glyphsFrom 0 0 text.toList

/-- Does a word end before these characters? -/
def endsWord : List Glyph → Bool
  | [] => true
  | g :: _ => g.isBlank

/-- Is the first word, at the start of a line, three times the character? -/
def isMarker (c : Char) : List Glyph → Bool
  | g :: h :: i :: rest =>
    g.column == 0 && [g, h, i].all (fun g => g.char == c) && endsWord rest
  | _ => false

/-- Is the first word one that begins or ends a document? -/
def atMarker (s : List Glyph) : Bool := isMarker '-' s || isMarker '.' s

end Gatehouse.Yaml

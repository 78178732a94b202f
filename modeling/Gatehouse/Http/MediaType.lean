/-!
# Media types

A media type is written `type/subtype+suffix`, with parameters after semicolons. Case does not count in
the names, and the parameters only have to be well formed.

* `MediaType.parse?` reads a media type;
* `MediaType.isJson` says whether a body of that type is JSON.
-/

namespace Gatehouse.Http

/-- A media type without its parameters, in small letters. -/
structure MediaType where
  type : String
  subtype : String
  suffix : Option String
  deriving DecidableEq, Repr

/-- May the character stand in a name of a media type? -/
def isTokenChar (c : Char) : Bool :=
  c.isAlphanum || ['!', '#', '$', '%', '&', '\x27', '+', '-', '.', '^', '_', '\x60', '|', '~'].contains c

/-! ## 1. Parameters -/

/-- How far a parameter has been read. -/
inductive ParameterState where
  /-- Before its name. -/
  | start
  /-- Inside its name. -/
  | name
  /-- After the equals sign. -/
  | equals
  /-- Inside a bare value. -/
  | bare
  /-- After the quote that opens a value. -/
  | opened
  /-- Inside a quoted value. -/
  | quoted
  /-- After the quote that closes a value. -/
  | closed
  deriving DecidableEq, Repr

namespace ParameterState

/-- Reads one character, if it may stand there. The first character of a quoted value does not close
    it, not even if it is a quote. -/
def step (c : Char) : ParameterState → Option ParameterState
  | .start => if c == ' ' then some .start else if isTokenChar c then some .name else none
  | .name => if isTokenChar c then some .name else if c == '=' then some .equals else none
  | .equals => if c == '"' then some .opened else if isTokenChar c then some .bare else none
  | .bare => if isTokenChar c then some .bare else if c == ';' then some .start else none
  | .opened => if c.toNat < 0x20 || c.toNat == 0x7F then none else some .quoted
  | .quoted =>
    if c == '"' then some .closed
    else if c.toNat < 0x20 || c.toNat == 0x7F then none else some .quoted
  | .closed => if c == ';' then some .start else if c == ' ' then some .closed else none

/-- May the parameters end here? -/
def mayEnd : ParameterState → Bool
  | .start | .equals | .bare | .closed => true
  | .name | .opened | .quoted => false

/-- Reads all characters of the rest of the parameters, and says whether they may end there. -/
def run : ParameterState → List Char → Bool
  | s, [] => s.mayEnd
  | s, c :: cs =>
    match s.step c with
    | some s => run s cs
    | none => false

end ParameterState

/-! ## 2. Names -/

namespace MediaType

/-- A name before and after its last plus sign. A plus sign at the start does not set off a suffix. -/
def splitSuffix (name : List Char) : List Char × Option (List Char) :=
  match name.reverse.span (· != '+') with
  | (suffix, _ :: before) =>
    if before.isEmpty then (name, none) else (before.reverse, some suffix.reverse)
  | (_, []) => (name, none)

/-- The text of a name, in small letters. -/
def nameText (name : List Char) : String := String.ofList (name.map Char.toLower)

/-- Reads a media type. -/
def parse? (text : String) : Option MediaType :=
  match text.toList.span isTokenChar with
  | ([], _) => none
  | (type, '/' :: rest) =>
    match rest.span isTokenChar with
    | ([], _) => none
    | (name, after) =>
      let (subtype, suffix) := splitSuffix name
      let result := some ⟨nameText type, nameText subtype, suffix.map nameText⟩
      match after with
      | [] => result
      | ';' :: parameters => if ParameterState.start.run parameters then result else none
      | _ => none
  | _ => none

/-- Is a body of the type JSON? -/
def isJson (m : MediaType) : Bool :=
  m.type == "application" && (m.subtype == "json" || m.suffix == some "json")

end MediaType

end Gatehouse.Http

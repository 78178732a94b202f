import Gatehouse.Yaml.Node
import Gatehouse.Yaml.Token

/-!
# YAML documents

The tokens of a text say what it stands for: `readNode` reads one value, and `readDocument` the one
document of a text. A text without a document stands for an empty mapping, and one with several is
refused.
-/

namespace Gatehouse.Yaml

/-- The entries with one of them set. -/
def putEntry (name : String) (n : Node) (entries : List (String × Node)) : List (String × Node) :=
  if entries.any (fun e => e.1 == name) then
    entries.map (fun e => if e.1 == name then (name, n) else e)
  else entries ++ [(name, n)]

/-- The entries with one more. Only a text or a whole number names an entry; any other key is passed
    over with its value. -/
def addEntry (key n : Node) (entries : List (String × Node)) : List (String × Node) :=
  match key.name? with
  | some name => putEntry name n entries
  | none => entries

/-- Is the next token one of these? -/
def isNext (ts : List Token) (s : List Token) : Bool := s.head?.any ts.contains

/-! ## 1. Values -/

mutual

/-- The value that the tokens begin with, and the tokens behind it. Inside brackets no list or mapping
    starts by being set in; under a key a list need not be set in further than the key. Every call
    takes fuel, and there are at most four calls for each token. -/
def readNode (inBrackets underKey : Bool) : (fuel : Nat) → List Token → Option (Node × List Token)
  | _ + 1, .plain text :: s => some (.plain text, s)
  | _ + 1, .quoted text :: s => some (.quoted text, s)
  | fuel + 1, .openBracket :: s => readFlowItem fuel [] s
  | fuel + 1, .openBrace :: s => readFlowEntry fuel [] s
  | fuel + 1, .item :: s => if underKey then readItems true fuel [] (.item :: s) else none
  | fuel + 1, .listStart :: s => if inBrackets then none else readItems false fuel [] s
  | fuel + 1, .mappingStart :: s => if inBrackets then none else readEntries fuel [] s
  | _, _ => none

/-- The rest of a list. A flat one, which is not set in further than the key it stands under, ends
    where no further item comes. -/
def readItems (isFlat : Bool) : (fuel : Nat) → List Node → List Token → Option (Node × List Token)
  | fuel + 1, done, .item :: s =>
    if isNext [.item, .key, .value, .blockEnd] s then readItems isFlat fuel (done ++ [.absent]) s
    else match readNode false false fuel s with
      | some (n, s) => readItems isFlat fuel (done ++ [n]) s
      | none => none
  | _, done, s =>
    if isFlat then some (.list done, s)
    else match s with
      | .blockEnd :: s => some (.list done, s)
      | _ => none

/-- The rest of a mapping. -/
def readEntries : (fuel : Nat) → List (String × Node) → List Token → Option (Node × List Token)
  | fuel + 1, done, .key :: s =>
    match readPart fuel s with
    | some (key, s) => readEntry fuel done key s
    | none => none
  | fuel + 1, done, .value :: s => readEntry fuel done .absent (.value :: s)
  | _, done, .blockEnd :: s => some (.mapping done, s)
  | _, _, _ => none

/-- The value of an entry and the rest of its mapping. -/
def readEntry : (fuel : Nat) → List (String × Node) → (key : Node) → List Token →
    Option (Node × List Token)
  | fuel + 1, done, key, .value :: s =>
    match readPart fuel s with
    | some (n, s) => readEntries fuel (addEntry key n done) s
    | none => none
  | fuel + 1, done, key, s => readEntries fuel (addEntry key .absent done) s
  | _, _, _, _ => none

/-- The key or the value of an entry, which may be absent. -/
def readPart : (fuel : Nat) → List Token → Option (Node × List Token)
  | fuel + 1, s =>
    if isNext [.key, .value, .blockEnd] s then some (.absent, s) else readNode false true fuel s
  | _, _ => none

/-- The rest of a list in brackets, from an item or the bracket on. A key makes up a mapping of its
    own. -/
def readFlowItem : (fuel : Nat) → List Node → List Token → Option (Node × List Token)
  | _, done, .closeBracket :: s => some (.list done, s)
  | fuel + 1, done, .key :: s =>
    let key :=
      if isNext [.value, .comma, .closeBracket] s then some (.absent, s.tail)
      else readNode true false fuel s
    match key.bind (fun (key, s) => (readFlowValue fuel s).map (fun (n, s) => (key, n, s))) with
    | some (key, n, s) => readFlowItems fuel (done ++ [.mapping (addEntry key n [])]) s
    | none => none
  | fuel + 1, done, s =>
    match readNode true false fuel s with
    | some (n, s) => readFlowItems fuel (done ++ [n]) s
    | none => none
  | _, _, _ => none

/-- The rest of a list in brackets, behind an item. -/
def readFlowItems : (fuel : Nat) → List Node → List Token → Option (Node × List Token)
  | fuel + 1, done, .comma :: s => readFlowItem fuel done s
  | _, done, .closeBracket :: s => some (.list done, s)
  | _, _, _ => none

/-- The rest of a mapping in braces, from an entry or the brace on. -/
def readFlowEntry : (fuel : Nat) → List (String × Node) → List Token → Option (Node × List Token)
  | _, done, .closeBrace :: s => some (.mapping done, s)
  | fuel + 1, done, .key :: s =>
    let key :=
      if isNext [.value, .comma, .closeBrace] s then some (.absent, s)
      else readNode true false fuel s
    match key.bind (fun (key, s) => (readFlowValue fuel s).map (fun (n, s) => (key, n, s))) with
    | some (key, n, s) => readFlowEntries fuel (addEntry key n done) s
    | none => none
  | fuel + 1, done, .value :: s =>
    match readFlowValue fuel (.value :: s) with
    | some (n, s) => readFlowEntries fuel (addEntry .absent n done) s
    | none => none
  | fuel + 1, done, s =>
    match readNode true false fuel s with
    | some (key, s) => readFlowEntries fuel (addEntry key .absent done) s
    | none => none
  | _, _, _ => none

/-- The rest of a mapping in braces, behind an entry. -/
def readFlowEntries : (fuel : Nat) → List (String × Node) → List Token →
    Option (Node × List Token)
  | fuel + 1, done, .comma :: s => readFlowEntry fuel done s
  | _, done, .closeBrace :: s => some (.mapping done, s)
  | _, _, _ => none

/-- The value of an entry in brackets or braces, which may be absent. -/
def readFlowValue : (fuel : Nat) → List Token → Option (Node × List Token)
  | fuel + 1, .value :: s =>
    if isNext [.comma, .closeBracket, .closeBrace] s then some (.absent, s)
    else readNode true false fuel s
  | _, s => some (.absent, s)

end

/-! ## 2. Documents -/

/-- The first document, and the tokens behind it. One that is announced may hold nothing. -/
def readFirst (s : List Token) : Option (Node × List Token) :=
  let fuel := 4 * s.length + 4
  match s with
  | .documentStart :: s =>
    if s.isEmpty || isNext [.documentStart, .documentEnd] s then some (.absent, s)
    else readNode false false fuel s
  | s => readNode false false fuel s

/-- Reads a text of at most one document. -/
def readDocument (text : String) : Option Node :=
  (tokens? text).bind (fun s =>
    if s.isEmpty then some (.mapping [])
    else (readFirst s).bind (fun (n, rest) => if rest.all (· == .documentEnd) then some n else none))

end Gatehouse.Yaml

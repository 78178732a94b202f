import Gatehouse.Pattern.Search
import Gatehouse.Safety.Verdict

/-!
# The pattern firewall

Prompts are searched for phrases that try to override, extract or smuggle out instructions, generated
text for markup that a browser would execute.

* `Firewall.rules` are the patterns of a direction; one hit of one of them is enough;
* `Firewall.reason?` is the reason given for a text that is hit, the same for every rule, so that it
  does not tell which one it was;
* `Firewall.check` is the verdict.
-/

namespace Gatehouse.Safety.Firewall

open Gatehouse.Text Gatehouse.Number
open Gatehouse.Pattern

/-- Any character but a line feed. -/
def notLineFeed (c : Char) : Bool := c != '\n'

/-- A character of a base64 text, in any letter case. -/
def isBase64 (c : Char) : Bool :=
  let x := foldCase c
  (0x61 ≤ x.toNat && x.toNat ≤ 0x7A) || isAsciiDigit x || x == '+' || x == '/'

/-- One of the words, followed by blanks, if it is there. -/
def optionalWord (ws : List String) : Pattern := optional (all [anyWord ws, blanks])

/-- Up to eighty characters of one line, as few as possible. -/
def shortGap : Pattern := many notLineFeed 0 (some 80) false

/-- The start of a web address. -/
def webAddress : Pattern := all [word "http", optional (word "s"), word "://"]

/-! ## 1. Rules for prompts -/

/-- Instruction override: ignoring what was said before. -/
def ignorePrevious : Pattern :=
  all [word "ignore", blanks, optionalWord ["all"], optionalWord ["the"],
    anyWord ["previous", "prior", "above", "earlier"], blanks,
    anyWord ["instructions", "prompts", "rules", "directions"]]

/-- Instruction override: disregarding what was said before. -/
def disregardPrevious : Pattern :=
  all [word "disregard", blanks, optionalWord ["all"], optionalWord ["the"],
    anyWord ["previous", "prior", "above", "your"], boundary]

/-- Instruction override: replacing the system prompt or the rules. -/
def overrideSystem : Pattern :=
  all [word "override", blanks, optionalWord ["your", "the"],
    any [all [word "system", blanks, word "prompt"], word "instructions",
      all [word "safety", blanks, word "rules"]]]

/-- Instruction override: forgetting the rules. -/
def forgetRules : Pattern :=
  all [word "forget", blanks, optionalWord ["all"], anyWord ["your", "previous", "prior"], blanks,
    anyWord ["instructions", "rules", "guidelines"]]

/-- Role play: a new, unrestricted role. -/
def unrestrictedRole : Pattern :=
  all [word "you", blanks, word "are", blanks, word "now", blanks, anyWord ["a", "an"], blanks,
    anyWord ["malicious", "evil", "unrestricted", "unfiltered", "uncensored"]]

/-- Role play: a mode without restrictions. -/
def specialMode : Pattern :=
  all [any [word "enter", word "enable", word "activate", all [word "switch", blanks, word "to"]],
    blanks, anyWord ["developer", "debug", "god", "dan"], blanks, word "mode"]

/-- Role play: pretending that there are no rules. -/
def noRules : Pattern :=
  all [word "pretend", blanks,
    any [all [word "you", blanks, word "have"], all [word "there", blanks, word "are"]], blanks,
    word "no", blanks, anyWord ["rules", "restrictions", "guidelines"]]

/-- Extraction: showing the system prompt. -/
def revealPrompt : Pattern :=
  all [anyWord ["reveal", "show", "print", "output", "repeat", "display"], blanks,
    optionalWord ["me"], anyWord ["your", "the"], blanks,
    optionalWord ["system", "initial", "hidden", "original"], anyWord ["prompt", "instructions"]]

/-- Extraction: asking for the system prompt. -/
def askPrompt : Pattern :=
  all [word "what", blanks, anyWord ["is", "are"], blanks, word "your", blanks,
    optionalWord ["system", "initial", "hidden"], anyWord ["prompt", "instructions"]]

/-- Smuggling: a request to follow a base64 text. -/
def followBase64 : Pattern :=
  all [anyWord ["decode", "execute", "run", "follow"], blanks,
    any [word "this", all [word "the", blanks, word "following"]], blanks, word "base64"]

/-- Smuggling: a base64 text of at least 24 characters. -/
def base64Text : Pattern :=
  all [word "base64", optionalBlanks, one (fun c => c == ':' || c == '='), optionalBlanks,
    many isBase64 24 none true, many (· == '=') 0 (some 2) true]

/-- Exfiltration: sending something to a web address. -/
def sendToAddress : Pattern :=
  all [anyWord ["send", "post", "upload", "transmit", "forward", "exfiltrate"], boundary, shortGap,
    boundary, word "to", blanks, webAddress]

/-- Exfiltration: fetching a web address from a shell. -/
def fetchAddress : Pattern := all [boundary, word "curl", boundary, shortGap, webAddress]

/-- The rules for prompts. -/
def inputRules : List Pattern :=
  [ignorePrevious, disregardPrevious, overrideSystem, forgetRules, unrestrictedRole, specialMode,
    noRules, revealPrompt, askPrompt, followBase64, base64Text, sendToAddress, fetchAddress]

/-! ## 2. Rules for generated text -/

/-- The start of a tag of the name. -/
def openTag (name : String) : Pattern := all [word "<", optionalBlanks, word name]

/-- An event handler inside a tag. -/
def eventHandler : Pattern :=
  all [one (· == '<'), many (· != '>') 0 none true, boundary, word "on", many isWord 1 none true,
    optionalBlanks, word "="]

/-- The two words with a colon between them, and blanks around it. -/
def scheme (before after : String) : Pattern :=
  all [word before, optionalBlanks, word ":", optionalBlanks, word after]

/-- The rules for generated text. -/
def outputRules : List Pattern :=
  [openTag "script", all [word "javascript", optionalBlanks, word ":"], eventHandler,
    openTag "iframe", openTag "object", openTag "embed", scheme "data" "text/html"]

/-- The rules for texts of a direction. -/
def rules : Direction → List Pattern
  | .input => inputRules
  | .output => outputRules

/-! ## 3. The verdict -/

/-- The reason given for a text that a rule of the direction hits. -/
def reason : Direction → String
  | .input => "Input rejected: potentially unsafe instructions detected"
  | .output => "Output flagged as unsafe: executable markup detected"

/-- What a text that a rule of the direction hits is flagged as. -/
def category : Direction → Category
  | .input => .injection
  | .output => .xss

/-- How sure a hit is. -/
def hitConfidence : Binary := single.round false 95 100

/-- Does a rule of the direction hit the text? -/
def hits (d : Direction) (text : String) : Bool :=
  let chars := text.toList
  (rules d).any (fun p => p.occursIn chars)

/-- The reason for rejecting the text, if there is one. -/
def reason? (d : Direction) (text : String) : Option String :=
  if hits d text then some (reason d) else none

/-- The verdict of the firewall. -/
def check (d : Direction) (text : String) : Verdict :=
  match reason? d text with
  | none => .allowed
  | some r => .block (category d) hitConfidence r

end Gatehouse.Safety.Firewall

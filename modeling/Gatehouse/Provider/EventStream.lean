import Gatehouse.Text.Blank
import Gatehouse.Text.Utf8

/-!
# Event streams, line by line

A streamed answer arrives as bytes, in pieces that may end anywhere. The decoder collects them, and
gives the data of every line that is complete.

* `EventStream.feed` takes a piece and gives the payloads of the lines completed by it;
* `EventStream.payload?` is the data of a line: what follows `data:`, without the blanks around it.
-/

namespace Gatehouse.Provider.EventStream

open Gatehouse.Text

/-- The byte that ends a line. -/
def lineFeed : UInt8 := 0x0A

/-- The text behind `start`, if the text starts with it. -/
def behind (start : List Char) : List Char → Option (List Char)
  | s =>
    if start.isPrefixOf s then some (s.drop start.length) else none

/-- The data of a line, if it is a data line. Invalid bytes read as U+FFFD. -/
def payload? (line : List UInt8) : Option String :=
  (behind ['d', 'a', 't', 'a', ':'] (trimChars (Utf8.decodeLossy line))).map
    (fun cs => String.ofList (trimLeftChars cs))

/-- The lines completed by a piece, each without its line feed, and the bytes left of the last one.
    `line` are the bytes of the unfinished line, last one first, and `done` the lines completed so far,
    last one first. -/
def cut (done : List (List UInt8)) (line : List UInt8) : List UInt8 → List (List UInt8) × List UInt8
  | [] => (done.reverse, line)
  | b :: bytes =>
    if b == lineFeed then cut (line.reverse :: done) [] bytes else cut done (b :: line) bytes

/-- A decoder: the bytes of the unfinished line, last one first. -/
structure Decoder where
  line : List UInt8

/-- A decoder that has seen nothing. -/
def Decoder.start : Decoder := ⟨[]⟩

/-- Takes a piece; gives the payloads of the lines it completes. -/
def Decoder.feed (d : Decoder) (piece : List UInt8) : List String × Decoder :=
  let (lines, line) := cut [] d.line piece
  (lines.filterMap payload?, ⟨line⟩)

/-- Takes pieces one after the other; gives the payloads that each of them completes. -/
def Decoder.feedAll (d : Decoder) : List (List UInt8) → List (List String)
  | [] => []
  | piece :: pieces =>
    let (payloads, d) := d.feed piece
    payloads :: d.feedAll pieces

end Gatehouse.Provider.EventStream

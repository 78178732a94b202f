/-!
# Reading UTF-8

Bytes are read one at a time. Besides the characters, the reader reports every *maximal invalid
part*: the longest run of bytes that begins a character and cannot be continued, or a single byte
that begins none.

* `Utf8.Reader.feed` takes one byte, so a text cut into pieces reads like the uncut one
  (`Utf8.Reader.feedAll_append`);
* `Utf8.decodeLossy` writes U+FFFD for every invalid part;
* `Utf8.decode?` refuses a text that has one.
-/

namespace Gatehouse.Text.Utf8

/-- What the bytes of an unfinished character allow next: the bits read so far, how many bytes are
    still missing, and the interval the next of them must lie in. -/
structure Pending where
  bits : Nat
  missing : Nat
  low : UInt8
  high : UInt8

/-- The reader: what it has read, last item first (`none` for an invalid part), and the unfinished
    character at its end. -/
structure Reader where
  items : List (Option Char)
  pending : Option Pending

namespace Reader

/-- A reader that has seen nothing. -/
def start : Reader := ⟨[], none⟩

/-- Takes a byte that begins a character. -/
def open_ (items : List (Option Char)) (b : UInt8) : Reader :=
  let n := b.toNat
  if n < 0x80 then ⟨some (Char.ofNat n) :: items, none⟩
  else if n < 0xC2 then ⟨none :: items, none⟩
  else if n < 0xE0 then ⟨items, some ⟨n - 0xC0, 1, 0x80, 0xBF⟩⟩
  else if n == 0xE0 then ⟨items, some ⟨0, 2, 0xA0, 0xBF⟩⟩
  else if n == 0xED then ⟨items, some ⟨0xD, 2, 0x80, 0x9F⟩⟩
  else if n < 0xF0 then ⟨items, some ⟨n - 0xE0, 2, 0x80, 0xBF⟩⟩
  else if n == 0xF0 then ⟨items, some ⟨0, 3, 0x90, 0xBF⟩⟩
  else if n < 0xF4 then ⟨items, some ⟨n - 0xF0, 3, 0x80, 0xBF⟩⟩
  else if n == 0xF4 then ⟨items, some ⟨4, 3, 0x80, 0x8F⟩⟩
  else ⟨none :: items, none⟩

/-- Takes one byte. A byte that cannot continue the unfinished character ends it as an invalid part
    and begins anew. -/
def feed (r : Reader) (b : UInt8) : Reader :=
  match r.pending with
  | none => open_ r.items b
  | some p =>
    if p.low ≤ b && b ≤ p.high then
      let bits := p.bits * 64 + (b.toNat - 0x80)
      if p.missing ≤ 1 then ⟨some (Char.ofNat bits) :: r.items, none⟩
      else ⟨r.items, some ⟨bits, p.missing - 1, 0x80, 0xBF⟩⟩
    else open_ (none :: r.items) b

/-- What has been read, in order; a character left unfinished is an invalid part. -/
def finish (r : Reader) : List (Option Char) :=
  match r.pending with
  | none => r.items.reverse
  | some _ => (none :: r.items).reverse

/-- Takes a run of bytes. -/
def feedAll (r : Reader) (bytes : List UInt8) : Reader := bytes.foldl feed r

theorem feedAll_append (r : Reader) (a b : List UInt8) :
    r.feedAll (a ++ b) = (r.feedAll a).feedAll b := by
  simp [feedAll]

end Reader

/-- The characters and invalid parts of a byte text. -/
def items (bytes : List UInt8) : List (Option Char) := (Reader.start.feedAll bytes).finish

/-- The text of the bytes, with U+FFFD in the place of every invalid part. -/
def decodeLossy (bytes : List UInt8) : List Char := (items bytes).map (fun i => i.getD '\uFFFD')

/-- The text of the bytes, if they hold no invalid part. -/
def decode? (bytes : List UInt8) : Option (List Char) := (items bytes).mapM id

end Gatehouse.Text.Utf8

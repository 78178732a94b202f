/-!
# Header values

A header value is a line of text. What a caller sends may hold any character; what the gateway reads as
text is limited to visible ASCII.

* `isLegal` says which texts can be sent as a value at all;
* `visible?` reads a value as text.
-/

namespace Gatehouse.Http.Header

/-- May the text be the value of a header? It must not hold control characters other than the tab. -/
def isLegal (s : String) : Bool :=
  s.toList.all (fun c => (0x20 ≤ c.toNat && c.toNat != 0x7F) || c == '\t')

/-- Is the character visible ASCII, a space or a tab? -/
def isVisible (c : Char) : Bool := (0x20 ≤ c.toNat && c.toNat < 0x7F) || c == '\t'

/-- The value as text, if all of it is visible. -/
def visible? (value : String) : Option String :=
  if value.toList.all isVisible then some value else none

end Gatehouse.Http.Header

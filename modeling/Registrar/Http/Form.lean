import Registrar.Text.Percent
import Registrar.Text.Pieces

/-!
# Query strings

The part of an address after the question mark is a list of pairs: pairs are joined by `&`, and
within a pair the name ends at the first `=`. A plus sign stands for a blank, and bytes may be
percent-encoded. Bytes that are no UTF-8 text are read as replacement characters.

## Main definitions

* `Form.parse` — the pairs of a query string.
-/

namespace Registrar

namespace Form

/-- A name or a value, with plus signs and percent-encoding undone. -/
def decodePart (part : List Char) : String :=
  let spaced := part.map fun c => if c = '+' then ' ' else c
  textOfUtf8Lossy (Percent.decodeBytes (utf8Bytes (String.ofList spaced)))

/-- A pair; without an equals sign the value is empty. -/
def parsePair (pair : List Char) : String × String :=
  let (name, value) := splitFirst '=' pair
  (decodePart name, decodePart (value.getD []))

/-- The pairs of a query string. Empty pairs do not count. -/
def parse (text : String) : List (String × String) :=
  ((pieces '&' text.toList).filter fun pair => !pair.isEmpty).map parsePair

end Form

end Registrar

/-!
# Pieces of a text

A text is cut at every occurrence of a separator. There is always one piece more than there are
separators, so putting the pieces together with separators between them gives the text again.

## Main definitions

* `pieces` — the pieces of a text.
* `splitFirst` — the text before and after the first separator.
-/

namespace Registrar

/-- The pieces of a text between the separators. -/
def pieces (separator : Char) : List Char → List (List Char)
  | [] => [[]]
  | c :: rest =>
    if c = separator then [] :: pieces separator rest
    else
      match pieces separator rest with
      | [] => [[c]]
      | first :: others => (c :: first) :: others

/-- The text before the first separator, and the text after it if there is one. -/
def splitFirst (separator : Char) (text : List Char) : List Char × Option (List Char) :=
  match text.dropWhile (· != separator) with
  | [] => (text, none)
  | _ :: rest => (text.takeWhile (· != separator), some rest)

end Registrar

import Registrar.Number.Reading

/-!
# Media types

A request says in a header which kind of text its body is: a type and a subtype with a slash between
them, then parameters, each after a semicolon. The subtype may carry a suffix after a plus sign.
Upper and lower case do not differ.

## Main definitions

* `MediaType`, `MediaType.ofText?` — a media type.
* `MediaType.isJson` — whether it says that a body is JSON.
-/

namespace Registrar

/-- A media type without its parameters, in lower case. -/
structure MediaType where
  type : String
  subtype : String
  /-- What follows the last plus sign. -/
  suffix : Option String
deriving DecidableEq, Repr

namespace MediaType

/-- The characters of the words in a media type. -/
def isWordChar (c : Char) : Bool :=
  c.isAlphanum || "!#$%&-.^_`|~".toList.contains c

/-- The characters that may stand between quotes. -/
def isQuotedChar (c : Char) : Bool :=
  ' ' ≤ c && c != '"' && c.toNat != 127

/-- The text in lower case. -/
def lower (text : List Char) : String :=
  String.ofList (text.map asciiLower)

/-- Whether a text is a list of parameters, as it follows a semicolon: names and values that may
stand between quotes, with blanks before names and after quotes. -/
def areParameters : Nat → List Char → Bool
  | 0, _ => false
  | fuel + 1, text =>
    let text := text.dropWhile (· == ' ')
    if text.isEmpty then true
    else
      let name := text.takeWhile isWordChar
      match text.dropWhile isWordChar with
      | '=' :: '"' :: rest =>
        let inside := rest.takeWhile isQuotedChar
        match rest.dropWhile isQuotedChar with
        | '"' :: rest =>
          !name.isEmpty && !inside.isEmpty &&
            match rest.dropWhile (· == ' ') with
            | [] => true
            | ';' :: rest => areParameters fuel rest
            | _ => false
        | _ => false
      | '=' :: rest =>
        let value := rest.takeWhile isWordChar
        !name.isEmpty &&
          match rest.dropWhile isWordChar with
          | [] => true
          | ';' :: rest => !value.isEmpty && areParameters fuel rest
          | _ => false
      | _ => false

/-- The characters of a subtype with its suffix. -/
def isSubtypeChar (c : Char) : Bool :=
  isWordChar c || c == '+'

/-- Splits a subtype from its suffix. -/
def splitSuffix (text : List Char) : List Char × Option (List Char) :=
  let reversed := text.reverse
  match reversed.dropWhile (· != '+') with
  | _ :: front => (front.reverse, some (reversed.takeWhile (· != '+')).reverse)
  | [] => (text, none)

/-- Reads a media type. -/
def ofText? (text : String) : Option MediaType :=
  let chars := text.toList
  let type := chars.takeWhile isWordChar
  match chars.dropWhile isWordChar with
  | '/' :: rest =>
    let whole := rest.takeWhile isSubtypeChar
    let good := !type.isEmpty && whole.head? != some '+' &&
      match rest.dropWhile isSubtypeChar with
      | [] => true
      | ';' :: rest => !whole.isEmpty && areParameters (rest.length + 1) rest
      | _ => false
    let (subtype, suffix) := splitSuffix whole
    if good then some ⟨lower type, lower subtype, suffix.map lower⟩ else none
  | _ => none

/-- Whether a body of this type is JSON. -/
def isJson (media : MediaType) : Bool :=
  media.type == "application" && (media.subtype == "json" || media.suffix == some "json")

end MediaType

end Registrar

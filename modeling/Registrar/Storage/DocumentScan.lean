import Registrar.Dataset.Basic
import Registrar.Json.Diagnosis

/-!
# Scanning documents

A document that cannot be read is answered with what is wrong first, and where. For that its text is
scanned again, step by step, by what is expected at each place. Members that nobody reads are passed
over: their values have to have the form of values, but their numbers may be too large, their texts
may hold halves of characters, and they may be nested to any depth.

What is wrong with a whole array or object, such as a member that is missing, has no place when it
is found. It is placed behind the end of that array or object, or where the end fails to come.

## Main definitions

* `Scan.text`, `Scan.checked`, `Scan.measure`, `Scan.count`, `Scan.choice` — single values.
* `Scan.list`, `Scan.fieldsOf`, `Scan.Tagged` — arrays and objects of values.
-/

namespace Registrar

namespace Json

namespace Scan

/-! ### Members that nobody reads -/

/-- Passes over a number of any size. -/
def passNumber : Scan Unit := do
  if (← peek) = some (byteOf '-') then skip
  match ← next with
  | none => failTaken SyntaxCause.invalidNumber.message
  | some b =>
    if !isDigitByte b then failTaken SyntaxCause.invalidNumber.message
    else if b = byteOf '0' then
      match ← peek with
      | some d => if isDigitByte d then failNext .invalidNumber
      | none => pure ()
    else do let _ ← digits
  if (← peek) = some (byteOf '.') then
    skip
    if (← digits).isEmpty then failNext .invalidNumber
  let mark ← peek
  if mark = some (byteOf 'e') ∨ mark = some (byteOf 'E') then
    skip
    let sign ← peek
    if sign = some (byteOf '+') ∨ sign = some (byteOf '-') then skip
    match ← next with
    | none => failTaken SyntaxCause.invalidNumber.message
    | some b =>
      if !isDigitByte b then failTaken SyntaxCause.invalidNumber.message
      let _ ← digits

/-- Passes over what comes after a backslash; a code unit may be half a character. -/
def passEscape : Scan Unit := do
  match ← next with
  | none => failTaken SyntaxCause.endInString.message
  | some b =>
    if b = byteOf 'u' then do let _ ← codeUnit
    else if (scanEscape [Char.ofNat b.toNat]).isNone then
      failTaken SyntaxCause.invalidEscape.message

/-- Passes over a string, after its opening quote. -/
def passString : Nat → Scan Unit
  | 0 => failTaken SyntaxCause.endInString.message
  | fuel + 1 => do
    match ← peek with
    | none => failTaken SyntaxCause.endInString.message
    | some b =>
      if b = byteOf '"' then skip
      else if b = byteOf '\\' then do
        skip
        passEscape
        passString fuel
      else if b < 0x20 then failTaken SyntaxCause.controlCharacter.message
      else do
        skip
        passString fuel

/-- Passes over the name of a member and the colon after it. -/
def passName (fuel : Nat) : Scan Unit := do
  match ← skipBlanks with
  | none => failNext .endInObject
  | some b =>
    if b = byteOf '"' then
      skip
      passString fuel
      colon
    else failNext .nameNotString

mutual

/-- Passes over a value. -/
def passValue : Nat → Scan Unit
  | 0 => failNext .endInValue
  | fuel + 1 => do
    match ← skipBlanks with
    | none => failNext .endInValue
    | some first =>
      if first = byteOf '[' then do
        skip
        passParts fuel false false
      else if first = byteOf '\x7b' then do
        skip
        passParts fuel true false
      else if first = byteOf '-' ∨ isDigitByte first then passNumber
      else if first = byteOf '"' then do
        skip
        passString fuel
      else
        match ← scalar? first with
        | some _ => pure ()
        | none => failNext .expectedValue

/-- Passes over the items of an array or the members of an object, up to the end; `afterPart` tells
that there was one already. -/
def passParts : Nat → Bool → Bool → Scan Unit
  | 0, _, _ => failNext .endInValue
  | fuel + 1, isObject, afterPart => do
    match ← skipBlanks with
    | none => failNext (if isObject then .endInObject else .endInArray)
    | some b =>
      if b = byteOf (if isObject then '\x7d' else ']') then skip
      else if afterPart && b != byteOf ',' then
        failNext (if isObject then .expectedObjectEnd else .expectedArrayEnd)
      else do
        if afterPart then skip
        if isObject then passName fuel
        passValue fuel
        passParts fuel isObject true

end

/-- Passes over the value of a member that nobody reads. -/
def passMember : Scan Unit := do
  colon
  passValue (2 * (← get).length + 2)

/-! ### Faults without a place -/

/-- Fails because of a whole array or object. -/
def failWhole {α : Type} (fault : ReadingFault) : Scan α := do
  throw ⟨fault.message, (← get).length, false⟩

/-- Places what is wrong with a whole where `finish` gets to. -/
def placing {α : Type} (finish : List UInt8 → List UInt8) (scan : Scan α) : Scan α := fun bytes =>
  (scan bytes).mapError fun fault =>
    if fault.isPlaced then fault
    else
      let rest := finish (bytes.drop (bytes.length - fault.bytesLeft))
      { fault with bytesLeft := rest.length, isPlaced := true }

/-- The bytes after the blanks at their front. -/
def afterBlanks (bytes : List UInt8) : List UInt8 :=
  bytes.dropWhile fun b => b == 32 || b == 10 || b == 9 || b == 13

/-- The bytes after the end of an object, or those that stand in its place. -/
def afterObjectEnd (bytes : List UInt8) : List UInt8 :=
  match afterBlanks bytes with
  | [] => []
  | b :: rest => if b = byteOf '\x7d' then rest else b :: rest

/-- The bytes after the end of an array, or those that stand in its place. -/
def afterArrayEnd (bytes : List UInt8) : List UInt8 :=
  match afterBlanks bytes with
  | [] => []
  | b :: rest =>
    if b = byteOf ']' then rest else if b = byteOf ',' then afterBlanks rest else b :: rest

/-- Takes the rest of an array. -/
def restOfArray {α : Type} (parts : Scan α) : Scan α := do
  skip
  let result ← placing afterArrayEnd parts
  arrayEnd
  return result

/-- Takes the rest of an object. -/
def restOfObject {α : Type} (parts : Scan α) : Scan α := do
  skip
  let result ← placing afterObjectEnd parts
  objectEnd
  return result

/-! ### Single values -/

/-- The first byte of a value. -/
def firstByte : Scan UInt8 := do
  match ← skipBlanks with
  | none => failNext .endInValue
  | some first => return first

/-- Fails because a value of another type is expected. -/
def failType {α : Type} (first : UInt8) (expected : String) : Scan α := do
  let failWith (found : Json) : Scan α := failTaken (ReadingFault.wrongType found expected).message
  if first = byteOf '[' then failWith (array [])
  else if first = byteOf '\x7b' then failWith (object [])
  else
    match ← scalar? first with
    | some found => failWith found
    | none => failNext .expectedValue

/-- A text that passes a test. -/
def checked (expected : String) (test : String → Except String Unit) : Scan Json := do
  let first ← firstByte
  if first = byteOf '"' then
    skip
    let text ← stringRest
    match test text with
    | .ok () => return string text
    | .error reason => failTaken reason
  else failType first expected

/-- A text. -/
def text : Scan Json :=
  checked "a string" fun _ => .ok ()

/-- A number. -/
def measure : Scan Json := do
  let first ← firstByte
  if first = byteOf '-' ∨ isDigitByte first then number else failType first "f64"

/-- A natural number. -/
def count : Scan Json := do
  let first ← firstByte
  if first = byteOf '-' ∨ isDigitByte first then
    let value ← number
    if value.nat?.isSome then return value
    else failTaken (ReadingFault.wrongType value "a natural number").message
  else failType first "a natural number"

/-- Why a text is none of the given words. -/
def wordFault (words : List String) (text : String) : String :=
  "unknown variant `" ++ text ++ "`, expected " ++
    " or ".intercalate (words.map fun word => "`" ++ word ++ "`")

/-- One of the given words; it may also be the name of the only member of an object, with the value
null. -/
def choice (words : List String) : Scan Json := do
  let word := checked "variant identifier" fun text =>
    if words.contains text then .ok () else .error (wordFault words text)
  let first ← firstByte
  if first = byteOf '"' then word
  else if first = byteOf '\x7b' then
    skip
    let word ← word
    colon
    let first ← firstByte
    if first = byteOf 'n' then do let _ ← scalar? first else failType first "unit"
    match ← skipBlanks with
    | none => failTaken SyntaxCause.endInObject.message
    | some b => if b = byteOf '\x7d' then skip else failTaken SyntaxCause.expectedValue.message
    return word
  else failNext .expectedValue

/-! ### Arrays and objects -/

/-- The items of a list. -/
def listItems (item : Scan Json) : Nat → Bool → Scan (List Json)
  | 0, _ => failNext .endInArray
  | fuel + 1, isFirst => do
    if ← nextItem isFirst then
      let value ← item
      return value :: (← listItems item fuel false)
    else return []

/-- An array of any length. -/
def list (item : Scan Json) : Scan Json := do
  let first ← firstByte
  if first = byteOf '[' then
    return array (← restOfArray (do listItems item ((← get).length + 1) true))
  else failType first "a sequence"

/-- The values of named fields in order; `taken` tells how many there were. -/
def fieldValues (whole : String) : Nat → List (String × Scan Json) → Scan (List (String × Json))
  | _, [] => pure []
  | taken, (name, field) :: fields => do
    if ← nextItem (taken == 0) then
      let value ← field
      return (name, value) :: (← fieldValues whole (taken + 1) fields)
    else failWhole (.wrongLength taken whole)

/-- The members of an object with the given fields; those `before` have been taken. -/
def fieldMembers (fields : List (String × Scan Json)) :
    Nat → List (String × Json) → Scan (List (String × Json))
  | 0, _ => failNext .endInObject
  | fuel + 1, before => do
    match ← nextName before.isEmpty with
    | none =>
      match fields.find? fun field => (before.lookup field.1).isNone with
      | some (name, _) => failWhole (.missingField name)
      | none => return before
    | some name =>
      match fields.lookup name with
      | some field =>
        if (before.lookup name).isSome then failWhole (.duplicateField name)
        colon
        let value ← field
        fieldMembers fields fuel (before ++ [(name, value)])
      | none =>
        passMember
        fieldMembers fields fuel (before ++ [(name, null)])

/-- An object with the given fields, or an array of their values. -/
def fieldsOf (what : String) (fields : List (String × Scan Json)) : Scan Json := do
  let first ← firstByte
  if first = byteOf '[' then
    let whole := "struct " ++ what ++ " with " ++ toString fields.length ++ " elements"
    return object (← restOfArray (fieldValues whole 0 fields))
  else if first = byteOf '\x7b' then
    return object (← restOfObject (do fieldMembers fields ((← get).length + 1) []))
  else failType first ("struct " ++ what)

/-! ### Tagged values -/

/-- A value whose shape is told by a word. -/
structure Tagged where
  what : String
  /-- The member with the word. -/
  tag : String
  /-- The member with the value. -/
  content : String
  /-- The words, with what scans the value, and what is wrong with a value that came before the
  word. -/
  shapes : List (String × Scan Json × (Json → Except ReadingFault Unit))

namespace Tagged

/-- The word that tells the shape. -/
def word (tagged : Tagged) : Scan Json :=
  choice (tagged.shapes.map Prod.fst)

/-- The value, after its word. -/
def value (tagged : Tagged) (word : Json) : Scan Json :=
  match word.string?.bind fun word => tagged.shapes.lookup word with
  | some (shape, _) => shape
  | none => failNext .expectedValue

/-- Checks a value that came before its word. -/
def check (tagged : Tagged) (word value : Json) : Scan Unit :=
  match word.string?.bind fun word => tagged.shapes.lookup word with
  | some (_, test) =>
    match test value with
    | .ok () => pure ()
    | .error fault => failWhole fault
  | none => pure ()

/-- The object with a word and its value. -/
def whole (tagged : Tagged) (word value : Json) : Json :=
  object [(tagged.tag, word), (tagged.content, value)]

/-- Takes names up to one that counts. -/
def nextName? (tagged : Tagged) : Nat → Bool → Scan (Option String)
  | 0, _ => failNext .endInObject
  | fuel + 1, isFirst => do
    match ← nextName isFirst with
    | none => return none
    | some name =>
      if name = tagged.tag ∨ name = tagged.content then return some name
      else
        passMember
        nextName? tagged fuel false

/-- Takes the members after word and value. -/
def noMore (tagged : Tagged) (fuel : Nat) : Scan Unit := do
  match ← tagged.nextName? fuel false with
  | none => pure ()
  | some name => failWhole (.duplicateField name)

/-- The members; values before their word are nested at most `depth` deep. -/
def members (tagged : Tagged) (fuel depth : Nat) : Scan Json := do
  match ← tagged.nextName? fuel true with
  | none => failWhole (.missingField tagged.tag)
  | some first =>
    colon
    if first = tagged.tag then
      let word ← tagged.word
      match ← tagged.nextName? fuel false with
      | none => failWhole (.missingField tagged.content)
      | some second =>
        if second = tagged.tag then failWhole (.duplicateField second)
        colon
        let value ← tagged.value word
        tagged.noMore fuel
        return tagged.whole word value
    else
      let value ← Scan.value fuel depth
      match ← tagged.nextName? fuel false with
      | none => failWhole (.missingField tagged.tag)
      | some second =>
        if second = tagged.content then failWhole (.duplicateField second)
        colon
        let word ← tagged.word
        tagged.check word value
        tagged.noMore fuel
        return tagged.whole word value

/-- The items of an array with the word and the value. -/
def items (tagged : Tagged) : Scan Json := do
  if !(← nextItem true) then failWhole (.wrongLength 0 tagged.what)
  let word ← tagged.word
  if !(← nextItem false) then failWhole (.wrongLength 1 tagged.what)
  return tagged.whole word (← tagged.value word)

/-- An object with the word and the value, or an array of them. -/
def scan (tagged : Tagged) (depth : Nat) : Scan Json := do
  let first ← firstByte
  if first = byteOf '[' then restOfArray tagged.items
  else if first = byteOf '\x7b' then
    restOfObject (do tagged.members (2 * (← get).length + 2) depth)
  else failType first tagged.what

end Tagged

end Scan

end Json

end Registrar

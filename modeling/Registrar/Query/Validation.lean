import Registrar.Dataset.Kind
import Registrar.Query.Expression

/-!
# From JSON to queries

A query arrives as a JSON tree. It is checked as a whole, against a schema, before any record is
looked at, and nothing in it is ignored: every member, key and item has to be one the grammar knows.

The dataset of a query is the one named by its first group key, or by its first column if there are
no groups. Every other key has to name the same dataset.

The parts are checked in the order top-level members, groups and aggregates, columns, order, filter;
the first fault is reported.

## Main definitions

* `queryDatasetId` — the dataset of a query, without checking the rest.
* `validateWith` — the query a tree stands for, with any library of regular expressions.
* `validate` — the query a tree stands for.
-/

namespace Registrar

/-! ### Shapes -/

/-- The members of an object. -/
def requireObject (what : String) (value : Json) : Except Fault (List (String × Json)) :=
  match value with
  | .object members => .ok members
  | _ => .error (.notObject what)

/-- The items of an array. -/
def requireArray (what : String) (value : Json) : Except Fault (List Json) :=
  match value with
  | .array items => .ok items
  | _ => .error (.notArray what)

/-- The items of an array that has some. -/
def requireItems (what : String) (value : Json) : Except Fault (List Json) := do
  let items ← requireArray what value
  if items.isEmpty then throw (.emptyArray what)
  return items

/-- The only member of an object. -/
def requireSingle (what : String) (value : Json) : Except Fault (String × Json) := do
  match ← requireObject what value with
  | [member] => return member
  | members => throw (.notSingle what members.length)

/-- What is there, or a fault. -/
def require {α : Type} (fault : Fault) (value : Option α) : Except Fault α :=
  match value with
  | some value => .ok value
  | none => .error fault

/-- There are no members but those of the given names. -/
def requireNames (names : List String) (fault : String → Fault) (members : List (String × Json)) :
    Except Fault Unit :=
  match members.find? fun member => !names.contains member.1 with
  | some (key, _) => .error (fault key)
  | none => .ok ()

/-- A part that may be missing. -/
def readOptional {α : Type} (read : Json → Except Fault α) :
    Option Json → Except Fault (Option α)
  | some value => (read value).map some
  | none => .ok none

/-! ### The dataset -/

/-- The text that a list in an object starts with. -/
def firstText? (name : String) (value : Json) : Option String := do
  let items ← (value.member name).items?
  let first ← items.head?
  first.string?

/-- The first group key, or the first column if there are no groups. -/
def firstKey (root : List (String × Json)) : Except Fault String :=
  match root.lookup "TRANSFORMATIONS" with
  | some transformations => do
    let members ← requireObject "TRANSFORMATIONS" transformations
    require (.noDatasetKey "GROUP") (firstText? "GROUP" (.object members))
  | none =>
    require (.noDatasetKey "COLUMNS") (firstText? "COLUMNS" ((Json.object root).member "OPTIONS"))

/-- The dataset of a query, without checking the rest of the tree. -/
def queryDatasetId (tree : Json) : Except Fault String := do
  let key ← firstKey (← requireObject "query" tree)
  let (id, _) ← require (.unqualified key) (splitKey? key)
  if isValidId id then return id else throw (.invalidId id)

/-! ### Keys -/

/-- What keys are checked against. -/
structure KeyContext where
  datasetId : String
  schema : Schema

/-- A key of the dataset of the query; its field has to be of the expected kind, if one is. -/
def readKey (context : KeyContext) (expected : Option FieldKind) (key : String) :
    Except Fault FieldKey := do
  let (id, field) ← require (.unqualified key) (splitKey? key)
  if id ≠ context.datasetId then throw (.otherDataset key id context.datasetId)
  let kind ← require (.unknownField key) (context.schema.fieldKind? field)
  match expected with
  | some expected => if kind ≠ expected then throw (.wrongKind key expected)
  | none => pure ()
  return ⟨id, field⟩

/-- A key written as a JSON text. -/
def readKeyValue (context : KeyContext) (expected : Option FieldKind) (value : Json) :
    Except Fault FieldKey := do
  let key ← require (.keyNotText value) value.string?
  readKey context expected key

/-! ### Groups and aggregates -/

/-- One aggregate: a name, and for it the aggregate function with the key of its field. -/
def readApplyRule (context : KeyContext) (value : Json) : Except Fault ApplyRule := do
  let (name, body) ← requireSingle "APPLY rule" value
  if name.isEmpty || name.toList.contains keySeparator then throw (.badName name)
  let (token, target) ← requireSingle "APPLY body" body
  let aggregate ← require (.unknownAggregate token) (Aggregate.ofText? token)
  let expected := if aggregate.requiresMeasure then some FieldKind.measure else none
  let key ← readKeyValue context expected target
  return ⟨name, aggregate, key⟩

/-- The aggregates, one after the other; `seen` holds the names already taken. -/
def readApplyRules (context : KeyContext) :
    List String → List Json → Except Fault (List ApplyRule)
  | _, [] => .ok []
  | seen, value :: values => do
    let rule ← readApplyRule context value
    if seen.contains rule.name then throw (.duplicateName rule.name)
    let rules ← readApplyRules context (rule.name :: seen) values
    return rule :: rules

/-- Groups and aggregates. -/
def readTransformations (context : KeyContext) (value : Json) : Except Fault Transformations := do
  let members ← requireObject "TRANSFORMATIONS" value
  match members.length, members.lookup "GROUP", members.lookup "APPLY" with
  | 2, some group, some apply => do
    let keys ← (← requireItems "GROUP" group).mapM (readKeyValue context none)
    let rules ← readApplyRules context [] (← requireArray "APPLY" apply)
    return ⟨keys, rules⟩
  | _, _, _ => throw .transformationMembers

/-! ### Columns -/

/-- A column of a query with groups: a group key or the name of an aggregate. -/
def readGroupedColumn (transformations : Transformations) (value : Json) :
    Except Fault Column := do
  let name ← require (.columnNotText value) value.string?
  match transformations.group.find? (·.key == name) with
  | some key => return .field key
  | none =>
    if transformations.apply.any (·.name == name) then return .applied name
    else throw (.unknownColumn name)

/-- A column. -/
def readColumn (context : KeyContext) (transformations : Option Transformations) (value : Json) :
    Except Fault Column :=
  match transformations with
  | some transformations => readGroupedColumn transformations value
  | none => (readKeyValue context none value).map .field

/-- The columns. -/
def readColumns (context : KeyContext) (transformations : Option Transformations) (value : Json) :
    Except Fault (List Column) := do
  (← requireItems "COLUMNS" value).mapM (readColumn context transformations)

/-! ### Order -/

/-- A key to order by; it has to be one of the columns. -/
def readOrderKey (columns : List Column) (value : Json) : Except Fault String := do
  let key ← require (.orderKeyNotText value) value.string?
  if columns.any (·.name == key) then return key else throw (.orderKeyNotShown key)

/-- The order: a key, or a direction with keys. -/
def readOrder (columns : List Column) (value : Json) : Except Fault Order :=
  match value with
  | .string _ => (readOrderKey columns value).map .single
  | .object members => do
    if members.length ≠ 2 then throw .orderMembers
    let dir ← require .directionNotText ((members.lookup "dir").bind Json.string?)
    let direction ← require (.unknownDirection dir) (Direction.ofText? dir)
    let keys ← requireArray "ORDER keys" (← require .missingOrderKeys (members.lookup "keys"))
    if keys.isEmpty then throw .emptyOrderKeys
    return .multi direction (← keys.mapM (readOrderKey columns))
  | other => .error (.orderShape other)

/-! ### Filters -/

/-- A text condition. Its pattern is one that the library compiles. -/
def readPattern (engine : ExpressionEngine) (context : KeyContext) (body : Json) :
    Except Fault Filter := do
  let (key, value) ← requireSingle "IS" body
  let key ← readKey context (some .text) key
  let text ← require (.patternNotText value) value.string?
  let (pattern, _) ← engine.prepare text
  return .accepts key pattern

/-- A numeric condition. -/
def readComparison (context : KeyContext) (tag : String) (body : Json) : Except Fault Filter := do
  let op ← require (.unknownFilter tag) (Comparator.ofTag? tag)
  let (key, value) ← requireSingle tag body
  let key ← readKey context (some .measure) key
  let operand ← require (.operandNotNumber op value) value.number?
  return .compare op key operand

mutual

/-- A filter; `what` names the clause it stands in. -/
def readFilter (engine : ExpressionEngine) (context : KeyContext) (what : String) :
    Json → Except Fault Filter
  | .object members => readNode engine context members
  | _ => .error (.notObject what)

/-- A filter from its members, of which there is at most one. -/
def readNode (engine : ExpressionEngine) (context : KeyContext) :
    List (String × Json) → Except Fault Filter
  | [] => .ok .all
  | [(tag, body)] =>
    if tag = "NOT" then (readFilter engine context tag body).map .not
    else if tag = "AND" then (readBranches engine context tag body).map .and
    else if tag = "OR" then (readBranches engine context tag body).map .or
    else if tag = "IS" then readPattern engine context body
    else readComparison context tag body
  | members => .error (.notSingle "filter" members.length)

/-- The branches of a conjunction or disjunction; there is at least one. -/
def readBranches (engine : ExpressionEngine) (context : KeyContext) (tag : String) :
    Json → Except Fault (List Filter)
  | .array [] => .error (.emptyArray tag)
  | .array (item :: items) => do
    let filter ← readFilter engine context tag item
    let filters ← readFilters engine context tag items
    return filter :: filters
  | _ => .error (.notArray tag)

/-- Filters, one after the other. -/
def readFilters (engine : ExpressionEngine) (context : KeyContext) (tag : String) :
    List Json → Except Fault (List Filter)
  | [] => .ok []
  | item :: items => do
    let filter ← readFilter engine context tag item
    let filters ← readFilters engine context tag items
    return filter :: filters

end

/-! ### The whole query -/

/-- The members a query may have. -/
def rootNames : List String := ["WHERE", "OPTIONS", "TRANSFORMATIONS"]

/-- The members its options may have. -/
def optionNames : List String := ["COLUMNS", "ORDER"]

/-- The query a tree stands for, checked against a schema. The patterns in it are compiled with the
given library. -/
def validateWith (engine : ExpressionEngine) (tree : Json) (schema : Schema) :
    Except Fault Query := do
  let root ← requireObject "query" tree
  requireNames rootNames .unexpectedKey root
  let filter ← require (.missing "WHERE") (root.lookup "WHERE")
  let options ← require (.missing "OPTIONS") (root.lookup "OPTIONS")
  let optionMembers ← requireObject "OPTIONS" options
  let context : KeyContext := ⟨← queryDatasetId tree, schema⟩
  let transformations ← readOptional (readTransformations context) (root.lookup "TRANSFORMATIONS")
  requireNames optionNames .unexpectedOption optionMembers
  let columns ← readColumns context transformations
    (← require (.missing "COLUMNS") (optionMembers.lookup "COLUMNS"))
  let order ← readOptional (readOrder columns) (optionMembers.lookup "ORDER")
  let filter ← readFilter engine context "WHERE" filter
  return ⟨context.datasetId, filter, columns, order, transformations⟩

/-- The query a tree stands for, checked against a schema. -/
def validate (tree : Json) (schema : Schema) : Except Fault Query :=
  validateWith .standard tree schema

end Registrar

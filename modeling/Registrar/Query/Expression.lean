import Registrar.Query.Fault

/-!
# Patterns as regular expressions

Patterns are handed to a library of regular expressions: stars become `.*`, the literal is escaped,
and the whole is anchored at both ends. What is said of a library here is what patterns use of it:
a part of its syntax, what expressions mean, and how large they may be.

An expression is compiled to a program, and there is a limit to the size of a program. So a text may
be a pattern and still be refused: every byte of a literal takes a state, and every star takes
several. Two programs are made, one to find where a match ends and one to go back from there to
where it starts, and the limit is for each.

## Main definitions

* `Expression.read?` — the steps that the text of an expression stands for.
* `Expression.FoundIn` — where such steps are found.
* `Expression.fits` — whether their programs are not too large.
* `ExpressionEngine` — a library; `ExpressionEngine.standard` is the one that queries use.
* `ExpressionEngine.prepare` — reads a pattern and compiles its expression.
-/

namespace Registrar

namespace Expression

/-! ### Syntax -/

/-- What one character is compared with. -/
inductive Atom where
  /-- A dot: any character, but line breaks only if `lineBreaks` is set. -/
  | any (lineBreaks : Bool)
  | char (c : Char)
deriving DecidableEq, Repr

/-- One step of an expression. -/
inductive Step where
  /-- The anchor at the start of the text. -/
  | start
  /-- The anchor at the end of the text. -/
  | finish
  | one (atom : Atom)
  /-- Any number of characters, each as the atom says. -/
  | many (atom : Atom)
deriving DecidableEq, Repr

/-- The pieces that an expression is written with. -/
inductive Token where
  /-- The flag that lets dots stand for line breaks, from here on. -/
  | lineBreaks
  | start
  | finish
  | dot
  | star
  | char (c : Char)
deriving DecidableEq, Repr

/-- The characters that have a meaning of their own. -/
def metacharacters : List Char :=
  ['\\', '.', '+', '*', '?', '(', ')', '|', '[', ']', '{', '}', '^', '$', '#', '&', '-', '~']

/-- A character that stands for itself. -/
def escapeChar (c : Char) : List Char :=
  if c ∈ metacharacters then ['\\', c] else [c]

/-- The pieces of a text, after those that were read before it, the last one first. Other flags,
groups, classes and repetitions are not among them. -/
def tokens? (before : List Token) : List Char → Option (List Token)
  | [] => some before.reverse
  | '(' :: '?' :: 's' :: ')' :: rest => tokens? (.lineBreaks :: before) rest
  | '^' :: rest => tokens? (.start :: before) rest
  | '$' :: rest => tokens? (.finish :: before) rest
  | '.' :: rest => tokens? (.dot :: before) rest
  | '*' :: rest => tokens? (.star :: before) rest
  | '\\' :: c :: rest => if c ∈ metacharacters then tokens? (.char c :: before) rest else none
  | c :: rest => if c ∈ metacharacters then none else tokens? (.char c :: before) rest

/-- The steps of pieces, after those that were found before them, the last one first. A star repeats
the atom before it, and nothing else can be repeated. -/
def steps? (lineBreaks : Bool) (before : List Step) : List Token → Option (List Step)
  | [] => some before.reverse
  | .lineBreaks :: rest => steps? true before rest
  | .start :: rest => steps? lineBreaks (.start :: before) rest
  | .finish :: rest => steps? lineBreaks (.finish :: before) rest
  | .dot :: .star :: rest => steps? lineBreaks (.many (.any lineBreaks) :: before) rest
  | .dot :: rest => steps? lineBreaks (.one (.any lineBreaks) :: before) rest
  | .char c :: .star :: rest => steps? lineBreaks (.many (.char c) :: before) rest
  | .char c :: rest => steps? lineBreaks (.one (.char c) :: before) rest
  | .star :: _ => none

/-- The steps that the text of an expression stands for. -/
def read? (text : String) : Option (List Step) :=
  (tokens? [] text.toList).bind (steps? false [])

/-! ### Meaning -/

/-- Whether a character is as an atom says. -/
def Atom.Admits : Atom → Char → Prop
  | any lineBreaks, c => lineBreaks = true ∨ c ≠ '\n'
  | char expected, c => c = expected

instance (atom : Atom) (c : Char) : Decidable (atom.Admits c) :=
  match atom with
  | .any _ => inferInstanceAs (Decidable (_ ∨ _))
  | .char _ => inferInstanceAs (Decidable (_ = _))

/-- Whether steps match the text `rest`, or a part of it that it begins with, where `before` is the
text that stands before it. -/
def MatchesAt : List Step → List Char → List Char → Prop
  | [], _, _ => True
  | .start :: steps, before, rest => before = [] ∧ MatchesAt steps before rest
  | .finish :: steps, before, rest => rest = [] ∧ MatchesAt steps before rest
  | .one _ :: _, _, [] => False
  | .one atom :: steps, before, c :: rest => atom.Admits c ∧ MatchesAt steps (before ++ [c]) rest
  | .many atom :: steps, before, rest =>
    ∃ n ≤ rest.length, (∀ c ∈ rest.take n, atom.Admits c) ∧
      MatchesAt steps (before ++ rest.take n) (rest.drop n)

instance instDecidableMatchesAt :
    (steps : List Step) → (before rest : List Char) → Decidable (MatchesAt steps before rest)
  | [], _, _ => inferInstanceAs (Decidable True)
  | .start :: steps, before, rest =>
    have := instDecidableMatchesAt steps before rest
    inferInstanceAs (Decidable (_ ∧ _))
  | .finish :: steps, before, rest =>
    have := instDecidableMatchesAt steps before rest
    inferInstanceAs (Decidable (_ ∧ _))
  | .one _ :: _, _, [] => inferInstanceAs (Decidable False)
  | .one _ :: steps, before, c :: rest =>
    have := instDecidableMatchesAt steps (before ++ [c]) rest
    inferInstanceAs (Decidable (_ ∧ _))
  | .many _ :: steps, before, rest =>
    have (n : Nat) := instDecidableMatchesAt steps (before ++ rest.take n) (rest.drop n)
    inferInstanceAs (Decidable (∃ n, n ≤ rest.length ∧ _))

/-- Whether steps match somewhere in a text. -/
def FoundIn (steps : List Step) (value : String) : Prop :=
  ∃ n ≤ value.toList.length, MatchesAt steps (value.toList.take n) (value.toList.drop n)

instance (steps : List Step) (value : String) : Decidable (FoundIn steps value) :=
  inferInstanceAs (Decidable (∃ n, n ≤ value.toList.length ∧ _))

/-! ### Size -/

/-- The bytes of a state of a program. -/
def stateSize : Nat := 32

/-- The bytes of an atom in a program, which reads a text forwards or backwards. A character has a
state for each byte. All characters together have nine states with sixteen ranges of bytes between
them, of eight bytes each. Backwards they have a state for each of twenty-seven ranges and two more,
with nine ways to go on, of four bytes each. There is one range more if line breaks are left out. -/
def Atom.size (backwards : Bool) : Atom → Nat
  | any lineBreaks =>
    if backwards then
      if lineBreaks then 29 * stateSize + 4 * 9 else 30 * stateSize + 4 * 10
    else
      if lineBreaks then 9 * stateSize + 8 * 16 else 9 * stateSize + 8 * 17
  | char c => c.utf8Size * stateSize

/-- The bytes of a step. A repetition has one more state, with two ways to go on. -/
def Step.size (backwards : Bool) : Step → Nat
  | start | finish => stateSize
  | one atom => atom.size backwards
  | many atom => stateSize + 4 * 2 + atom.size backwards

/-- The bytes of a program. It has a state before all steps and one after them, and forwards one at
either end of what is found. -/
def programSize (backwards : Bool) (steps : List Step) : Nat :=
  steps.foldl (fun size step => size + step.size backwards)
    ((if backwards then 2 else 4) * stateSize)

/-- The largest size of a program, ten mebibytes. -/
def sizeLimit : Nat := 10485760

/-- Whether the programs of an expression, for both ways to read a text, are not too large. -/
def fits (steps : List Step) : Bool :=
  decide (programSize false steps ≤ sizeLimit) && decide (programSize true steps ≤ sizeLimit)

/-- What the library says of an expression whose program would be larger. -/
def sizeRefusal : String :=
  "Compiled regex exceeds size limit of " ++ toString sizeLimit ++ " bytes."

end Expression

/-! ### A library -/

/-- A library of regular expressions, as far as patterns use it. -/
structure ExpressionEngine where
  /-- What an expression is compiled to. -/
  Program : Type
  /-- Writes a text so that it stands for itself. -/
  escape : String → String
  /-- Compiles an expression, or tells why it does not. -/
  compile : String → Except String Program
  /-- Whether a program matches somewhere in a text. -/
  isMatch : Program → String → Bool

/-- The expression of a pattern: dots stand for line breaks too, and both ends are anchored. -/
def Pattern.expression (engine : ExpressionEngine) (pattern : Pattern) : String :=
  "(?s)^" ++ (if pattern.leading then ".*" else "") ++
    engine.escape (String.ofList pattern.literal) ++ (if pattern.trailing then ".*" else "") ++ "$"

namespace ExpressionEngine

/-- Reads a pattern and compiles its expression. -/
def prepare (engine : ExpressionEngine) (raw : String) : Except Fault (Pattern × engine.Program) :=
  match Pattern.ofText? raw with
  | none => .error (.innerStar raw)
  | some pattern =>
    match engine.compile (pattern.expression engine) with
    | .ok program => .ok (pattern, program)
    | .error reason => .error (.uncompiled raw reason)

/-- The library that queries use. Its programs are the steps of expressions. -/
def standard : ExpressionEngine where
  Program := List Expression.Step
  escape text := String.ofList (text.toList.flatMap Expression.escapeChar)
  compile text :=
    match Expression.read? text with
    | none => .error "not supported"
    | some steps =>
      if Expression.fits steps then .ok steps else .error Expression.sizeRefusal
  isMatch steps value := decide (Expression.FoundIn steps value)

end ExpressionEngine

end Registrar

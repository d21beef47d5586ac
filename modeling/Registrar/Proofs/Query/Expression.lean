import Mathlib.Algebra.GroupWithZero.Nat
import Registrar.Proofs.Query.Pattern
import Registrar.Query.Expression

/-!
# What expressions mean

The expression of a pattern is read as a few steps, and these are found in the values that the
pattern covers. So a pattern may be matched directly, without its expression. This holds for every
library that keeps to its documentation, `ExpressionEngine.Documented`.

A library may refuse an expression that is well formed, if its program would be too large. That is
the `limit` of its documentation; nothing is assumed about it.

## Main definitions

* `ExpressionEngine.Documented` — what a library documents.
* `Pattern.Covers` — the values that a pattern stands for.
* `ExpressionEngine.Compiles` — a library compiles the expression of a pattern.

## Main results

* `Pattern.read?_expression` — the expression of a pattern reads as the steps of the pattern.
* `Pattern.foundIn_steps_iff` — these steps are found in the values that the pattern covers.
* `Pattern.accepts_iff` — these are the values that the pattern accepts.
* `ExpressionEngine.exists_prepare_eq_ok_iff` — which texts are prepared as patterns.
* `ExpressionEngine.documented_standard` — the library of queries keeps to the documentation.
-/

namespace Registrar

namespace Expression

/-! ### Matching -/

theorem foundIn_start_iff {steps : List Step} {value : String} :
    FoundIn (.start :: steps) value ↔ MatchesAt steps [] value.toList := by
  constructor
  · rintro ⟨n, -, hbefore, hmatches⟩
    obtain hn | hvalue := List.take_eq_nil_iff.mp hbefore
    · simpa [hn] using hmatches
    · simpa [hvalue] using hmatches
  · exact fun h => ⟨0, Nat.zero_le _, rfl, h⟩

/-- Steps that compare with a literal. -/
theorem matchesAt_literal_iff {literal before rest : List Char} {steps : List Step} :
    MatchesAt (literal.map (fun c => .one (.char c)) ++ steps) before rest ↔
      ∃ after, rest = literal ++ after ∧ MatchesAt steps (before ++ literal) after := by
  induction literal generalizing before rest with
  | nil => simp
  | cons c literal ih =>
    cases rest with
    | nil => simp [MatchesAt]
    | cons d rest =>
      simp only [List.map_cons, List.cons_append, MatchesAt, Atom.Admits, ih, List.cons.injEq,
        List.append_assoc, List.nil_append]
      constructor
      · rintro ⟨rfl, after, rfl, hmatches⟩
        exact ⟨after, ⟨rfl, rfl⟩, hmatches⟩
      · rintro ⟨after, ⟨rfl, rfl⟩, hmatches⟩
        exact ⟨rfl, after, rfl, hmatches⟩

/-- A step that admits every character takes up any text. -/
theorem matchesAt_many_any_iff {before rest : List Char} {steps : List Step} :
    MatchesAt (.many (.any true) :: steps) before rest ↔
      ∃ taken after, rest = taken ++ after ∧ MatchesAt steps (before ++ taken) after := by
  constructor
  · rintro ⟨n, -, -, hmatches⟩
    exact ⟨rest.take n, rest.drop n, (List.take_append_drop n rest).symm, hmatches⟩
  · rintro ⟨taken, after, rfl, hmatches⟩
    refine ⟨taken.length, by simp, fun _ _ => .inl rfl, ?_⟩
    simpa using hmatches

/-! ### Literals -/

/-- A character that is escaped reads as itself. -/
theorem tokens?_escapeChar (before : List Token) (c : Char) (rest : List Char) :
    tokens? before (escapeChar c ++ rest) = tokens? (.char c :: before) rest := by
  rw [escapeChar]
  split
  · next hmeta => simp [tokens?, hmeta]
  · next hplain =>
    simp only [metacharacters, List.mem_cons, List.not_mem_nil, or_false, not_or] at hplain
    rw [List.singleton_append, tokens?, if_neg (by simpa [metacharacters] using hplain)]
    all_goals simp [hplain]

theorem tokens?_literal (before : List Token) (literal rest : List Char) :
    tokens? before (literal.flatMap escapeChar ++ rest) =
      tokens? ((literal.map .char).reverse ++ before) rest := by
  induction literal generalizing before with
  | nil => rfl
  | cons c literal ih =>
    rw [List.flatMap_cons, List.append_assoc, tokens?_escapeChar, ih, List.map_cons,
      List.reverse_cons, List.append_assoc]
    rfl

theorem steps?_literal {lineBreaks : Bool} (before : List Step) (literal : List Char)
    {rest : List Token} (hrest : ∀ others, rest ≠ .star :: others) :
    steps? lineBreaks before (literal.map .char ++ rest) =
      steps? lineBreaks ((literal.map fun c => .one (.char c)).reverse ++ before) rest := by
  induction literal generalizing before with
  | nil => rfl
  | cons c literal ih =>
    have hnext (others : List Token) : literal.map .char ++ rest ≠ .star :: others := by
      cases literal with
      | nil => exact hrest others
      | cons => simp
    rw [List.map_cons, List.cons_append, steps?, ih, List.map_cons, List.reverse_cons,
      List.append_assoc]
    · rfl
    · exact hnext

end Expression

/-! ### What a library documents -/

/-- What a library documents. Expressions for which `limit` holds may be refused. -/
structure ExpressionEngine.Documented (engine : ExpressionEngine) (limit : String → Prop) :
    Prop where
  /-- Characters with a meaning of their own are escaped, all others are left alone. -/
  escape (text : String) :
    (engine.escape text).toList = text.toList.flatMap Expression.escapeChar
  /-- Well-formed expressions within the limit are compiled. -/
  compiles {text : String} {steps : List Expression.Step} :
    Expression.read? text = some steps → ¬ limit text →
      ∃ program, engine.compile text = .ok program
  /-- A program matches where the steps of its expression are found. -/
  matches_iff {text : String} {steps : List Expression.Step} {program : engine.Program} :
    Expression.read? text = some steps → engine.compile text = .ok program →
      ∀ value, engine.isMatch program value = true ↔ Expression.FoundIn steps value

/-! ### Patterns -/

namespace Pattern

variable {engine : ExpressionEngine} {limit : String → Prop}

/-- The steps that the expression of a pattern stands for. -/
def steps (pattern : Pattern) : List Expression.Step :=
  .start :: ((if pattern.leading then [.many (.any true)] else []) ++
    (pattern.literal.map (fun c => .one (.char c)) ++
      ((if pattern.trailing then [.many (.any true)] else []) ++ [.finish])))

/-- The values that a pattern stands for: a star is any text, and the literal is itself. -/
def Covers (pattern : Pattern) (value : List Char) : Prop :=
  ∃ before after, value = before ++ pattern.literal ++ after ∧
    (pattern.leading = false → before = []) ∧ (pattern.trailing = false → after = [])

/-- The expression of a pattern reads as the steps of the pattern. -/
theorem read?_expression (documented : engine.Documented limit) (pattern : Pattern) :
    Expression.read? (pattern.expression engine) = some pattern.steps := by
  have htext : (pattern.expression engine).toList =
      ['(', '?', 's', ')', '^'] ++ ((if pattern.leading then ['.', '*'] else []) ++
        (pattern.literal.flatMap Expression.escapeChar ++
          ((if pattern.trailing then ['.', '*'] else []) ++ ['$']))) := by
    cases hleading : pattern.leading <;> cases htrailing : pattern.trailing <;>
      simp [expression, documented.escape, hleading, htrailing]
  rw [Expression.read?, htext, steps]
  cases pattern.leading <;> cases pattern.trailing <;>
    simp [Expression.tokens?, Expression.tokens?_literal, Expression.steps?,
      Expression.steps?_literal]

example : Expression.read? "(?s)^.*a\\.b$" =
    some (Pattern.mk true ['a', '.', 'b'] false).steps := by
  decide

/-- The steps of a pattern are found in the values that the pattern covers. -/
theorem foundIn_steps_iff {pattern : Pattern} {value : String} :
    Expression.FoundIn pattern.steps value ↔ pattern.Covers value.toList := by
  obtain ⟨leading, literal, trailing⟩ := pattern
  have hend (before after : List Char) :
      Expression.MatchesAt ((if trailing then [.many (.any true)] else []) ++ [.finish])
        before after ↔ (trailing = false → after = []) := by
    cases trailing
    · simp [Expression.MatchesAt]
    · simp [Expression.matchesAt_many_any_iff, Expression.MatchesAt]
  have hmiddle (before rest : List Char) :
      Expression.MatchesAt (literal.map (fun c => .one (.char c)) ++
        ((if trailing then [.many (.any true)] else []) ++ [.finish])) before rest ↔
          ∃ after, rest = literal ++ after ∧ (trailing = false → after = []) := by
    simp only [Expression.matchesAt_literal_iff, hend]
  rw [steps, Expression.foundIn_start_iff, Covers]
  cases leading
  · simp [hmiddle]
  · simp [Expression.matchesAt_many_any_iff, hmiddle]

theorem occursIn_iff {literal value : List Char} :
    occursIn literal value = true ↔ literal <:+: value := by
  induction value with
  | nil => simp [occursIn]
  | cons c rest ih =>
    rw [occursIn, Bool.or_eq_true, List.isPrefixOf_iff_prefix, ih, List.infix_cons_iff]

/-- The values that a pattern covers are the ones that it accepts. -/
theorem accepts_iff {pattern : Pattern} {value : String} :
    pattern.accepts value = true ↔ pattern.Covers value.toList := by
  obtain ⟨leading, literal, trailing⟩ := pattern
  rw [Covers]
  cases leading <;> cases trailing
  · simp [accepts]
  · simp [accepts, List.isPrefixOf_iff_prefix, List.IsPrefix, @eq_comm _ _ value.toList]
  · simp [accepts, List.isSuffixOf_iff_suffix, List.IsSuffix, @eq_comm _ _ value.toList]
  · simp [accepts, occursIn_iff, List.IsInfix, @eq_comm _ _ value.toList]

end Pattern

/-! ### Size -/

namespace Expression

/-- The size of a program is that of its steps and of the states around them. -/
theorem programSize_eq (backwards : Bool) (steps : List Step) :
    programSize backwards steps = (if backwards then 2 else 4) * stateSize +
      (steps.map (Step.size backwards)).sum := by
  have hfold (size : Nat) : steps.foldl (fun size step => size + step.size backwards) size =
      size + (steps.map (Step.size backwards)).sum := by
    induction steps generalizing size with
    | nil => rfl
    | cons step steps ih =>
      rw [List.foldl_cons, ih, List.map_cons, List.sum_cons, Nat.add_assoc]
  exact hfold _

theorem sum_size_literal (backwards : Bool) (literal : List Char) :
    (literal.map fun c => Step.size backwards (.one (.char c))).sum =
      (String.ofList literal).utf8ByteSize * stateSize := by
  rw [String.utf8ByteSize_ofList]
  induction literal with
  | nil => rfl
  | cons c literal ih =>
    have hone : Step.size backwards (.one (.char c)) = c.utf8Size * stateSize := rfl
    rw [List.map_cons, List.sum_cons, ih, hone, String.utf8Len_cons, Nat.add_mul, Nat.add_comm]

end Expression

/-- Every byte of the literal of a pattern takes a state. -/
theorem Pattern.le_programSize_steps (pattern : Pattern) (backwards : Bool) :
    (String.ofList pattern.literal).utf8ByteSize * Expression.stateSize ≤
      Expression.programSize backwards pattern.steps := by
  rw [Expression.programSize_eq, steps, ← Expression.sum_size_literal backwards]
  simp only [List.map_cons, List.map_append, List.sum_cons, List.sum_append, List.map_map,
    Function.comp_def]
  omega

/-! ### Preparing patterns -/

namespace ExpressionEngine

variable {engine : ExpressionEngine} {raw : String} {pattern : Pattern}

/-- The library compiles the expression of the pattern. -/
def Compiles (engine : ExpressionEngine) (pattern : Pattern) : Prop :=
  ∃ program, engine.compile (pattern.expression engine) = .ok program

theorem Documented.compilesPattern {limit : String → Prop} (documented : engine.Documented limit)
    (h : ¬limit (pattern.expression engine)) : engine.Compiles pattern :=
  documented.compiles (pattern.read?_expression documented) h

theorem prepare_of_none (h : Pattern.ofText? raw = none) :
    engine.prepare raw = .error (.innerStar raw) := by
  rw [prepare, h]

theorem prepare_eq_ok_iff {program : engine.Program} :
    engine.prepare raw = .ok (pattern, program) ↔ Pattern.ofText? raw = some pattern ∧
      engine.compile (pattern.expression engine) = .ok program := by
  rw [prepare]
  cases Pattern.ofText? raw with
  | none => simp
  | some found =>
    dsimp only
    constructor
    · intro h
      cases hcompile : engine.compile (found.expression engine) with
      | error reason => simp [hcompile] at h
      | ok compiled =>
        simp only [hcompile, Except.ok.injEq, Prod.mk.injEq] at h
        obtain ⟨rfl, rfl⟩ := h
        exact ⟨rfl, hcompile⟩
    · rintro ⟨hfound, hcompile⟩
      obtain rfl := Option.some.inj hfound
      rw [hcompile]

/-- **A pattern is prepared exactly if its text is one and the library compiles it.** -/
theorem exists_prepare_eq_ok_iff :
    (∃ program, engine.prepare raw = .ok (pattern, program)) ↔
      Pattern.ofText? raw = some pattern ∧ engine.Compiles pattern := by
  simp only [prepare_eq_ok_iff, exists_and_left, Compiles]

/-- A pattern that is not prepared is one that the library does not compile. -/
theorem prepare_eq_error {fault : Fault} (h : Pattern.ofText? raw = some pattern)
    (hfault : engine.prepare raw = .error fault) : ∃ reason,
      engine.compile (pattern.expression engine) = .error reason ∧
        fault = .uncompiled raw reason := by
  rw [prepare, h] at hfault
  dsimp only at hfault
  split at hfault
  · cases hfault
  · next reason hreason =>
    cases hfault
    exact ⟨reason, hreason, rfl⟩

/-! ### The library of queries -/

/-- The expressions that the library of queries refuses because of their size. -/
def TooLarge (text : String) : Prop :=
  ∃ steps, Expression.read? text = some steps ∧ Expression.fits steps = false

/-- The library that queries use keeps to the documentation. -/
theorem documented_standard : standard.Documented TooLarge where
  escape _ := String.toList_ofList
  compiles {_ steps} hread hlimit := by
    have hfits : Expression.fits steps = true :=
      Bool.not_eq_false _ ▸ fun h => hlimit ⟨steps, hread, h⟩
    refine ⟨steps, ?_⟩
    simp only [standard, hread]
    exact if_pos hfits
  matches_iff {_ steps program} hread hcompile value := by
    simp only [standard, hread] at hcompile
    split at hcompile
    · obtain rfl : steps = program := Except.ok.inj hcompile
      exact decide_eq_true_iff
    · cases hcompile

theorem tooLarge_expression_iff :
    TooLarge (pattern.expression standard) ↔ Expression.fits pattern.steps = false := by
  have hread := pattern.read?_expression documented_standard
  constructor
  · rintro ⟨steps, hsteps, hlarge⟩
    obtain rfl : pattern.steps = steps := Option.some.inj (hread.symm.trans hsteps)
    exact hlarge
  · exact fun hlarge => ⟨_, hread, hlarge⟩

theorem fits_of_compiles_standard (h : standard.Compiles pattern) :
    Expression.fits pattern.steps = true := by
  obtain ⟨program, hcompile⟩ := h
  have hread := pattern.read?_expression documented_standard
  simp only [standard] at hread hcompile
  rw [hread] at hcompile
  dsimp only at hcompile
  split at hcompile
  · assumption
  · cases hcompile

end ExpressionEngine

end Registrar

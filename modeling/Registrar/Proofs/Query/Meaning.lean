import Registrar.Proofs.Query.Grammar
import Registrar.Storage.QueryService

/-!
# What patterns mean

A pattern text is read by what it looks like: take the star off its front, if it has one, and then
the star off its end, if there is one left. What remains is the literal. A value matches if it is
the literal with something before it, which must be empty unless there was a star at the front, and
something after it, which must be empty unless there was one at the end.

The first star counts for the front only. So the text of a single star has no star at its end, and
its literal is empty, as is that of two stars; with three, one is left over and the text is refused.

A pattern can be matched directly, or through a library of regular expressions; both agree with what
the text says. But a library may refuse a pattern because of its size.

## Main definitions

* `Means` — the values that a pattern text stands for.
* `ExpressionEngine.compilePattern` — what a pattern text is compiled to.

## Main results

* `patterns_mean_their_text` — which texts are patterns, and which values they match.
-/

namespace Registrar

/-! ### What a text says -/

/-- Whether there is a star at the front of a text. -/
def startsWithStar (raw : String) : Bool :=
  raw.toList.head? == some '*'

/-- Whether there is a star at the end of a text that is not the one at its front. -/
def endsWithOtherStar (raw : String) : Bool :=
  raw.toList.tail.getLast? == some '*'

/-- The values that a pattern text stands for. -/
def Means (raw value : String) : Prop :=
  ∃ literal before after : String,
    raw = (if startsWithStar raw then "*" else "") ++ literal ++
      (if endsWithOtherStar raw then "*" else "") ∧
    value = before ++ literal ++ after ∧
    (startsWithStar raw = false → before = "") ∧ (endsWithOtherStar raw = false → after = "")

namespace Pattern

theorem splitLast_fst (text : List Char) : (splitLast text).1 = (text.getLast? == some '*') := by
  rw [splitLast]
  split <;> simp_all

/-- The stars of a pattern are those at the ends of its text. -/
theorem stars_of_ofText? {raw : String} {pattern : Pattern} (h : ofText? raw = some pattern) :
    pattern.leading = startsWithStar raw ∧ pattern.trailing = endsWithOtherStar raw := by
  have hstars {leading : Bool} {rest : List Char}
      (hrest : (if (splitLast rest).2.contains '*' then none
        else some (Pattern.mk leading (splitLast rest).2 (splitLast rest).1)) = some pattern) :
      pattern.leading = leading ∧ pattern.trailing = (rest.getLast? == some '*') := by
    split at hrest
    · cases hrest
    · obtain rfl := Option.some_inj.mp hrest
      exact ⟨rfl, splitLast_fst rest⟩
  rw [ofText?] at h
  split at h
  next leading rest hparts =>
    obtain ⟨hleading, htrailing⟩ := hstars h
    rw [hleading, htrailing, startsWithStar, endsWithOtherStar]
    split at hparts
    · next htext =>
      cases hparts
      simp [htext]
    · next hother =>
      cases hparts
      -- The first character is no star, so it is none at the end either.
      cases htext : raw.toList with
      | nil => simp
      | cons c rest =>
        have hc : c ≠ '*' := fun hc => hother rest (hc ▸ htext)
        cases rest <;> simp [hc]

/-- The values that a pattern covers are the ones that its text stands for. -/
theorem covers_iff_means {raw : String} {pattern : Pattern} (h : ofText? raw = some pattern)
    (value : String) : pattern.Covers value.toList ↔ Means raw value := by
  obtain ⟨hleading, htrailing⟩ := stars_of_ofText? h
  have hraw : raw.toList = (if startsWithStar raw then ['*'] else []) ++ pattern.literal ++
      (if endsWithOtherStar raw then ['*'] else []) := by
    rw [← hleading, ← htrailing, ← text_of_ofText? h, text, String.toList_ofList]
  have hstar (present : Bool) :
      (if present then "*" else "").toList = if present then ['*'] else [] := by
    cases present <;> rfl
  rw [Covers, Means, hleading, htrailing]
  constructor
  · rintro ⟨before, after, hvalue, hbefore, hafter⟩
    refine ⟨String.ofList pattern.literal, String.ofList before, String.ofList after, ?_, ?_,
      fun hnone => by rw [hbefore hnone], fun hnone => by rw [hafter hnone]⟩
    · simpa only [← String.toList_inj, String.toList_append, hstar, String.toList_ofList] using hraw
    · simpa only [← String.toList_inj, String.toList_append, String.toList_ofList] using hvalue
  · rintro ⟨literal, before, after, hsplit, rfl, hbefore, hafter⟩
    have hliteral : literal.toList = pattern.literal := by
      rw [← String.toList_inj] at hsplit
      simpa only [String.toList_append, hstar, List.append_cancel_right_eq,
        List.append_cancel_left_eq] using hsplit.symm.trans hraw
    refine ⟨before.toList, after.toList, by simp [← hliteral], ?_, ?_⟩
    · exact fun hnone => by rw [hbefore hnone, String.toList_empty]
    · exact fun hnone => by rw [hafter hnone, String.toList_empty]

end Pattern

/-! ### Compiling -/

namespace ExpressionEngine

variable {engine : ExpressionEngine} {limit : String → Prop}

/-- What a pattern is compiled to, or the error of a query that it is in. -/
def compilePattern (engine : ExpressionEngine) (raw : String) :
    Except QueryError engine.Program :=
  ((engine.prepare raw).map Prod.snd).mapError .ofFault

theorem compilePattern_of_none {raw : String} (h : Pattern.ofText? raw = none) :
    engine.compilePattern raw = .error (.ofFault (.innerStar raw)) := by
  rw [compilePattern, prepare_of_none h]
  rfl

theorem compilePattern_eq_ok_iff {raw : String} {pattern : Pattern} {program : engine.Program}
    (h : Pattern.ofText? raw = some pattern) :
    engine.compilePattern raw = .ok program ↔ engine.prepare raw = .ok (pattern, program) := by
  rw [compilePattern]
  cases hprepare : engine.prepare raw with
  | error fault => simp [Except.map, Except.mapError]
  | ok prepared =>
    obtain ⟨found, compiled⟩ := prepared
    obtain rfl := Option.some.inj ((prepare_eq_ok_iff.mp hprepare).1.symm.trans h)
    simp [Except.map, Except.mapError]

/-- A pattern within the limit is compiled. -/
theorem Documented.exists_compilePattern (documented : engine.Documented limit) {raw : String}
    {pattern : Pattern} (h : Pattern.ofText? raw = some pattern)
    (hlimit : ¬ limit (pattern.expression engine)) :
    ∃ program, engine.compilePattern raw = .ok program := by
  obtain ⟨program, hcompile⟩ := documented.compilesPattern hlimit
  exact ⟨program, (compilePattern_eq_ok_iff h).mpr (prepare_eq_ok_iff.mpr ⟨h, hcompile⟩)⟩

/-- What a pattern is compiled to matches the values that the text stands for. -/
theorem Documented.isMatch_iff_means (documented : engine.Documented limit) {raw : String}
    {pattern : Pattern} {program : engine.Program}
    (hprogram : engine.prepare raw = .ok (pattern, program)) (value : String) :
    engine.isMatch program value = true ↔ Means raw value := by
  obtain ⟨h, hcompile⟩ := prepare_eq_ok_iff.mp hprogram
  have hmatch := documented.matches_iff (pattern.read?_expression documented) hcompile value
  exact hmatch.trans (Pattern.foundIn_steps_iff.trans (Pattern.covers_iff_means h value))

end ExpressionEngine

/-- A text condition has the pattern of its text, if this is compiled; otherwise it is refused for
the same reason. -/
theorem readPattern_string {engine : ExpressionEngine} {context : KeyContext} {key : String}
    {fieldKey : FieldKey} (hkey : readKey context (some .text) key = .ok fieldKey) (raw : String) :
    readPattern engine context (.object [(key, .string raw)]) =
      (engine.prepare raw).map fun prepared => .accepts fieldKey prepared.1 := by
  simp only [readPattern, requireSingle, requireObject, bind, Except.bind, pure, Except.pure, hkey,
    Json.string?, require]
  cases engine.prepare raw <;> rfl

/-- Exactly the texts with stars at their ends only are patterns; other texts are refused as not
valid. A pattern matches the values that its text stands for, whether it is matched directly or
through a library that keeps to its documentation. Such a library compiles every pattern within its
limit, and what it compiles is accepted. -/
theorem patterns_mean_their_text {engine : ExpressionEngine} {limit : String → Prop}
    (documented : engine.Documented limit) (raw : String) :
    ((∃ pattern, Pattern.ofText? raw = some pattern) ↔ StarsAtEnds raw) ∧
    (¬ StarsAtEnds raw →
      engine.compilePattern raw = .error (.invalid (Fault.innerStar raw).message) ∧
      ∀ context key fieldKey, readKey context (some .text) key = .ok fieldKey →
        readPattern engine context (.object [(key, .string raw)]) = .error (.innerStar raw)) ∧
    ∀ pattern, Pattern.ofText? raw = some pattern →
      (∀ value, pattern.accepts value = true ↔ Means raw value) ∧
      (¬ limit (pattern.expression engine) → ∃ program, engine.compilePattern raw = .ok program) ∧
      ∀ program, engine.compilePattern raw = .ok program →
        (∀ context key fieldKey, readKey context (some .text) key = .ok fieldKey →
          readPattern engine context (.object [(key, .string raw)]) =
            .ok (.accepts fieldKey pattern)) ∧
        ∀ value, engine.isMatch program value = true ↔ Means raw value := by
  refine ⟨Pattern.ofText?_isSome_iff, fun hstars => ?_, fun pattern hpattern => ?_⟩
  · have hnone : Pattern.ofText? raw = none := by
      rw [← Pattern.ofText?_isSome_iff] at hstars
      exact Option.eq_none_iff_forall_not_mem.mpr fun pattern hpattern => hstars ⟨pattern, hpattern⟩
    refine ⟨ExpressionEngine.compilePattern_of_none hnone, fun context key fieldKey hkey => ?_⟩
    rw [readPattern_string hkey, ExpressionEngine.prepare_of_none hnone]
    rfl
  · refine ⟨fun value => ?_, ?_, fun program hprogram => ?_⟩
    · exact Pattern.accepts_iff.trans (Pattern.covers_iff_means hpattern value)
    · exact documented.exists_compilePattern hpattern
    · have hprepare := (ExpressionEngine.compilePattern_eq_ok_iff hpattern).mp hprogram
      refine ⟨fun context key fieldKey hkey => ?_, documented.isMatch_iff_means hprepare⟩
      rw [readPattern_string hkey, hprepare]
      rfl

/-- A dot of the text is a dot, and a star stands for line breaks too. -/
theorem patterns_mean_their_text_dotted :
    ExpressionEngine.standard.Documented ExpressionEngine.TooLarge ∧
    (∃ program, ExpressionEngine.standard.compilePattern "*a.b" = .ok program ∧
      ExpressionEngine.standard.isMatch program "x\na.b" = true ∧
      ExpressionEngine.standard.isMatch program "x\nacb" = false) ∧
    ExpressionEngine.standard.compilePattern "***" =
      .error (.invalid (Fault.innerStar "***").message) := by
  have documented := ExpressionEngine.documented_standard
  obtain ⟨-, -, hpattern⟩ := patterns_mean_their_text documented "*a.b"
  obtain ⟨haccepts, hcompiles, hmatches⟩ := hpattern ⟨true, ['a', '.', 'b'], false⟩ (by decide)
  obtain ⟨program, hprogram⟩ := hcompiles
    fun hlarge => absurd (ExpressionEngine.tooLarge_expression_iff.mp hlarge) (by decide)
  have hsame (value : String) := ((hmatches program hprogram).2 value).trans (haccepts value).symm
  refine ⟨documented, ⟨program, hprogram, (hsame _).mpr (by decide), ?_⟩, ?_⟩
  · exact Bool.eq_false_iff.mpr fun h => absurd ((hsame _).mp h) (by decide)
  · obtain ⟨hstars, hrefused, -⟩ := patterns_mean_their_text documented "***"
    refine (hrefused fun h => ?_).1
    have hnone : Pattern.ofText? "***" = none := by decide
    obtain ⟨pattern, hread⟩ := hstars.mpr h
    cases hnone.symm.trans hread

end Registrar

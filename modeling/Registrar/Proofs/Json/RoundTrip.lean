import Registrar.Proofs.Json.Reread

/-!
# Texts are read back

Reading the text of a value gives the value back, with its members as they stand, whether the text
is the compact or the indented one. Only its numbers need not be the same: each of them is the one
that is read from its own text. Not every value can be read back: numbers have to be finite, whole
numbers have to fit 64 bits, and the nesting may not be deeper than the reader goes.

The two layouts differ in their blanks, and the reader passes over blanks. So what is proved first
is about texts, not about layouts: how texts that are read as values are put together to one that is
read as an array or an object.

The reader is handed more text than that of the value, so every lemma says what is left over. The
steps it may take are bounded by the length of the text, two for each character, because an item of
an array takes two steps and at least one character.

## Main definitions

* `Json.reread` — the value with every number as it is read.
* `Writable` — the values that are read back, by the depth of nesting allowed.
* `ReadsBack`, `ReadsItems`, `ReadsMembers` — what a text at the front of a text is read as.

## Main results

* `readsBack_compactChars`, `readsBack_prettyChars` — a value at the front of a text.
* `parseMembers?_compact`, `parseMembers?_pretty` — a text that holds nothing else.
-/

namespace Registrar

namespace Json

/-! ### Strings -/

theorem hexValue?_hexDigit {d : Nat} (h : d < 16) : hexValue? (hexDigit d) = some d := by
  have hall : ∀ d < 16, hexValue? (hexDigit d) = some d := by decide
  exact hall d h

theorem scanUnits_control {n : Nat} (h : n < 0x20) (rest : List Char) :
    scanUnits ('0' :: '0' :: hexDigit (n / 16) :: hexDigit (n % 16) :: rest) =
      some (Char.ofNat n, rest) := by
  have hzero : hexValue? '0' = some 0 := by rfl
  have hvalue : ((0 * 16 + 0) * 16 + n / 16) * 16 + n % 16 = n := by omega
  rw [scanUnits, scanUnit]
  simp only [hzero, hexValue?_hexDigit (show n / 16 < 16 by omega),
    hexValue?_hexDigit (show n % 16 < 16 by omega), Option.bind_eq_bind, Option.bind_some, hvalue]
  rw [if_neg (by omega), if_neg (by omega)]

/-- A character that was written with a backslash. -/
theorem scanString_escaped {fuel : Nat} {c : Char} {text rest : List Char}
    (h : scanEscape text = some (c, rest)) :
    scanString (fuel + 1) ('\\' :: text) =
      (scanString fuel rest).map fun found => (c :: found.1, found.2) := by
  rw [scanString, if_neg (by decide), if_pos rfl, h]
  simp only [Option.bind_eq_bind, Option.bind_some]
  cases scanString fuel rest <;> rfl

theorem scanString_escapeChar (fuel : Nat) (c : Char) (rest : List Char) :
    scanString (fuel + 1) (escapeChar c ++ rest) =
      (scanString fuel rest).map fun found => (c :: found.1, found.2) := by
  rw [escapeChar]
  -- Seven characters have an escape of their own.
  iterate 7
    split
    · next h =>
      subst h
      exact scanString_escaped rfl
  split
  · next hcontrol =>
    refine scanString_escaped ((scanUnits_control hcontrol rest).trans ?_)
    rw [Char.ofNat_toNat]
  · next hquote hbackslash _ _ _ _ _ hcontrol =>
    rw [List.singleton_append, scanString, if_neg hquote, if_neg hbackslash, if_neg hcontrol]
    cases scanString fuel rest <;> rfl

/-- **A string is read back.** -/
theorem scanString_escape {fuel : Nat} {text : String} {rest : List Char}
    (h : text.toList.length < fuel) :
    scanString fuel (escape text ++ '"' :: rest) = some (text.toList, rest) := by
  rw [escape]
  generalize text.toList = chars at h ⊢
  induction chars generalizing fuel with
  | nil =>
    obtain ⟨fuel, rfl⟩ := Nat.exists_eq_succ_of_ne_zero (Nat.ne_of_gt h)
    rfl
  | cons c chars ih =>
    obtain ⟨fuel, rfl⟩ := Nat.exists_eq_succ_of_ne_zero (Nat.ne_of_gt (Nat.zero_lt_of_lt h))
    rw [List.flatMap_cons, List.append_assoc, scanString_escapeChar,
      ih (Nat.lt_of_succ_lt_succ h)]
    rfl

theorem length_le_length_escape (text : String) : text.toList.length ≤ (escape text).length := by
  rw [escape]
  induction text.toList with
  | nil => exact Nat.le_refl 0
  | cons c chars ih =>
    have hpos : 0 < (escapeChar c).length := by
      rw [escapeChar]
      repeat' split
      all_goals exact Nat.zero_lt_succ _
    rw [List.flatMap_cons, List.length_append, List.length_cons]
    omega

/-! ### Values -/

mutual

/-- The value with every number as it is read from its text. -/
def reread : Json → Json
  | real x => real x.reread
  | array items => array (rereadItems items)
  | object members => object (rereadMembers members)
  | null => null
  | bool value => bool value
  | integer n => integer n
  | string text => string text

/-- The items of an array with every number as it is read. -/
def rereadItems : List Json → List Json
  | [] => []
  | item :: items => reread item :: rereadItems items

/-- The members of an object with every number as it is read. -/
def rereadMembers : List (String × Json) → List (String × Json)
  | [] => []
  | (name, value) :: members => (name, reread value) :: rereadMembers members

end

theorem rereadItems_eq_map (items : List Json) : rereadItems items = items.map reread := by
  induction items with
  | nil => rfl
  | cons item items ih => rw [rereadItems, ih, List.map_cons]

theorem rereadMembers_eq_map (members : List (String × Json)) :
    rereadMembers members = members.map fun member => (member.1, member.2.reread) := by
  induction members with
  | nil => rfl
  | cons member members ih => rw [rereadMembers, ih, List.map_cons]

/-- The values that are read back; `depth` more levels of nesting are allowed. -/
inductive Writable : Nat → Json → Prop where
  | null {depth : Nat} : Writable depth null
  | bool {depth : Nat} (value : Bool) : Writable depth (bool value)
  | integer {depth : Nat} {n : Int} (low : -(twoPow 63 : Int) ≤ n) (high : n < twoPow 64) :
      Writable depth (integer n)
  | real {depth : Nat} {x : Binary64} (finite : x.isFinite = true) : Writable depth (real x)
  | string {depth : Nat} (text : String) : Writable depth (string text)
  | array {depth : Nat} {items : List Json} (h : ∀ item ∈ items, Writable depth item) :
      Writable (depth + 1) (array items)
  | object {depth : Nat} {members : List (String × Json)}
      (h : ∀ member ∈ members, Writable depth member.2) : Writable (depth + 1) (object members)

/-- A text that starts with a number starts with a minus or a digit. -/
theorem head_of_scanNumber {text rest : List Char} {value : Json}
    (h : scanNumber text = some (value, rest)) :
    ∃ c tail, text = c :: tail ∧ (c = '-' ∨ isDigit c = true) := by
  cases text with
  | nil => cases h
  | cons c tail =>
    refine ⟨c, tail, rfl, ?_⟩
    by_cases hminus : c = '-'
    · exact .inl hminus
    · refine .inr (Bool.of_not_eq_false fun hdigit => ?_)
      have hsplit : splitMinus (c :: tail) = (false, c :: tail) := by
        rw [splitMinus]
        intro rest hrest
        exact hminus (List.cons.inj hrest).1
      have hwhole : scanWhole (c :: tail) = none := by
        rw [scanWhole, List.takeWhile_cons_of_neg (by simp [hdigit])]
      rw [scanNumber, hsplit] at h
      simp only [hwhole, Option.bind_eq_bind, Option.bind_none, reduceCtorEq] at h

theorem skipBlank_of_not_blank {c : Char} {tail : List Char} (h : isBlank c = false) :
    skipBlank (c :: tail) = c :: tail := by
  rw [skipBlank, List.dropWhile_cons_of_neg (by simp [h])]

theorem numberHead_ne {c : Char} (h : c = '-' ∨ isDigit c = true) {other : Char}
    (hminus : other ≠ '-') (hdigit : isDigit other = false) : c ≠ other := by
  rintro rfl
  obtain rfl | h := h
  · exact hminus rfl
  · rw [hdigit] at h
    cases h

theorem isBlank_numberHead {c : Char} (h : c = '-' ∨ isDigit c = true) : isBlank c = false := by
  simp only [isBlank, Bool.or_eq_false_iff, beq_eq_false_iff_ne]
  exact ⟨⟨⟨numberHead_ne h (by decide) (by decide), numberHead_ne h (by decide) (by decide)⟩,
    numberHead_ne h (by decide) (by decide)⟩, numberHead_ne h (by decide) (by decide)⟩

/-- Where a number starts, nothing else does. -/
theorem scanValue_number {fuel depth : Nat} {text rest : List Char} {value : Json}
    (h : scanNumber text = some (value, rest)) :
    scanValue (fuel + 1) depth text = some (value, rest) := by
  obtain ⟨c, tail, rfl, hc⟩ := head_of_scanNumber h
  have hother : ∀ other, other ≠ '-' → isDigit other = false → c ≠ other := fun _ =>
    numberHead_ne hc
  rw [scanValue, skipBlank_of_not_blank (isBlank_numberHead hc)]
  split
  · next heq => exact absurd (List.cons.inj heq).1 (hother 'n' (by decide) (by decide))
  · next heq => exact absurd (List.cons.inj heq).1 (hother 't' (by decide) (by decide))
  · next heq => exact absurd (List.cons.inj heq).1 (hother 'f' (by decide) (by decide))
  · next heq => exact absurd (List.cons.inj heq).1 (hother '"' (by decide) (by decide))
  · next heq => exact absurd (List.cons.inj heq).1 (hother '[' (by decide) (by decide))
  · next heq => exact absurd (List.cons.inj heq).1 (hother '\x7b' (by decide) (by decide))
  · exact h

theorem scanNumber_scalar {depth : Nat} {value : Json} {rest : List Char} (h : Writable depth value)
    (hnumber : value.number?.isSome = true) (hrest : EndsNumber rest) :
    scanNumber (scalarChars value ++ rest) = some (value.reread, rest) := by
  cases h with
  | integer hlow hhigh =>
    rw [scalarChars, reread]
    exact scanNumber_integer hlow hhigh hrest
  | real hfinite =>
    rw [scalarChars, if_pos hfinite, reread]
    exact scanNumber_jsonText hfinite hrest
  | null | bool | string | array | object => cases hnumber

/-! ### Blanks -/

theorem skipBlank_append {blanks : List Char} (h : ∀ c ∈ blanks, isBlank c = true)
    (text : List Char) : skipBlank (blanks ++ text) = skipBlank text :=
  List.dropWhile_append_of_pos h

theorem skipBlank_idem (text : List Char) : skipBlank (skipBlank text) = skipBlank text := by
  induction text with
  | nil => rfl
  | cons c text ih =>
    cases hc : isBlank c with
    | true =>
      have hskip : skipBlank (c :: text) = skipBlank text := List.dropWhile_cons_of_pos hc
      rw [hskip, ih]
    | false => rw [skipBlank_of_not_blank hc, skipBlank_of_not_blank hc]

/-- The reader of a value looks at the text after its blanks only. -/
theorem scanValue_congr {fuel depth : Nat} {text text' : List Char}
    (h : skipBlank text = skipBlank text') :
    scanValue fuel depth text = scanValue fuel depth text' := by
  cases fuel with
  | zero => rw [scanValue, scanValue]
  | succ fuel => rw [scanValue, scanValue, h]

theorem scanItems_congr {fuel depth : Nat} {text text' : List Char}
    (h : skipBlank text = skipBlank text') :
    scanItems fuel depth text = scanItems fuel depth text' := by
  cases fuel with
  | zero => rw [scanItems, scanItems]
  | succ fuel => rw [scanItems, scanItems, scanValue_congr h]

theorem scanMembers_congr {fuel depth : Nat} {text text' : List Char}
    (h : skipBlank text = skipBlank text') :
    scanMembers fuel depth text = scanMembers fuel depth text' := by
  cases fuel with
  | zero => rw [scanMembers, scanMembers]
  | succ fuel => rw [scanMembers, scanMembers, h]

/-! ### Texts that are read as values -/

/-- The value is read from the front of a text that starts with this text. -/
def ReadsBack (depth : Nat) (text : List Char) (value : Json) : Prop :=
  ∀ fuel rest, 2 * text.length ≤ fuel → EndsNumber rest →
    scanValue fuel depth (text ++ rest) = some (value, rest)

/-- The items, up to the closing bracket of their array, are read from the front of a text that
starts with this text. -/
def ReadsItems (depth : Nat) (text : List Char) (items : List Json) : Prop :=
  ∀ fuel rest, 2 * text.length < fuel →
    scanItems fuel depth (text ++ rest) = some (items, rest)

/-- The members, up to the closing brace of their object, are read from the front of a text that
starts with this text. -/
def ReadsMembers (depth : Nat) (text : List Char) (members : List (String × Json)) : Prop :=
  ∀ fuel rest, 2 * text.length < fuel →
    scanMembers fuel depth (text ++ rest) = some (members, rest)

section

variable {depth : Nat} {value : Json} {text others blanks : List Char} {items : List Json}
  {members : List (String × Json)} {name : String}

theorem ReadsBack.blank (h : ReadsBack depth text value)
    (hblanks : ∀ c ∈ blanks, isBlank c = true) : ReadsBack depth (blanks ++ text) value := by
  intro fuel rest hfuel hrest
  rw [List.length_append] at hfuel
  rw [List.append_assoc, scanValue_congr (skipBlank_append hblanks _)]
  exact h fuel rest (by omega) hrest

theorem ReadsMembers.blank (h : ReadsMembers depth text members)
    (hblanks : ∀ c ∈ blanks, isBlank c = true) : ReadsMembers depth (blanks ++ text) members := by
  intro fuel rest hfuel
  rw [List.length_append] at hfuel
  rw [List.append_assoc, scanMembers_congr (skipBlank_append hblanks _)]
  exact h fuel rest (by omega)

/-- A blank and a bracket do not go on with a number. -/
theorem endsNumber_blank_append {c : Char} (hblanks : ∀ c ∈ blanks, isBlank c = true)
    (hc : EndsNumber [c]) (rest : List Char) : EndsNumber (blanks ++ c :: rest) := by
  cases blanks with
  | nil =>
    intro other hother
    exact hc other hother
  | cons blank blanks =>
    rintro _ ⟨⟩
    have hblank := hblanks blank List.mem_cons_self
    simp only [isBlank, Bool.or_eq_true, beq_iff_eq] at hblank
    obtain ((rfl | rfl) | rfl) | rfl := hblank <;> decide

/-! ### Arrays -/

/-- The last item of an array. -/
theorem ReadsBack.lastItem (h : ReadsBack depth text value)
    (hblanks : ∀ c ∈ blanks, isBlank c = true) :
    ReadsItems depth (text ++ (blanks ++ [']'])) [value] := by
  intro fuel rest hfuel
  obtain ⟨fuel, rfl⟩ := Nat.exists_eq_succ_of_ne_zero (Nat.ne_of_gt (Nat.zero_lt_of_lt hfuel))
  rw [List.length_append] at hfuel
  have hvalue := h fuel (blanks ++ ']' :: rest) (by omega)
    (endsNumber_blank_append hblanks (by rintro _ ⟨⟩; decide) rest)
  rw [List.append_assoc, List.append_assoc, List.singleton_append, scanItems, hvalue]
  simp only [Option.bind_eq_bind, Option.bind_some, skipBlank_append hblanks,
    skipBlank_of_not_blank (show isBlank ']' = false from rfl)]

/-- An item before others. -/
theorem ReadsBack.consItem (h : ReadsBack depth text value)
    (hothers : ReadsItems depth others items) :
    ReadsItems depth (text ++ ',' :: others) (value :: items) := by
  intro fuel rest hfuel
  obtain ⟨fuel, rfl⟩ := Nat.exists_eq_succ_of_ne_zero (Nat.ne_of_gt (Nat.zero_lt_of_lt hfuel))
  rw [List.length_append, List.length_cons] at hfuel
  have hvalue := h fuel (',' :: (others ++ rest)) (by omega) (by rintro _ ⟨⟩; decide)
  rw [List.append_assoc, List.cons_append, scanItems, hvalue]
  simp only [Option.bind_eq_bind, Option.bind_some,
    skipBlank_of_not_blank (show isBlank ',' = false from rfl), hothers fuel rest (by omega)]

/-- Where items are read, no bracket closes. -/
theorem skipBlank_ne_of_scanItems {fuel : Nat} {rest rest' : List Char}
    (h : scanItems fuel depth text = some (items, rest)) : skipBlank text ≠ ']' :: rest' := by
  intro hbracket
  rw [scanItems_congr (hbracket.trans (skipBlank_of_not_blank (by decide)).symm)] at h
  cases fuel with
  | zero => cases h
  | succ fuel =>
    rw [scanItems] at h
    cases fuel with
    | zero => cases h
    | succ fuel =>
      cases h

theorem ReadsItems.array (h : ReadsItems depth text items) :
    ReadsBack (depth + 1) ('[' :: text) (array items) := by
  intro fuel rest hfuel _
  rw [List.length_cons] at hfuel
  obtain ⟨fuel, rfl⟩ := Nat.exists_eq_succ_of_ne_zero (show fuel ≠ 0 by omega)
  have hitems := h fuel rest (by omega)
  rw [List.cons_append, scanValue, skipBlank_of_not_blank (by decide)]
  simp only
  split
  · next hzero => cases hzero
  · next hbracket => exact absurd hbracket (skipBlank_ne_of_scanItems hitems)
  · next hsucc _ =>
    cases hsucc
    rw [scanItems_congr (skipBlank_idem _), hitems]
    rfl

/-! ### Objects -/

/-- The name of a member up to its colon. -/
theorem scanString_quoteChars {fuel : Nat} {name : String} (rest : List Char)
    (hfuel : (quoteChars name).length ≤ fuel) :
    ∃ text, quoteChars name ++ rest = '"' :: text ∧
      scanString fuel text = some (name.toList, rest) := by
  refine ⟨escape name ++ '"' :: rest, ?_, ?_⟩
  · rw [quoteChars, List.cons_append, List.cons_append, List.append_assoc, List.singleton_append]
  · refine scanString_escape (Nat.lt_of_le_of_lt (length_le_length_escape name) ?_)
    have hlength : (quoteChars name).length = (escape name).length + 2 := by
      rw [quoteChars, List.cons_append, List.length_cons, List.length_append]
      rfl
    omega

/-- A member, and what follows it: the end of the object, or a comma and other members. -/
theorem scanMembers_member {fuel : Nat} {after rest : List Char}
    (hfuel : (quoteChars name).length ≤ fuel)
    (hvalue : scanValue fuel depth (text ++ after) = some (value, after))
    (hothers : skipBlank after = '\x7d' :: rest ∧ members = [] ∨
      ∃ more, after = ',' :: more ∧ scanMembers fuel depth more = some (members, rest)) :
    scanMembers (fuel + 1) depth (quoteChars name ++ ':' :: (text ++ after)) =
      some ((name, value) :: members, rest) := by
  obtain ⟨quoted, hquoted, hname⟩ := scanString_quoteChars (':' :: (text ++ after)) hfuel
  rw [hquoted, scanMembers, skipBlank_of_not_blank (by decide)]
  simp only [Option.bind_eq_bind, hname, Option.bind_some,
    skipBlank_of_not_blank (show isBlank ':' = false from rfl), hvalue, String.ofList_toList]
  obtain ⟨hend, rfl⟩ | ⟨more, rfl, hmore⟩ := hothers
  · rw [hend]
    rfl
  · simp only [Option.bind_some, skipBlank_of_not_blank (show isBlank ',' = false from rfl), hmore]

/-- The last member of an object. -/
theorem ReadsBack.lastMember (name : String) (h : ReadsBack depth text value)
    (hblanks : ∀ c ∈ blanks, isBlank c = true) :
    ReadsMembers depth (quoteChars name ++ ':' :: (text ++ (blanks ++ ['\x7d'])))
      [(name, value)] := by
  intro fuel rest hfuel
  obtain ⟨fuel, rfl⟩ := Nat.exists_eq_succ_of_ne_zero (Nat.ne_of_gt (Nat.zero_lt_of_lt hfuel))
  rw [List.length_append, List.length_cons, List.length_append] at hfuel
  have hvalue := h fuel (blanks ++ '\x7d' :: rest) (by omega)
    (endsNumber_blank_append hblanks (by rintro _ ⟨⟩; decide) rest)
  have htext : quoteChars name ++ ':' :: (text ++ (blanks ++ ['\x7d'])) ++ rest =
      quoteChars name ++ ':' :: (text ++ (blanks ++ '\x7d' :: rest)) := by
    simp only [List.append_assoc, List.cons_append, List.nil_append]
  rw [htext]
  exact scanMembers_member (by omega) hvalue (.inl ⟨skipBlank_append hblanks _, rfl⟩)

/-- A member before others. -/
theorem ReadsBack.consMember (name : String) (h : ReadsBack depth text value)
    (hothers : ReadsMembers depth others members) :
    ReadsMembers depth (quoteChars name ++ ':' :: (text ++ ',' :: others))
      ((name, value) :: members) := by
  intro fuel rest hfuel
  obtain ⟨fuel, rfl⟩ := Nat.exists_eq_succ_of_ne_zero (Nat.ne_of_gt (Nat.zero_lt_of_lt hfuel))
  rw [List.length_append, List.length_cons, List.length_append, List.length_cons] at hfuel
  have hvalue := h fuel (',' :: (others ++ rest)) (by omega) (by rintro _ ⟨⟩; decide)
  have htext : quoteChars name ++ ':' :: (text ++ ',' :: others) ++ rest =
      quoteChars name ++ ':' :: (text ++ ',' :: (others ++ rest)) := by
    simp only [List.append_assoc, List.cons_append]
  rw [htext]
  exact scanMembers_member (by omega) hvalue (.inr ⟨_, rfl, hothers fuel rest (by omega)⟩)

theorem ReadsMembers.object (h : ReadsMembers depth text members) :
    ReadsBack (depth + 1) ('\x7b' :: text) (object members) := by
  intro fuel rest hfuel _
  rw [List.length_cons] at hfuel
  obtain ⟨fuel, rfl⟩ := Nat.exists_eq_succ_of_ne_zero (show fuel ≠ 0 by omega)
  have hmembers := h fuel rest (by omega)
  rw [List.cons_append, scanValue, skipBlank_of_not_blank (by decide)]
  simp only
  split
  · next hzero => cases hzero
  · next hbrace =>
    rw [scanMembers_congr (hbrace.trans (skipBlank_of_not_blank (by decide)).symm)] at hmembers
    cases fuel with
    | zero => cases hmembers
    | succ fuel => cases hmembers
  · next hsucc _ =>
    cases hsucc
    rw [scanMembers_congr (skipBlank_idem _), hmembers]
    rfl

/-! ### Scalars -/

theorem readsBack_number (h : Writable depth value) (hnumber : value.number?.isSome = true) :
    ReadsBack depth (scalarChars value) value.reread := by
  intro fuel rest hfuel hrest
  have hscan := scanNumber_scalar h hnumber hrest
  obtain ⟨c, tail, htext, -⟩ := head_of_scanNumber (scanNumber_scalar h hnumber endsNumber_nil)
  rw [List.append_nil] at htext
  rw [htext, List.length_cons] at hfuel
  obtain ⟨fuel, rfl⟩ := Nat.exists_eq_succ_of_ne_zero (show fuel ≠ 0 by omega)
  exact scanValue_number hscan

theorem readsBack_string (depth : Nat) (text : String) :
    ReadsBack depth (scalarChars (string text)) (string text) := by
  intro fuel rest hfuel _
  rw [scalarChars] at hfuel ⊢
  have hpos : 0 < (quoteChars text).length := Nat.zero_lt_succ _
  obtain ⟨fuel, rfl⟩ := Nat.exists_eq_succ_of_ne_zero (show fuel ≠ 0 by omega)
  obtain ⟨chars, hchars, hscan⟩ :=
    scanString_quoteChars rest (show (quoteChars text).length ≤ fuel by omega)
  rw [hchars, scanValue, skipBlank_of_not_blank (by decide)]
  simp only [Option.bind_eq_bind, hscan, Option.bind_some, String.ofList_toList]

theorem readsBack_null (depth : Nat) : ReadsBack depth (scalarChars null) null := by
  rintro (_ | fuel) rest hfuel -
  · cases hfuel
  · rfl

theorem readsBack_bool (depth : Nat) (value : Bool) :
    ReadsBack depth (scalarChars (bool value)) (bool value) := by
  rintro (_ | fuel) rest hfuel -
  · cases value <;> cases hfuel
  · cases value <;> rfl

theorem readsBack_emptyArray (depth : Nat) : ReadsBack (depth + 1) ['[', ']'] (array []) := by
  rintro (_ | fuel) rest hfuel -
  · cases hfuel
  · rfl

theorem readsBack_emptyObject (depth : Nat) :
    ReadsBack (depth + 1) ['\x7b', '\x7d'] (object []) := by
  rintro (_ | fuel) rest hfuel -
  · cases hfuel
  · rfl

end

/-! ### The compact layout -/

theorem readsItems_compactItems {depth : Nat} {item : Json} {items : List Json}
    (h : ∀ value ∈ item :: items, ReadsBack depth (compactChars value) value.reread) :
    ReadsItems depth (compactChars item ++ compactItems items) (rereadItems (item :: items)) := by
  induction items generalizing item with
  | nil => exact (h item List.mem_cons_self).lastItem (List.forall_mem_nil _)
  | cons next items ih =>
    obtain ⟨hitem, hothers⟩ := List.forall_mem_cons.mp h
    exact hitem.consItem (ih hothers)

theorem readsMembers_compactMembers {depth : Nat} {name : String} {value : Json}
    {members : List (String × Json)}
    (h : ∀ member ∈ (name, value) :: members,
      ReadsBack depth (compactChars member.2) member.2.reread) :
    ReadsMembers depth (quoteChars name ++ ':' :: (compactChars value ++ compactMembers members))
      (rereadMembers ((name, value) :: members)) := by
  induction members generalizing name value with
  | nil => exact (h _ List.mem_cons_self).lastMember name (List.forall_mem_nil _)
  | cons next members ih =>
    obtain ⟨hvalue, hothers⟩ := List.forall_mem_cons.mp h
    have hmore := hvalue.consMember name (ih hothers)
    simpa only [compactMembers, rereadMembers_eq_map, List.map_cons, List.cons_append,
      List.append_assoc] using hmore

/-- **A value is read back from its compact text.** -/
theorem readsBack_compactChars {depth : Nat} {value : Json} (h : Writable depth value) :
    ReadsBack depth (compactChars value) value.reread := by
  induction h with
  | null => exact readsBack_null _
  | bool value => exact readsBack_bool _ value
  | integer hlow hhigh => exact readsBack_number (.integer hlow hhigh) rfl
  | real hfinite => exact readsBack_number (.real hfinite) rfl
  | string text => exact readsBack_string _ text
  | @array depth items _ ih =>
    cases items with
    | nil => exact readsBack_emptyArray depth
    | cons item items => exact (readsItems_compactItems ih).array
  | @object depth members _ ih =>
    cases members with
    | nil => exact readsBack_emptyObject depth
    | cons member members =>
      have hmembers := (readsMembers_compactMembers ih).object
      simpa only [compactChars, reread, rereadMembers_eq_map, List.map_cons, List.cons_append,
        List.append_assoc] using hmembers

/-! ### The indented layout -/

theorem isBlank_of_mem_newline (level : Nat) : ∀ c ∈ newline level, isBlank c = true := by
  intro c hc
  obtain rfl | hc := List.mem_cons.mp hc
  · rfl
  · rw [List.eq_of_mem_replicate hc]
    rfl

theorem readsItems_prettyItems {depth level : Nat} {item : Json} {items : List Json}
    (h : ∀ value ∈ item :: items, ReadsBack depth (prettyChars (level + 1) value) value.reread) :
    ReadsItems depth (newline (level + 1) ++ prettyChars (level + 1) item ++
      prettyItems level items) (rereadItems (item :: items)) := by
  induction items generalizing item with
  | nil =>
    exact ((h item List.mem_cons_self).blank (isBlank_of_mem_newline _)).lastItem
      (isBlank_of_mem_newline _)
  | cons next items ih =>
    obtain ⟨hitem, hothers⟩ := List.forall_mem_cons.mp h
    exact (hitem.blank (isBlank_of_mem_newline _)).consItem (ih hothers)

theorem readsMembers_prettyMembers {depth level : Nat} {name : String} {value : Json}
    {members : List (String × Json)}
    (h : ∀ member ∈ (name, value) :: members,
      ReadsBack depth (prettyChars (level + 1) member.2) member.2.reread) :
    ReadsMembers depth (newline (level + 1) ++ (quoteChars name ++ ':' ::
      ([' '] ++ prettyChars (level + 1) value ++ prettyMembers level members)))
      (rereadMembers ((name, value) :: members)) := by
  have hblank : ∀ c ∈ [' '], isBlank c = true := List.forall_mem_singleton.mpr rfl
  induction members generalizing name value with
  | nil =>
    exact (((h _ List.mem_cons_self).blank hblank).lastMember name
      (isBlank_of_mem_newline _)).blank (isBlank_of_mem_newline _)
  | cons next members ih =>
    obtain ⟨hvalue, hothers⟩ := List.forall_mem_cons.mp h
    have hmore := ((hvalue.blank hblank).consMember name (ih hothers)).blank
      (isBlank_of_mem_newline (level + 1))
    simpa only [prettyMembers, rereadMembers_eq_map, List.map_cons, List.cons_append,
      List.append_assoc, List.nil_append] using hmore

/-- **A value is read back from its indented text**, however deep it stands. -/
theorem readsBack_prettyChars {depth : Nat} {value : Json} (h : Writable depth value)
    (level : Nat) : ReadsBack depth (prettyChars level value) value.reread := by
  induction h generalizing level with
  | null => exact readsBack_null _
  | bool value => exact readsBack_bool _ value
  | integer hlow hhigh => exact readsBack_number (.integer hlow hhigh) rfl
  | real hfinite => exact readsBack_number (.real hfinite) rfl
  | string text => exact readsBack_string _ text
  | @array depth items _ ih =>
    cases items with
    | nil => exact readsBack_emptyArray depth
    | cons item items =>
      exact (readsItems_prettyItems fun value hvalue => ih value hvalue (level + 1)).array
  | @object depth members _ ih =>
    cases members with
    | nil => exact readsBack_emptyObject depth
    | cons member members =>
      have hmembers := (readsMembers_prettyMembers fun member hmember =>
        ih member hmember (level + 1)).object
      simpa only [prettyChars, reread, rereadMembers_eq_map, List.map_cons, List.cons_append,
        List.append_assoc, List.nil_append] using hmembers

/-! ### Texts that hold nothing else -/

theorem parseMembers?_ofList {text : List Char} {value : Json}
    (h : ReadsBack nestingLimit text value) :
    parseMembers? (String.ofList text) = some value := by
  have hscan := h (2 * text.length + 2) [] (Nat.le_add_right _ 2) endsNumber_nil
  rw [List.append_nil] at hscan
  rw [parseMembers?, parseFront?, String.toList_ofList]
  simp only [Option.bind_eq_bind, hscan, Option.bind_some]
  rfl

/-- **A compact text that holds one value and nothing else is read back.** -/
theorem parseMembers?_compact {value : Json} (h : Writable nestingLimit value) :
    parseMembers? value.compact = some value.reread :=
  parseMembers?_ofList (readsBack_compactChars h)

/-- **An indented text that holds one value and nothing else is read back.** -/
theorem parseMembers?_pretty {value : Json} (h : Writable nestingLimit value) :
    parseMembers? value.pretty = some value.reread :=
  parseMembers?_ofList (readsBack_prettyChars h 0)

end Json

end Registrar

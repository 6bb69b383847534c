import FormSwap.Config.Json
import FormSwap.Proofs.OpenTag
import Mathlib.Data.List.Forall2

/-!
# Configurations as JSON and as tags

`Config.json` and `Config.openTag` write a configuration, and both can be read. The object is read
as the configuration with its delay cut to whole milliseconds and to the largest delay. So is the
tag if the delay is at most the largest one; beyond it `openTag` does not cut the delay, and
`ofAttributes` ignores it.

Main results:

- `Json.readString_escaped`: `readString` reads every string that was written
- `Json.readUnsigned_repr`: `readUnsigned` reads every number that was written
- `Config.ofJson_json`: `ofJson` reads a configuration up to `cut`
- `Config.texts_agree_up_to_limit`: the tag agrees with the object up to the largest delay
-/

namespace FormSwap

/-! ## Strings -/

namespace Json

/-- `StandsFor u c`: the unit `u` is read as the character `c`. -/
def StandsFor (u : StringUnit) (c : Char) : Prop :=
  u = .char c ∨ u = .utf16 c.toNat ∧ c.toNat < 0x20

theorem hexDigitValue?_digitChar {d : Nat} (h : d < 16) :
    hexDigitValue? (Nat.digitChar d) = some d := by
  have hall : ∀ d ∈ List.range 16, hexDigitValue? (Nat.digitChar d) = some d := by decide
  exact hall d (List.mem_range.mpr h)

/-- `readHex4` of a control character's escape. -/
theorem readHex4_control {u : Nat} (h : u < 0x20) (rest : List Char) :
    readHex4 ('0' :: '0' :: Nat.digitChar (u / 16) :: Nat.digitChar (u % 16) :: rest) =
      some (u, rest) := by
  have hzero : hexDigitValue? '0' = some 0 := by decide
  simp only [readHex4, hzero, hexDigitValue?_digitChar (show u / 16 < 16 by omega),
    hexDigitValue?_digitChar (show u % 16 < 16 by omega), Option.bind_eq_bind, Option.bind_some,
    Option.some.injEq, Prod.mk.injEq, and_true]
  omega

/-- `readUnits` of a two-character escape. -/
theorem readUnits_simple {e c : Char} (hc : simpleEscape? e = some c) (n : Nat)
    (rest : List Char) : readUnits (n + 1) ('\\' :: e :: rest) =
      (readUnits n rest).map fun r => (.char c :: r.1, r.2) := by
  have he : e ≠ 'u' := by
    rintro rfl
    cases hc
  rw [readUnits, if_neg (by decide), if_pos rfl, hc]
  · cases readUnits n rest <;> rfl
  · exact he

/-- `readUnits` of an escaped character is one unit. -/
theorem readUnits_escapeChar (c : Char) :
    ∃ u, StandsFor u c ∧ ∀ n rest, readUnits (n + 1) (escapeChar c ++ rest) =
      (readUnits n rest).map fun r => (u :: r.1, r.2) := by
  unfold escapeChar
  split
  · rename_i h
    subst h
    exact ⟨_, .inl rfl, readUnits_simple rfl⟩
  split
  · rename_i h
    subst h
    exact ⟨_, .inl rfl, readUnits_simple rfl⟩
  split
  · rename_i h
    refine ⟨.char c, .inl rfl, readUnits_simple ?_⟩
    rw [← Char.ofNat_toNat c, h]
    rfl
  split
  · rename_i h
    refine ⟨.char c, .inl rfl, readUnits_simple ?_⟩
    rw [← Char.ofNat_toNat c, h]
    rfl
  split
  · rename_i h
    subst h
    exact ⟨_, .inl rfl, readUnits_simple rfl⟩
  split
  · rename_i h
    subst h
    exact ⟨_, .inl rfl, readUnits_simple rfl⟩
  split
  · rename_i h
    subst h
    exact ⟨_, .inl rfl, readUnits_simple rfl⟩
  split
  · -- a control character without a two-character escape
    rename_i h
    refine ⟨.utf16 c.toNat, .inr ⟨rfl, h⟩, fun n rest => ?_⟩
    simp only [List.cons_append, List.nil_append]
    rw [readUnits, if_neg (by decide), if_pos rfl, readHex4_control h]
    cases hrest : readUnits n rest <;> simp [hrest]
  · rename_i hquote hslash _ _ _ _ _ hcontrol
    refine ⟨.char c, .inl rfl, fun n rest => ?_⟩
    rw [List.singleton_append, readUnits.eq_def]
    dsimp only
    rw [if_neg hquote, if_neg hslash, if_neg hcontrol]
    cases readUnits n rest <;> rfl

/-- `readUnits` of an escaped text stops at its closing quote. -/
theorem readUnits_escaped (s rest : List Char) {n : Nat} (hn : s.length < n) :
    ∃ units, List.Forall₂ StandsFor units s ∧
      readUnits n (s.flatMap escapeChar ++ '"' :: rest) = some (units, rest) := by
  induction s generalizing n with
  | nil =>
    obtain ⟨n, rfl⟩ := Nat.exists_eq_succ_of_ne_zero (Nat.ne_of_gt hn)
    exact ⟨[], .nil, by simp [readUnits]⟩
  | cons c s ih =>
    obtain ⟨n, rfl⟩ := Nat.exists_eq_succ_of_ne_zero (Nat.ne_of_gt (Nat.zero_lt_of_lt hn))
    obtain ⟨units, hunits, hread⟩ := ih (Nat.lt_of_succ_lt_succ hn)
    obtain ⟨u, hu, hnext⟩ := readUnits_escapeChar c
    refine ⟨u :: units, .cons hu hunits, ?_⟩
    rw [List.flatMap_cons, List.append_assoc, hnext, hread]
    rfl

/-- `unitsText?` of a code unit below the surrogates. -/
theorem unitsText?_utf16 {u : Nat} (hu : u < 0xD800) (units : List StringUnit) :
    unitsText? (.utf16 u :: units) = (unitsText? units).map (Char.ofNat u :: ·) := by
  cases units with
  | nil => simp [unitsText?, hu]
  | cons v rest =>
    cases v with
    | char c =>
      simp only [unitsText?, if_pos (Or.inl hu : u < 0xD800 ∨ 0xDFFF < u)]
      cases unitsText? rest <;> rfl
    | utf16 v => simp only [unitsText?, if_pos (Or.inl hu : u < 0xD800 ∨ 0xDFFF < u)]

/-- `unitsText?` of units that stand for `s` is `s`. -/
theorem unitsText?_of_standsFor {units : List StringUnit} {s : List Char}
    (h : List.Forall₂ StandsFor units s) : unitsText? units = some s := by
  induction h with
  | nil => rfl
  | @cons u c units s hu _ ih =>
    rcases hu with rfl | ⟨rfl, hlow⟩
    · simp [unitsText?, ih]
    · rw [unitsText?_utf16 (by omega), ih, Char.ofNat_toNat]
      rfl

theorem length_le_flatMap_escapeChar (s : List Char) :
    s.length ≤ (s.flatMap escapeChar).length := by
  induction s with
  | nil => simp
  | cons c s ih =>
    have hc : 0 < (escapeChar c).length := by
      unfold escapeChar
      repeat' split
      all_goals simp
    simp only [List.length_cons, List.flatMap_cons, List.length_append]
    omega

/-- `readString` of an escaped text is the text. -/
theorem readString_escaped (s rest : List Char) :
    readString (s.flatMap escapeChar ++ '"' :: rest) = some (some (String.ofList s), rest) := by
  have hlength := length_le_flatMap_escapeChar s
  obtain ⟨units, hunits, hread⟩ := readUnits_escaped s rest
    (n := (s.flatMap escapeChar ++ '"' :: rest).length + 1) (by
      rw [List.length_append]
      omega)
  rw [readString, hread]
  simp [unitsText?_of_standsFor hunits]

/-! ## Numbers -/

/-- The digits of a positive number do not start with a zero. -/
theorem head?_toDigits {n : Nat} (hn : 0 < n) : (Nat.toDigits 10 n).head? ≠ some '0' := by
  induction n using Nat.strongRecOn with
  | _ n ih =>
    by_cases hsmall : n < 10
    · have hall : ∀ d ∈ List.range 10, 0 < d → Nat.digitChar d ≠ '0' := by decide
      rw [Nat.toDigits_of_lt_base hsmall, List.head?_cons, Ne, Option.some.injEq]
      exact hall n (List.mem_range.mpr hsmall) hn
    · have hfirst : (Nat.toDigits 10 n).head? = (Nat.toDigits 10 (n / 10)).head? := by
        rw [Nat.toDigits_of_base_le (by decide) (by omega)]
        exact List.head?_append_of_ne_nil _ Nat.toDigits_ne_nil
      rw [hfirst]
      exact ih (n / 10) (by omega) (by omega)

/-- `readUnsigned` of a number's digits is the number, if the next character does not continue
it. -/
theorem readUnsigned_repr (n : Nat) {c : Char} (hdigit : c.isDigit = false) (hpoint : c ≠ '.')
    (hlower : c ≠ 'e') (hupper : c ≠ 'E') (rest : List Char) :
    readUnsigned (n.repr.toList ++ c :: rest) = some (some n, c :: rest) := by
  have hdigits : ∀ d ∈ n.repr.toList, d.isDigit = true := fun _ => Config.isDigit_of_mem_repr
  have hread : readDigits (n.repr.toList ++ c :: rest) = some (n.repr.toList, c :: rest) := by
    unfold readDigits
    rw [List.takeWhile_append_of_pos hdigits, List.takeWhile_cons_of_neg (by simp [hdigit]),
      List.append_nil, List.dropWhile_append_of_pos hdigits,
      List.dropWhile_cons_of_neg (by simp [hdigit])]
    simp
  have hzero : ¬ (n.repr.toList.head? = some '0' ∧ n.repr.toList.length ≠ 1) := by
    rintro ⟨hhead, hlength⟩
    rcases Nat.eq_zero_or_pos n with rfl | hn
    · exact hlength rfl
    · rw [Nat.toList_repr] at hhead
      exact head?_toDigits hn hhead
  have htail : readNumberTail (c :: rest) = some (false, c :: rest) := by
    simp [readNumberTail, hpoint, hlower, hupper]
  have hvalue : Nat.ofDigitChars 10 n.repr.toList 0 = n := by
    rw [Nat.toList_repr, Nat.ofDigitChars_ten_toDigits]
  unfold readUnsigned
  rw [hread]
  simp only [Option.bind_eq_bind, Option.bind_some, if_neg hzero, htail, hvalue]
  rfl

/-! ## Values -/

theorem skipBlanks_cons {c : Char} (h : (c == ' ' || c == '\n' || c == '\t' || c == '\r') = false)
    (s : List Char) : skipBlanks (c :: s) = c :: s := by
  simp only [skipBlanks, List.dropWhile_cons, h]
  rfl

/-- `readValue` of a string. -/
theorem readValue_string (n : Nat) (s rest : List Char) :
    readValue (n + 1) ('"' :: (s.flatMap escapeChar ++ '"' :: rest)) =
      some (.string (some (String.ofList s)), rest) := by
  rw [readValue, skipBlanks_cons (by decide)]
  simp only [readString_escaped, Option.map_some]

/-- `readValue` of a number before a comma. -/
theorem readValue_number (n k : Nat) (rest : List Char) :
    readValue (n + 1) (k.repr.toList ++ ',' :: rest) = some (.number (some k), ',' :: rest) := by
  have hunsigned : readUnsigned (k.repr.toList ++ ',' :: rest) = some (some k, ',' :: rest) :=
    readUnsigned_repr k (by decide) (by decide) (by decide) (by decide) rest
  obtain ⟨d, digits, hdigits⟩ := List.exists_cons_of_ne_nil
    (show k.repr.toList ≠ [] by simp)
  -- the value starts with a digit, so no other alternative applies
  have hfirst : d.isDigit = true := Config.isDigit_of_mem_repr (n := k) (by simp [hdigits])
  have hne {x : Char} (hx : x.isDigit = false) : d ≠ x := by
    rintro rfl
    rw [hx] at hfirst
    cases hfirst
  rw [hdigits, List.cons_append] at hunsigned ⊢
  rw [readValue, skipBlanks_cons (by simp [hne (x := ' ') (by decide),
    hne (x := '\n') (by decide), hne (x := '\t') (by decide), hne (x := '\r') (by decide)])]
  split
  case h_8 => rw [hunsigned]; rfl
  all_goals
    rename_i hstart
    exact absurd (List.cons.inj hstart).1 (hne (by decide))

section Members

variable {n : Nat} {s rest : List Char} {value : Value}

/-- `readMembers` of a member before a comma. -/
theorem readMembers_more (name : List Char) (h : readValue n s = some (value, ',' :: rest)) :
    readMembers (n + 1) ('"' :: (name.flatMap escapeChar ++ '"' :: ':' :: s)) =
      (readMembers n rest).map fun r => ((some (String.ofList name), value) :: r.1, r.2) := by
  rw [readMembers, skipBlanks_cons (by decide)]
  simp only [readString_escaped, Option.bind_eq_bind, Option.bind_some,
    skipBlanks_cons (c := ':') (by decide), h, skipBlanks_cons (c := ',') (by decide)]
  cases readMembers n rest <;> rfl

/-- `readMembers` of the last member. -/
theorem readMembers_last (name : List Char) (h : readValue n s = some (value, '}' :: rest)) :
    readMembers (n + 1) ('"' :: (name.flatMap escapeChar ++ '"' :: ':' :: s)) =
      some ([(some (String.ofList name), value)], rest) := by
  rw [readMembers, skipBlanks_cons (by decide)]
  simp only [readString_escaped, Option.bind_eq_bind, Option.bind_some,
    skipBlanks_cons (c := ':') (by decide), h, skipBlanks_cons (c := '}') (by decide)]

/-- `readValue` of a nonempty object. -/
theorem readValue_object {members : List (Option String × Value)}
    (h : readMembers n ('"' :: s) = some (members, rest)) :
    readValue (n + 1) ('\x7b' :: '"' :: s) = some (.object members, rest) := by
  rw [readValue, skipBlanks_cons (by decide)]
  simp only [skipBlanks_cons (c := '"') (by decide)]
  split
  · rename_i hend
    exact absurd (List.cons.inj hend).1 (by decide)
  · rw [h]
    rfl

end Members

end Json

/-! ## Configurations -/

namespace Config

open FormSwap.Json FormSwap.Markup

/-- `c.cut` is the configuration with its delay cut to whole milliseconds and to the largest
delay. -/
def cut (c : Config) : Config :=
  { c with delay := .ofMillis (min c.delay.millis maxDelayMillis) }

theorem cut_of_le {c : Config} (h : c.delay.millis ≤ maxDelayMillis) :
    c.cut = { c with delay := .ofMillis c.delay.millis } := by
  rw [cut, Nat.min_eq_left h]

/-- `json` as a list of characters. -/
theorem toList_json (c : Config) :
    c.json.toList = '\x7b' :: '"' :: ("delay".toList.flatMap escapeChar ++ '"' :: ':' ::
      ((min c.delay.millis maxDelayMillis).repr.toList ++ ',' :: '"' ::
        ("swap".toList.flatMap escapeChar ++ '"' :: ':' :: '"' ::
          (c.swap.name.toList.flatMap escapeChar ++ '"' :: ['\x7d'])))) := by
  have hdelay : "delay".toList.flatMap escapeChar = "delay".toList := by decide
  have hswap : "swap".toList.flatMap escapeChar = "swap".toList := by decide
  rw [hdelay, hswap]
  simp [json, Json.string]

/-- `parse` of a configuration's object. -/
theorem parse_json (c : Config) :
    Json.parse c.json = some (.object [
      (some "delay", .number (some (min c.delay.millis maxDelayMillis))),
      (some "swap", .string (some c.swap.name))]) := by
  have htext := c.toList_json
  generalize min c.delay.millis maxDelayMillis = delay at htext ⊢
  obtain ⟨n, hn⟩ : ∃ n, 2 * c.json.toList.length + 2 = n + 4 :=
    ⟨2 * c.json.toList.length - 2, by rw [htext]; simp only [List.length_cons]; omega⟩
  have hmembers := readMembers_more "delay".toList
    (readValue_number (n + 1) delay ('"' :: ("swap".toList.flatMap escapeChar ++ '"' :: ':' ::
      '"' :: (c.swap.name.toList.flatMap escapeChar ++ '"' :: ['\x7d']))))
  rw [readMembers_last "swap".toList (readValue_string n c.swap.name.toList ['\x7d'])] at hmembers
  unfold Json.parse
  dsimp only
  rw [hn, htext, readValue_object hmembers]
  simp only [String.ofList_toList]
  rfl

/-- `ofJson` reads a configuration up to `cut`. -/
theorem ofJson_json (c : Config) : ofJson c.json = some c.cut := by
  have hmode : SwapMode.ofName? c.swap.name = some c.swap := by
    cases c.swap <;> rfl
  have hdelay : delayOfJson (.number (some (min c.delay.millis maxDelayMillis))) =
      some (.ofMillis (min c.delay.millis maxDelayMillis)) := if_pos (Nat.min_le_right _ _)
  rw [ofJson, parse_json, Option.bind_some]
  simp [ofValue, ofMembers, hdelay, swapOfJson, hmode, cut]

/-- The object and the opening tag of a configuration are read as the same configuration, with its
delay cut to whole milliseconds, exactly if the delay is at most the largest one. Beyond it the
object has the largest delay, and the delay of the tag is ignored. -/
theorem texts_agree_up_to_limit (c : Config) :
    ofJson c.json = some c.cut ∧
      ∃ tag resolved, cutTag? hostName c.openTag.toList = some ([], tag, []) ∧
        ofAttributes (lookup (readAttributes tag)) = .ok resolved ∧
        (c.delay.millis ≤ maxDelayMillis → resolved = { config := c.cut }) ∧
        (maxDelayMillis < c.delay.millis →
          resolved = { config := { swap := c.swap }, ignoredDelay := some c.delay.millis.repr }) ∧
        (ofJson c.json = some resolved.config ↔ c.delay.millis ≤ maxDelayMillis) := by
  have htag := c.cutTag?_openTag []
  rw [List.append_nil] at htag
  refine ⟨c.ofJson_json, c.tagText, _, htag, c.ofAttributes_openTag, fun hle => ?_,
    fun hlt => if_neg (Nat.not_le.mpr hlt), ?_⟩
  · rw [if_pos hle, cut_of_le hle]
  · rw [ofJson_json, Option.some.injEq]
    constructor
    · intro hsame
      refine Nat.le_of_not_gt fun hlt => ?_
      -- the tag would have to yield the largest delay, but its delay is ignored
      rw [if_neg (Nat.not_le.mpr hlt), cut, Nat.min_eq_right (Nat.le_of_lt hlt)] at hsame
      have hdelay : Duration.ofMillis maxDelayMillis = 0 := congrArg Config.delay hsame
      revert hdelay
      decide
    · intro hle
      rw [if_pos hle, cut_of_le hle]

/-- One millisecond beyond the largest delay the tag is read without a delay, and the object with
the largest one. -/
theorem texts_differ_past_limit :
    let c : Config := { delay := .ofMillis (maxDelayMillis + 1) }
    ∃ tag resolved, cutTag? hostName c.openTag.toList = some ([], tag, []) ∧
      ofAttributes (lookup (readAttributes tag)) = .ok resolved ∧ resolved.config.delay = 0 ∧
      ofJson c.json = some { delay := .ofMillis maxDelayMillis } ∧
      ofJson c.json ≠ some resolved.config := by
  intro c
  have hmillis : c.delay.millis = maxDelayMillis + 1 := Duration.millis_ofMillis _
  have htag := c.cutTag?_openTag []
  rw [List.append_nil] at htag
  have hresolved := c.ofAttributes_openTag
  rw [if_neg (by rw [hmillis]; omega)] at hresolved
  have hobject : ofJson c.json = some { delay := .ofMillis maxDelayMillis } := by
    rw [ofJson_json, cut, hmillis, Nat.min_eq_right (Nat.le_succ _)]
  refine ⟨c.tagText, _, htag, hresolved, rfl, hobject, ?_⟩
  rw [hobject]
  decide

end Config

end FormSwap

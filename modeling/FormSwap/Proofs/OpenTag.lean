import FormSwap.Markup.Fragment
import FormSwap.Proofs.Carried

/-!
# Reading an opening tag

`Config.openTag` writes the tag name and two quoted attributes. Its text has none of the delimiters
of a tag except those that `openTag` writes, so `cutTag?` finds the whole tag and `readAttributes`
the two attributes.

The delay is written with all its digits, and read up to a limit. A delay beyond the limit is not
cut, but invalid.

Main results:

- `Config.delayMillis?_repr`: `delayMillis?` of a number's digits
- `Markup.attributesFrom_quoted`: `attributesFrom` of a quoted attribute
- `Config.cutTag?_openTag`: `cutTag?` finds the whole opening tag
- `Config.ofAttributes_openTag`: the configuration that is read from the tag
-/

namespace FormSwap

/-! ## Blanks -/

namespace Text

theorem trimStart_cons_of_not_isBlank {c : Char} (h : isBlank c = false) (s : List Char) :
    trimStart (c :: s) = c :: s := by
  simp [trimStart, h]

theorem trimStart_of_not_isBlank {s : List Char} (h : ∀ c ∈ s, isBlank c = false) :
    trimStart s = s := by
  cases s with
  | nil => rfl
  | cons c s => exact trimStart_cons_of_not_isBlank (h c (by simp)) s

/-- `trimStart` removes leading blanks. -/
theorem trimStart_append {blanks : List Char} (h : ∀ c ∈ blanks, isBlank c = true)
    (s : List Char) : trimStart (blanks ++ s) = trimStart s :=
  List.dropWhile_append_of_pos h

/-- `takeWhile` and `dropWhile` split at the first character that fails the test. -/
theorem span_append {p : Char → Bool} {before after : List Char}
    (hbefore : ∀ c ∈ before, p c = true) (hafter : ∀ c ∈ after.head?, p c = false) :
    (before ++ after).takeWhile p = before ∧ (before ++ after).dropWhile p = after := by
  rw [List.takeWhile_append_of_pos hbefore, List.dropWhile_append_of_pos hbefore]
  cases after with
  | nil => simp
  | cons c after => simp [hafter c rfl]

/-- `trim` does not change a text without blanks. -/
theorem trim_of_not_isBlank {s : List Char} (h : ∀ c ∈ s, isBlank c = false) : trim s = s := by
  have hreverse : s.reverse.dropWhile isBlank = s.reverse :=
    trimStart_of_not_isBlank (s := s.reverse) fun c hc => h c (by simpa using hc)
  rw [trim, trimStart_of_not_isBlank h, trimEnd, hreverse, List.reverse_reverse]

theorem toNat_of_isDigit {c : Char} (h : c.isDigit = true) : 48 ≤ c.toNat ∧ c.toNat ≤ 57 := by
  simpa [Char.isDigit, UInt32.le_iff_toNat_le] using h

theorem isBlank_of_isDigit {c : Char} (h : c.isDigit = true) : isBlank c = false := by
  have hrange := toNat_of_isDigit h
  simp only [isBlank, Bool.or_eq_false_iff, Bool.and_eq_false_iff, decide_eq_false_iff_not,
    beq_eq_false_iff_ne]
  omega

end Text

/-! ## Delays -/

namespace Config

open FormSwap.Text

theorem isDigit_of_mem_repr {n : Nat} {c : Char} (h : c ∈ n.repr.toList) : c.isDigit = true := by
  rw [Nat.toList_repr] at h
  exact Nat.isDigit_of_mem_toDigits (by decide) (by decide) h

/-- `repr` has digits only. -/
theorem not_mem_repr {c : Char} (h : c.isDigit = false) (n : Nat) : c ∉ n.repr.toList := by
  intro hmem
  rw [isDigit_of_mem_repr hmem] at h
  cases h

/-- `delayMillis?` of a trimmed text that is an optional plus sign and digits. -/
theorem delayMillis?_of_trim {text sign digits : List Char} (hsign : sign = [] ∨ sign = ['+'])
    (hplus : sign = [] → digits.head? ≠ some '+') (htext : trim text = sign ++ digits) :
    delayMillis? text =
      if (!digits.isEmpty && digits.all Char.isDigit) = true then
        if Nat.ofDigitChars 10 digits 0 ≤ maxDelayMillis then some (Nat.ofDigitChars 10 digits 0)
        else none
      else none := by
  unfold delayMillis?
  rw [htext]
  rcases hsign with rfl | rfl
  · have hhead := hplus rfl
    cases digits with
    | nil => rfl
    | cons c rest =>
      rw [List.nil_append]
      split
      · rename_i heq
        cases heq
        simp at hhead
      · rfl
  · rfl

/-- `delayMillis?` of a number's digits is the number, up to the limit. -/
theorem delayMillis?_repr (n : Nat) :
    delayMillis? n.repr.toList = if n ≤ maxDelayMillis then some n else none := by
  have hdigits : ∀ c ∈ n.repr.toList, c.isDigit = true := fun _ => isDigit_of_mem_repr
  have htrim : trim n.repr.toList = n.repr.toList :=
    trim_of_not_isBlank fun c hc => isBlank_of_isDigit (hdigits c hc)
  have hvalue : Nat.ofDigitChars 10 n.repr.toList 0 = n := by
    rw [Nat.toList_repr, Nat.ofDigitChars_ten_toDigits]
  have hne : n.repr.toList ≠ [] := by
    rw [Nat.toList_repr]
    exact Nat.toDigits_ne_nil
  -- the first character is a digit, and so no plus sign
  have hplus : n.repr.toList.head? ≠ some '+' := fun hhead =>
    not_mem_repr (c := '+') (by decide) n (List.mem_of_mem_head? hhead)
  rw [delayMillis?_of_trim (.inl rfl) (fun _ => hplus) htrim, hvalue,
    if_pos (by simpa [hne] using hdigits)]

end Config

/-! ## Attributes -/

namespace Markup

open FormSwap.Text

variable {name value : List Char} {quote : Char}

/-- `readAssigned` of a quoted value. -/
theorem readAssigned_quoted (hquote : quote = '"' ∨ quote = '\'') (hvalue : quote ∉ value)
    (rest : List Char) :
    readAssigned (quote :: (value ++ quote :: rest)) = (value, rest) := by
  have hcut : readQuoted quote (value ++ quote :: rest) = (value, rest) := by
    rw [readQuoted, cutChar?_append hvalue, Option.getD_some]
  rcases hquote with rfl | rfl
  · exact hcut
  · exact hcut

theorem endsName_of_isBlank {c : Char} (h : isBlank c = true) : endsName c = true := by
  simp [endsName, h]

/-- `readItem` of a name followed by an equals sign, with optional blanks around it. -/
theorem readItem_assigned {before : List Char} (hname : name.any endsName = false)
    (hbefore : ∀ c ∈ before, isBlank c = true) (text : List Char) :
    readItem (name ++ (before ++ '=' :: text)) =
      ⟨name, (readAssigned (trimStart text)).1, (readAssigned (trimStart text)).2⟩ := by
  have hall : ∀ c ∈ name, (!endsName c) = true := by simpa using hname
  -- the name ends at the first blank, or else at the equals sign
  have hends : ∀ c ∈ (before ++ '=' :: text).head?, (!endsName c) = false := by
    cases before with
    | nil => simp [endsName]
    | cons c rest => simp [endsName_of_isBlank (hbefore c List.mem_cons_self)]
  obtain ⟨htake, hdrop⟩ := span_append hall hends
  have htrim : trimStart (before ++ '=' :: text) = '=' :: text := by
    rw [trimStart_append hbefore, trimStart_cons_of_not_isBlank (by decide)]
  unfold readItem
  rw [htake, hdrop, htrim]
  rfl

/-- `readItem` of a name with a quoted value. -/
theorem readItem_quoted (hname : name.any endsName = false)
    (hquote : quote = '"' ∨ quote = '\'') (hvalue : quote ∉ value) (rest : List Char) :
    readItem (name ++ '=' :: quote :: (value ++ quote :: rest)) = ⟨name, value, rest⟩ := by
  have hblank : isBlank quote = false := by
    rcases hquote with rfl | rfl <;> decide
  have hassigned := readItem_assigned hname (List.forall_mem_nil _)
    (quote :: (value ++ quote :: rest))
  rwa [trimStart_cons_of_not_isBlank hblank, readAssigned_quoted hquote hvalue] at hassigned

/-- `attributesFrom` of a quoted attribute. -/
theorem attributesFrom_quoted (hne : name ≠ []) (hname : name.any endsName = false)
    (hquote : quote = '"' ∨ quote = '\'') (hvalue : quote ∉ value) (rest : List Char) :
    attributesFrom (name ++ '=' :: quote :: (value ++ quote :: rest)) =
      (String.ofList (Http.lower name), String.ofList value) ::
        attributesFrom (trimStart rest) := by
  rw [attributesFrom, readItem_quoted hname hquote hvalue]
  simp [hne]

/-- `cutTag?` of a text that starts with a tag splits at the first `>`. -/
theorem cutTag?_append {name tag : List Char} {c : Char} (hc : followsTagName c = true)
    (htag : '>' ∉ c :: tag) (rest : List Char) :
    cutTag? name ('<' :: name ++ (c :: tag ++ '>' :: rest)) = some ([], c :: tag, rest) := by
  have hdrop : dropOpening? name ('<' :: name ++ (c :: tag ++ '>' :: rest)) =
      some (c :: tag ++ '>' :: rest) := by
    have hpiece : dropPiece? ('<' :: name) ('<' :: name ++ (c :: tag ++ '>' :: rest)) =
        some (c :: tag ++ '>' :: rest) := dropPiece?_eq_some_iff.mpr rfl
    rw [dropOpening?, hpiece]
    exact if_pos hc
  have hopen : cutOpening? name ('<' :: name ++ (c :: tag ++ '>' :: rest)) =
      some ([], c :: tag ++ '>' :: rest) := by
    rw [List.cons_append, cutOpening?, ← List.cons_append, hdrop]
  rw [cutTag?, hopen]
  simp only [cutChar?_append htag, Option.map_some]

end Markup

/-! ## Opening tags -/

namespace Config

open FormSwap.Markup FormSwap.Text

/-- `c.tagText` is the text of the opening tag after its name. -/
def tagText (c : Config) : List Char :=
  ' ' :: (swapAttribute.toList ++ '=' :: '\'' :: (c.swap.name.toList ++ '\'' :: ' ' ::
    (delayAttribute.toList ++ '=' :: '\'' :: (c.delay.millis.repr.toList ++ ['\'']))))

theorem toList_openTag (c : Config) :
    c.openTag.toList = '<' :: hostName ++ (c.tagText ++ ['>']) := by
  simp [openTag, tagText, hostName]

/-- `tagText` has no `>`. -/
theorem gt_not_mem_tagText (c : Config) : '>' ∉ c.tagText := by
  have hswap : '>' ∉ c.swap.name.toList := by
    cases c.swap <;> decide
  have hdelay : '>' ∉ c.delay.millis.repr.toList := not_mem_repr (by decide) _
  simpa [tagText, swapAttribute, delayAttribute, hswap] using hdelay

/-- `cutTag?` finds the whole opening tag, whatever follows it. -/
theorem cutTag?_openTag (c : Config) (rest : List Char) :
    cutTag? hostName (c.openTag.toList ++ rest) = some ([], c.tagText, rest) := by
  rw [toList_openTag, List.append_assoc, List.append_assoc, List.singleton_append]
  exact cutTag?_append (by decide) c.gt_not_mem_tagText rest

/-- `readAttributes` of an opening tag is its two attributes. -/
theorem readAttributes_openTag (c : Config) :
    readAttributes c.tagText =
      [(swapAttribute, c.swap.name), (delayAttribute, c.delay.millis.repr)] := by
  have hswap : '\'' ∉ c.swap.name.toList := by
    cases c.swap <;> decide
  have hdelay : '\'' ∉ c.delay.millis.repr.toList := not_mem_repr (by decide) _
  have hstart : trimStart c.tagText = swapAttribute.toList ++ '=' :: '\'' ::
      (c.swap.name.toList ++ '\'' :: ' ' :: (delayAttribute.toList ++ '=' :: '\'' ::
        (c.delay.millis.repr.toList ++ ['\'']))) := rfl
  have hnext (s : List Char) : trimStart (' ' :: (delayAttribute.toList ++ s)) =
      delayAttribute.toList ++ s := rfl
  rw [readAttributes, hstart,
    attributesFrom_quoted (by decide) (by decide) (.inr rfl) hswap, hnext,
    attributesFrom_quoted (by decide) (by decide) (.inr rfl) hdelay, trimStart_nil,
    attributesFrom, String.ofList_toList, String.ofList_toList]
  rfl

/-- `ofAttributes` of an opening tag: the delay is cut to whole milliseconds, and ignored beyond the
limit. -/
theorem ofAttributes_openTag (c : Config) :
    ofAttributes (lookup (readAttributes c.tagText)) = .ok
      (if c.delay.millis ≤ maxDelayMillis then
        { config := { c with delay := .ofMillis c.delay.millis } }
      else { config := { swap := c.swap }, ignoredDelay := some c.delay.millis.repr }) := by
  have hswap : lookup (readAttributes c.tagText) swapAttribute = some c.swap.name := by
    rw [readAttributes_openTag]
    rfl
  have hdelay : lookup (readAttributes c.tagText) delayAttribute =
      some c.delay.millis.repr := by
    rw [readAttributes_openTag]
    rfl
  have hmode : SwapMode.parse c.swap.name = .ok c.swap := by
    cases c.swap <;> rfl
  unfold ofAttributes
  rw [hswap, hdelay]
  dsimp only
  rw [hmode, delayMillis?_repr]
  by_cases hlimit : c.delay.millis ≤ maxDelayMillis
  · simp only [if_pos hlimit]
    rfl
  · simp only [if_neg hlimit]
    rfl

end Config

end FormSwap

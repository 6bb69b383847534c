import FormSwap.Proofs.WrittenTag
import Mathlib.Logic.Function.Iterate

/-!
# The syntax of a tag's attributes

`SpellsTag` is a grammar of tag texts: a value may be in quotes of either kind or unquoted, blanks
may surround the equals sign, and blanks and stray slashes may separate the attributes. An unquoted
value ends at the next blank. `readAttributes` accepts every text of the grammar.

On any other text the reader terminates as well: each of its rounds reads one item and leaves a
shorter text.

An equals sign may have no name before it. Its value is dropped like a stray slash, together with
one octet after it. This changes nothing if that octet is a blank, but some blanks have several
octets, and after such a one nothing more is read.

Main definitions:

- `Markup.round`, `Markup.left`: one round of the reader, and the text after some rounds
- `Markup.SpellsTag`: the texts that spell a list of attributes

Main results:

- `Markup.exists_rounds`: the reader terminates
- `Markup.SpellsTag.readAttributes_eq`: `readAttributes` of a text that spells attributes
- `Markup.readAttributes_nameless`: `readAttributes` after a value without a name
-/

namespace FormSwap.Markup

open FormSwap.Text

variable {name value text rest gap s : List Char} {loose : Bool} {l : List (String × String)}
  {a : String × String}

/-! ## Rounds -/

/-- `round s` is one round of the reader: the attribute of the item at the start of `s`, if it has a
name, and the text after it. -/
def round (s : List Char) : Option (String × String) × List Char :=
  let item := readItem s
  if item.name.isEmpty then (none, trimStart (stepOctet item.rest))
  else (some (String.ofList (Http.lower item.name), String.ofList item.value), trimStart item.rest)

/-- `left n s` is the text after `n` rounds. -/
def left (n : Nat) (s : List Char) : List Char :=
  (fun s => (round s).2)^[n] s

theorem attributesFrom_nil : attributesFrom [] = [] := by
  rw [attributesFrom]
  rfl

theorem left_succ (n : Nat) (s : List Char) : left (n + 1) s = left n (round s).2 :=
  Function.iterate_succ_apply _ n s

theorem attributesFrom_round (hs : s ≠ []) :
    attributesFrom s = (round s).1.toList ++ attributesFrom (round s).2 := by
  rw [attributesFrom, if_neg (by simpa using hs)]
  unfold round
  dsimp only
  split <;> rfl

/-- `round` consumes a name, or else an octet. -/
theorem length_round_lt (hs : s ≠ []) : (round s).2.length < s.length := by
  have hitem := length_readItem_rest_le s
  have hpos : 0 < s.length := List.length_pos_iff.mpr hs
  unfold round
  dsimp only
  split
  · -- without a name, `stepOctet` makes the text shorter
    have hstep := length_stepOctet_le (readItem s).rest
    have htrim := length_trimStart_le (stepOctet (readItem s).rest)
    dsimp only
    omega
  · rename_i hname
    have hname : 0 < (readItem s).name.length := by
      rw [List.length_pos_iff]
      simpa using hname
    have htrim := length_trimStart_le (readItem s).rest
    dsimp only
    omega

/-- The rounds end after at most as many of them as there are characters, and `attributesFrom`
collects their attributes. -/
theorem exists_rounds (s : List Char) :
    ∃ n ≤ s.length, (∀ k < n, left k s ≠ []) ∧ left n s = [] ∧
      attributesFrom s = (List.range n).filterMap fun k => (round (left k s)).1 := by
  -- the induction is on the length, as a round may take any number of characters
  induction hlength : s.length using Nat.strong_induction_on generalizing s with
  | _ length ih =>
    by_cases hs : s = []
    · subst hs
      exact ⟨0, Nat.zero_le _, by simp, rfl, attributesFrom_nil⟩
    · have hlt := length_round_lt hs
      obtain ⟨n, hn, hbusy, hend, hread⟩ := ih _ (hlength ▸ hlt) (round s).2 rfl
      refine ⟨n + 1, by omega, fun k hk => ?_, by rw [left_succ, hend], ?_⟩
      · cases k with
        | zero => exact hs
        | succ k =>
          rw [left_succ]
          exact hbusy k (by omega)
      · rw [attributesFrom_round hs, hread, List.range_succ_eq_map, List.filterMap_cons,
          List.filterMap_map]
        show (round s).1.toList ++ _ = _
        cases hfound : (round s).1 with
        | none => simp [left, hfound, Function.comp_def]
        | some a => simp [left, hfound, Function.comp_def]

/-! ## The grammar -/

/-- `SpellsValue loose value text`: `text` spells `value`. It is loose if only a blank can end
it. -/
inductive SpellsValue : Bool → List Char → List Char → Prop where
  | unquoted {value : List Char} (hne : value ≠ []) (hblank : value.any isBlank = false)
      (hquote : value.head? ≠ some '"' ∧ value.head? ≠ some '\'') : SpellsValue true value value
  | quoted {quote : Char} {value : List Char} (hquote : quote = '"' ∨ quote = '\'')
      (hvalue : quote ∉ value) : SpellsValue false value (quote :: (value ++ [quote]))

/-- `SpellsAttribute loose a text`: `text` spells `a` as a bare name, or with a value after an
equals sign that may have blanks around it. The case of the name is ignored. -/
inductive SpellsAttribute : Bool → String × String → List Char → Prop where
  | bare {name : List Char} (hne : name ≠ []) (hname : name.any endsName = false) :
      SpellsAttribute false (String.ofList (Http.lower name), "") name
  | assigned {name before after value text : List Char} {loose : Bool} (hne : name ≠ [])
      (hname : name.any endsName = false) (hbefore : before.all isBlank = true)
      (hafter : after.all isBlank = true) (hvalue : SpellsValue loose value text) :
      SpellsAttribute loose (String.ofList (Http.lower name), String.ofList value)
        (name ++ (before ++ '=' :: (after ++ text)))

/-- `isFiller c` holds for blanks and slashes. -/
def isFiller (c : Char) : Bool :=
  isBlank c || c == '/'

/-- `IsGap loose gap`: `gap` is blanks and slashes, and after a loose attribute it starts with a
blank. -/
structure IsGap (loose : Bool) (gap : List Char) : Prop where
  filler : gap.all isFiller = true
  parted : loose = true → gap.head?.all isBlank = true

/-- `SpellsRest loose l text`: `text` spells the attributes that follow another one. Between two of
them there is a blank. -/
inductive SpellsRest : Bool → List (String × String) → List Char → Prop where
  | last {loose : Bool} {gap : List Char} (hgap : IsGap loose gap) : SpellsRest loose [] gap
  | next {loose loose' : Bool} {gap text rest : List Char} {a : String × String}
      {l : List (String × String)} (hgap : IsGap loose gap) (hblank : gap.any isBlank = true)
      (ha : SpellsAttribute loose' a text) (hrest : SpellsRest loose' l rest) :
      SpellsRest loose (a :: l) (gap ++ (text ++ rest))

/-- `SpellsTag l text`: `text` spells the attributes of a tag. -/
inductive SpellsTag : List (String × String) → List Char → Prop where
  | none {lead gap : List Char} (hlead : lead.all isBlank = true)
      (hgap : gap.all isFiller = true) : SpellsTag [] (lead ++ gap)
  | some {loose : Bool} {lead text rest : List Char} {a : String × String}
      {l : List (String × String)} (hlead : lead.all isBlank = true)
      (ha : SpellsAttribute loose a text) (hrest : SpellsRest loose l rest) :
      SpellsTag (a :: l) (lead ++ (text ++ rest))

/-! ## Gaps -/

/-- `attributesFrom` drops a stray slash. -/
theorem attributesFrom_slash (s : List Char) :
    attributesFrom ('/' :: s) = attributesFrom (trimStart s) := by
  have hitem : readItem ('/' :: s) = ⟨[], [], '/' :: s⟩ := by
    have hends : endsName '/' = true := by decide
    have htrim : trimStart ('/' :: s) = '/' :: s := trimStart_cons_of_not_isBlank (by decide) s
    simp [readItem, hends, htrim]
  rw [attributesFrom, hitem]
  simp [stepOctet]

theorem isFiller_iff {c : Char} : isFiller c = true ↔ isBlank c = true ∨ c = '/' := by
  simp [isFiller]

/-- `attributesFrom` drops blanks and slashes in any order. -/
theorem attributesFrom_gap (h : gap.all isFiller = true) (s : List Char) :
    attributesFrom (trimStart (gap ++ s)) = attributesFrom (trimStart s) := by
  induction gap with
  | nil => rfl
  | cons c gap ih =>
    rw [List.all_cons, Bool.and_eq_true, isFiller_iff] at h
    have hgap := ih h.2
    rw [List.cons_append]
    rcases h.1 with hblank | rfl
    · rw [trimStart, List.dropWhile_cons_of_pos hblank]
      exact hgap
    · rw [trimStart_cons_of_not_isBlank (by decide), attributesFrom_slash, hgap]

/-- A gap does not put an equals sign first. -/
theorem not_assigned_of_gap (h : gap.all isFiller = true)
    (hs : ∀ r, trimStart s ≠ '=' :: r) (r : List Char) : trimStart (gap ++ s) ≠ '=' :: r := by
  induction gap with
  | nil => exact hs r
  | cons c gap ih =>
    rw [List.all_cons, Bool.and_eq_true, isFiller_iff] at h
    rw [List.cons_append]
    rcases h.1 with hblank | rfl
    · rw [trimStart, List.dropWhile_cons_of_pos hblank]
      exact ih h.2
    · rw [trimStart_cons_of_not_isBlank (by decide)]
      simp

theorem SpellsAttribute.exists_cons (h : SpellsAttribute loose a text) :
    ∃ c tail, text = c :: tail ∧ isBlank c = false ∧ c ≠ '=' := by
  cases h with
  | bare hne hname => exact exists_cons_of_unbroken hne hname
  | assigned hne hname hbefore hafter hvalue =>
    obtain ⟨c, tail, rfl, hblank, hassign⟩ := exists_cons_of_unbroken hne hname
    exact ⟨c, _, List.cons_append, hblank, hassign⟩

theorem SpellsAttribute.trimStart_eq (h : SpellsAttribute loose a text) (s : List Char) :
    trimStart (text ++ s) = text ++ s := by
  obtain ⟨c, tail, rfl, hblank, -⟩ := h.exists_cons
  rw [List.cons_append, trimStart_cons_of_not_isBlank hblank]

/-- The text after an attribute starts with a blank or a slash, and after a loose one with a
blank. -/
theorem SpellsRest.head (h : SpellsRest loose l text) :
    ∀ c ∈ text.head?, isFiller c = true ∧ (loose = true → isBlank c = true) := by
  have hgap {gap : List Char} (hgap : IsGap loose gap) :
      ∀ c ∈ gap.head?, isFiller c = true ∧ (loose = true → isBlank c = true) := by
    intro c hc
    refine ⟨List.all_eq_true.mp hgap.filler c (List.mem_of_mem_head? hc), fun hloose => ?_⟩
    exact (Option.all_eq_true _ _).mp (hgap.parted hloose) c hc
  cases h with
  | last h => exact hgap h
  | next h hblank =>
    -- a gap before another attribute is not empty, so it has the first character
    obtain ⟨c, hc, -⟩ := List.any_eq_true.mp hblank
    rw [List.head?_append_of_ne_nil _ (List.ne_nil_of_mem hc)]
    exact hgap h

/-- The text after an attribute does not start with an equals sign. -/
theorem SpellsRest.not_assigned (h : SpellsRest loose l text) (r : List Char) :
    trimStart text ≠ '=' :: r := by
  cases h with
  | last hgap =>
    rw [← List.append_nil text]
    exact not_assigned_of_gap hgap.filler (by simp) r
  | next hgap hblank ha hrest =>
    refine not_assigned_of_gap hgap.filler (fun r => ?_) r
    rw [ha.trimStart_eq]
    obtain ⟨c, tail, rfl, -, hassign⟩ := ha.exists_cons
    simp [hassign]

/-! ## Reading what is spelled -/

/-- `readAssigned` of a text that spells a value. -/
theorem SpellsValue.readAssigned_append (h : SpellsValue loose value text)
    (hrest : loose = true → ∀ c ∈ rest.head?, isBlank c = true) :
    readAssigned (trimStart (text ++ rest)) = (value, rest) := by
  cases h with
  | quoted hquote hvalue =>
    rename_i quote
    have hblank : isBlank quote = false := by
      rcases hquote with rfl | rfl <;> decide
    rw [List.cons_append, List.append_assoc, List.singleton_append,
      trimStart_cons_of_not_isBlank hblank]
    exact readAssigned_quoted hquote hvalue rest
  | unquoted hne hblank hquote =>
    obtain ⟨c, tail, rfl⟩ := List.exists_cons_of_ne_nil hne
    obtain ⟨hdouble, hsingle⟩ : c ≠ '"' ∧ c ≠ '\'' := by simpa using hquote
    have hfirst : isBlank c = false := (Bool.or_eq_false_iff.mp hblank).1
    have hall : ∀ x ∈ c :: tail, (!isBlank x) = true := by simpa using hblank
    -- the value ends where the rest begins
    have hends : ∀ x ∈ rest.head?, (!isBlank x) = false := fun x hx => by simp [hrest rfl x hx]
    obtain ⟨htake, hdrop⟩ := span_append hall hends
    rw [List.cons_append, trimStart_cons_of_not_isBlank hfirst, ← List.cons_append]
    unfold readAssigned
    split
    · rename_i heq
      exact absurd (List.cons.inj heq).1 hdouble
    · rename_i heq
      exact absurd (List.cons.inj heq).1 hsingle
    · rw [htake, hdrop]

/-- `attributesFrom` of a text that spells an attribute. -/
theorem SpellsAttribute.attributesFrom_append (h : SpellsAttribute loose a text)
    (hrest : SpellsRest loose l rest) :
    attributesFrom (text ++ rest) = a :: attributesFrom (trimStart rest) := by
  cases h with
  | bare hne hname =>
    -- the name ends where the rest begins, and the rest does not assign it a value
    have hends : ∀ c ∈ rest.head?, endsName c = true := by
      intro c hc
      rcases isFiller_iff.mp (hrest.head c hc).1 with hblank | rfl
      · exact endsName_of_isBlank hblank
      · decide
    rw [attributesFrom, readItem_bare hname hends hrest.not_assigned]
    simp [hne, trimStart_trimStart]
  | assigned hne hname hbefore hafter hvalue =>
    rename_i name before after value text
    have htext : name ++ (before ++ '=' :: (after ++ text)) ++ rest =
        name ++ (before ++ '=' :: (after ++ (text ++ rest))) := by simp
    rw [htext, attributesFrom, readItem_assigned hname (List.all_eq_true.mp hbefore),
      trimStart_append (List.all_eq_true.mp hafter),
      hvalue.readAssigned_append fun hloose c hc => (hrest.head c hc).2 hloose]
    simp [hne]

theorem SpellsRest.attributesFrom_eq (h : SpellsRest loose l text) :
    attributesFrom (trimStart text) = l := by
  induction h with
  | last hgap =>
    rename_i gap
    rw [← List.append_nil gap, attributesFrom_gap hgap.filler, trimStart_nil, attributesFrom_nil]
  | next hgap hblank ha hrest ih =>
    rw [attributesFrom_gap hgap.filler, ha.trimStart_eq, ha.attributesFrom_append hrest, ih]

/-- `readAttributes` of a text that spells attributes is these attributes. -/
theorem SpellsTag.readAttributes_eq (h : SpellsTag l text) : readAttributes text = l := by
  unfold readAttributes
  cases h with
  | none hlead hgap =>
    rw [trimStart_append (List.all_eq_true.mp hlead)]
    exact (SpellsRest.last ⟨hgap, nofun⟩ : SpellsRest false [] _).attributesFrom_eq
  | some hlead ha hrest =>
    rw [trimStart_append (List.all_eq_true.mp hlead), ha.trimStart_eq,
      ha.attributesFrom_append hrest, hrest.attributesFrom_eq]

/-- A character that `toLower` does not change is not in upper case. -/
theorem isUpper_of_toLower_eq {c : Char} (h : c.toLower = c) : c.isUpper = false := by
  rw [Bool.eq_false_iff]
  intro hupper
  unfold Char.isUpper at hupper
  have hrange : c.val ≥ 'A'.val ∧ c.val ≤ 'Z'.val := by simpa using hupper
  unfold Char.toLower at h
  rw [dif_pos hrange] at h
  -- an upper-case letter differs from its lower-case one
  have hval : c.val + ('a'.val - 'A'.val) = c.val := congrArg Char.val h
  simp at hval

/-- `readAttributes` reads every text of the grammar: bare names, values with or without quotes,
blanks and stray slashes in between, and duplicates. On any text its rounds end, and the names that
it reads are not empty and have neither blanks nor `=` nor `/` nor upper-case letters. -/
theorem spelled_attributes_are_read :
    (∀ l text, SpellsTag l text → readAttributes text = l) ∧
    ∀ text,
      (∃ n ≤ text.length, (∀ k < n, left k (trimStart text) ≠ []) ∧
        left n (trimStart text) = [] ∧
        readAttributes text = (List.range n).filterMap fun k =>
          (round (left k (trimStart text))).1) ∧
      ∀ a ∈ readAttributes text, a.1.toList ≠ [] ∧
        ∀ c ∈ a.1.toList, isBlank c = false ∧ c ≠ '=' ∧ c ≠ '/' ∧ c.isUpper = false := by
  refine ⟨fun l text h => h.readAttributes_eq, fun text => ⟨?_, fun a ha => ?_⟩⟩
  · obtain ⟨n, hn, hrounds⟩ := exists_rounds (trimStart text)
    exact ⟨n, Nat.le_trans hn (length_trimStart_le text), hrounds⟩
  · have hname := isName_of_mem_readAttributes ha
    refine ⟨hname.ne_nil, fun c hc => ?_⟩
    have hbroken : endsName c = false := by
      simpa using List.any_eq_false.mp hname.unbroken c hc
    have hlower : c.toLower = c :=
      List.map_inj_left.mp (hname.lower.trans (List.map_id _).symm) c hc
    simp only [endsName, Bool.or_eq_false_iff, beq_eq_false_iff_ne] at hbroken
    exact ⟨hbroken.1.1, hbroken.1.2, hbroken.2, isUpper_of_toLower_eq hlower⟩

/-- The text starts with an ideographic space and has all kinds of values, blanks around equals
signs, slashes between the attributes and in a value, and a name that occurs twice. -/
theorem spelled_attributes_are_read_mixed :
    let l := [("data-x", "a \"b"), ("checked", ""), ("swap", "innerHTML/x"), ("swap", "")]
    let text := "\u3000DATA-x =\u00a0'a \"b' / / checked Swap\t=innerHTML/x /swap=\"\" //".toList
    SpellsTag l text ∧ readAttributes text = l ∧
      ∀ c ∈ "data-x".toList, isBlank c = false ∧ c ≠ '=' ∧ c ≠ '/' ∧ c.isUpper = false := by
  intro l text
  have hdata := @SpellsAttribute.assigned "DATA-x".toList [' '] ['\u00a0'] "a \"b".toList _ _
    (by decide) (by decide) (by decide) (by decide) (.quoted (.inr rfl) (by decide))
  have hchecked := @SpellsAttribute.bare "checked".toList (by decide) (by decide)
  have hswap := @SpellsAttribute.assigned "Swap".toList ['\t'] [] "innerHTML/x".toList _ _
    (by decide) (by decide) (by decide) (by decide) (.unquoted (by decide) (by decide) (by decide))
  have hagain := @SpellsAttribute.assigned "swap".toList [] [] [] _ _
    (by decide) (by decide) (by decide) (by decide) (.quoted (.inl rfl) (by decide))
  have hend : SpellsRest false [] " //".toList := .last ⟨by decide, by decide⟩
  have hlast := @SpellsRest.next true _ [' ', '/'] _ _ _ _ ⟨by decide, by decide⟩ (by decide)
    hagain hend
  have hthird := @SpellsRest.next false _ [' '] _ _ _ _ ⟨by decide, by decide⟩ (by decide)
    hswap hlast
  have hrest := @SpellsRest.next false _ " / / ".toList _ _ _ _ ⟨by decide, by decide⟩ (by decide)
    hchecked hthird
  have htag : SpellsTag l text := by
    have hwhole := @SpellsTag.some _ ['\u3000'] _ _ _ _ (by decide) hdata hrest
    convert hwhole using 1
    · decide
    · decide
  have hread := spelled_attributes_are_read.1 l text htag
  have hmem : ("data-x", "a \"b") ∈ readAttributes text := by
    rw [hread]
    exact List.mem_cons_self
  exact ⟨htag, hread, ((spelled_attributes_are_read.2 text).2 _ hmem).2⟩

/-! ## Values without a name -/

/-- `readAttributes` drops a value without a name, with one octet after it. -/
theorem readAttributes_nameless (hvalue : SpellsValue loose value text)
    (hrest : rest.head?.all isBlank = true) :
    readAttributes ('=' :: (text ++ rest)) = attributesFrom (trimStart (stepOctet rest)) := by
  have hitem : readItem ('=' :: (text ++ rest)) = ⟨[], value, rest⟩ := by
    have hassigned := readItem_assigned List.any_nil (List.forall_mem_nil _) (text ++ rest)
    rwa [hvalue.readAssigned_append fun _ => (Option.all_eq_true _ _).mp hrest] at hassigned
  rw [readAttributes, trimStart_cons_of_not_isBlank (by decide), attributesFrom, hitem]
  simp

/-- A value without a name is dropped, and the text after it is read as if the value were not there,
provided that it is empty or starts with a blank of one octet. After a blank of several octets
nothing is read. -/
theorem nameless_value_is_dropped (hvalue : SpellsValue loose value text)
    (hrest : rest.head?.all isBlank = true) :
    readAttributes ('=' :: (text ++ rest)) =
      if rest.head?.all fun c => c.toNat < 0x80 then readAttributes rest else [] := by
  rw [readAttributes_nameless hvalue hrest]
  cases rest with
  | nil => rfl
  | cons c rest =>
    have hblank : isBlank c = true := hrest
    by_cases hone : c.toNat < 0x80
    · -- the dropped blank would have been trimmed
      simp [stepOctet, hone, readAttributes, trimStart, hblank]
    · -- `stepOctet` drops a text that starts with a character of several octets
      simp [stepOctet, hone, attributesFrom_nil]

/-- A tab has one octet, and a no-break space has two. -/
theorem nameless_value_is_dropped_before_blanks :
    SpellsValue true "x/'y".toList "x/'y".toList ∧
      isBlank '\t' = true ∧ readAttributes "=x/'y\tb".toList = readAttributes "\tb".toList ∧
      isBlank '\u00a0' = true ∧ readAttributes "=x/'y\u00a0b".toList = [] := by
  have hvalue : SpellsValue true "x/'y".toList "x/'y".toList :=
    .unquoted (by decide) (by decide) (by decide)
  exact ⟨hvalue, by decide, @nameless_value_is_dropped _ _ "\tb".toList _ hvalue (by decide),
    by decide, @nameless_value_is_dropped _ _ "\u00a0b".toList _ hvalue (by decide)⟩

/-- After an ideographic space an attribute is lost that is read if there is no nameless value. -/
theorem nameless_value_swallows_attribute :
    SpellsValue false ['x'] "'x'".toList ∧ isBlank '\u3000' = true ∧
      readAttributes "='x'\u3000b=1".toList = [] ∧
      readAttributes "\u3000b=1".toList = [("b", "1")] := by
  have hvalue : SpellsValue false ['x'] "'x'".toList := .quoted (.inr rfl) (by decide)
  have hblank : isBlank '\u3000' = true := by decide
  have htag : SpellsTag [("b", "1")] "\u3000b=1".toList :=
    @SpellsTag.some _ ['\u3000'] _ [] _ _ (by decide)
      (@SpellsAttribute.assigned ['b'] [] [] ['1'] _ _ (by decide) (by decide) (by decide)
        (by decide) (.unquoted (by decide) (by decide) (by decide)))
      (.last ⟨by decide, by decide⟩)
  refine ⟨hvalue, hblank, ?_, htag.readAttributes_eq⟩
  have hread := @readAttributes_nameless _ _ "\u3000b=1".toList _ hvalue (by decide)
  exact hread.trans attributesFrom_nil

end FormSwap.Markup

import FormSwap.Markup.Attribute
import FormSwap.Page.Lifecycle
import FormSwap.Proofs.OpenTag
import Mathlib.Data.List.Induction

/-!
# Delay texts

A valid delay is a decimal number with optional blanks around it, an optional plus sign and any
number of leading zeros. A number up to the limit is resolved to itself, so none is ever cut or
wrapped around; any other text is resolved to zero and reported as it is in the attribute.

The swap mode is checked first. An invalid one is an error, whatever the delay is.

Main definitions:

- `Config.SpellsMillis`: the texts that spell a number of milliseconds
- `Config.Resolved.log`: what is logged when a configuration is resolved

Main results:

- `Config.exists_zeros`: digits are leading zeros and the number that they denote
- `Config.delayMillis?_eq_some_iff`: the texts that `delayMillis?` accepts
- `Config.delay_resolves_exactly`: the delay of every text, and when `ofAttributes` fails
-/

namespace FormSwap

/-! ## Trimming -/

namespace Text

/-- `trim` removes blanks only. -/
theorem exists_trim (s : List Char) :
    ∃ lead trail, lead.all isBlank = true ∧ trail.all isBlank = true ∧
      s = lead ++ (trim s ++ trail) := by
  have hreverse := List.takeWhile_append_dropWhile (p := isBlank) (l := (trimStart s).reverse)
  refine ⟨s.takeWhile isBlank, ((trimStart s).reverse.takeWhile isBlank).reverse,
    List.all_takeWhile, ?_, ?_⟩
  · rw [List.all_reverse]
    exact List.all_takeWhile
  · have hend : trim s ++ ((trimStart s).reverse.takeWhile isBlank).reverse = trimStart s := by
      rw [trim, trimEnd, ← List.reverse_append, hreverse, List.reverse_reverse]
    rw [hend]
    exact List.takeWhile_append_dropWhile.symm

/-- `trim` removes the blanks around a text without blanks. -/
theorem trim_append {lead s trail : List Char} (hlead : lead.all isBlank = true)
    (hs : ∀ c ∈ s, isBlank c = false) (htrail : trail.all isBlank = true) :
    trim (lead ++ (s ++ trail)) = s := by
  have hreverse : ∀ c ∈ trail.reverse, isBlank c = true := by
    rwa [← List.all_reverse, List.all_eq_true] at htrail
  rw [trim, trimStart_append (List.all_eq_true.mp hlead)]
  cases s with
  | nil =>
    -- the reversed text has its trailing blanks first
    have hnone : trimStart ([] ++ trail) = [] :=
      List.dropWhile_eq_nil_iff.mpr (List.all_eq_true.mp htrail)
    rw [hnone]
    rfl
  | cons x s =>
    have hkept : trimStart (x :: s).reverse = (x :: s).reverse :=
      trimStart_of_not_isBlank fun c hc => hs c (List.mem_reverse.mp hc)
    have hend : (trail.reverse ++ (x :: s).reverse).dropWhile isBlank = (x :: s).reverse :=
      (trimStart_append hreverse _).trans hkept
    rw [List.cons_append, trimStart_cons_of_not_isBlank (hs x List.mem_cons_self),
      ← List.cons_append, trimEnd, List.reverse_append, hend, List.reverse_reverse]

end Text

namespace Config

open FormSwap.Text

/-! ## Digits -/

theorem exists_digitChar {c : Char} (h : c.isDigit = true) : ∃ d < 10, c = Nat.digitChar d := by
  have hrange := toNat_of_isDigit h
  refine ⟨c.toNat - 48, by omega, ?_⟩
  rw [← Char.toNat_inj, Nat.toNat_digitChar_of_lt_ten (by omega)]
  omega

/-- Digits are leading zeros, and then the digits of the number that they denote. -/
theorem exists_zeros {digits : List Char} (hne : digits ≠ [])
    (h : ∀ c ∈ digits, c.isDigit = true) :
    ∃ zeros, digits = List.replicate zeros '0' ++ (Nat.ofDigitChars 10 digits 0).repr.toList := by
  -- induction from the last digit, where a decimal number grows
  induction digits using List.reverseRecOn with
  | nil => exact absurd rfl hne
  | append_singleton digits c ih =>
    obtain ⟨d, hd, rfl⟩ := exists_digitChar (h c (by simp))
    have hvalue : Nat.ofDigitChars 10 (digits ++ [Nat.digitChar d]) 0 =
        10 * Nat.ofDigitChars 10 digits 0 + d := by
      rw [Nat.ofDigitChars_append, Nat.ofDigitChars_cons_digitChar_of_lt_ten hd,
        Nat.ofDigitChars_nil]
    have hlast : Nat.toDigits 10 d = [Nat.digitChar d] := Nat.toDigits_of_lt_base hd
    rw [hvalue, Nat.toList_repr]
    by_cases hempty : digits = []
    · refine ⟨0, ?_⟩
      simp [hempty, hlast]
    · obtain ⟨zeros, hzeros⟩ := ih hempty fun c hc => h c (List.mem_append_left _ hc)
      rw [Nat.toList_repr] at hzeros
      generalize Nat.ofDigitChars 10 digits 0 = m at hzeros ⊢
      rcases Nat.eq_zero_or_pos m with rfl | hpos
      · -- all digits so far are zeros
        refine ⟨zeros + 1, ?_⟩
        rw [hzeros, Nat.toDigits_zero, Nat.mul_zero, Nat.zero_add, hlast, List.replicate_succ']
      · refine ⟨zeros, ?_⟩
        rw [← Nat.toDigits_append_toDigits (by decide) hpos hd, hlast, ← List.append_assoc,
          ← hzeros]

/-- Leading zeros do not change the number. -/
theorem ofDigitChars_zeros (zeros n : Nat) :
    Nat.ofDigitChars 10 (List.replicate zeros '0' ++ n.repr.toList) 0 = n := by
  rw [Nat.ofDigitChars_append, Nat.ofDigitChars_replicate_zero, Nat.mul_zero, Nat.toList_repr,
    Nat.ofDigitChars_ten_toDigits]

theorem isDigit_of_mem_zeros {zeros n : Nat} {c : Char}
    (h : c ∈ List.replicate zeros '0' ++ n.repr.toList) : c.isDigit = true := by
  rcases List.mem_append.mp h with hzero | hdigit
  · rw [List.eq_of_mem_replicate hzero]
    decide
  · exact isDigit_of_mem_repr hdigit

/-! ## Delay texts -/

/-- `SpellsMillis text n`: `text` is `n` in decimal, with an optional plus sign, leading zeros and
blanks around it. -/
inductive SpellsMillis : List Char → Nat → Prop where
  | mk {lead sign trail : List Char} (zeros n : Nat) (hlead : lead.all isBlank = true)
      (hsign : sign = [] ∨ sign = ['+']) (htrail : trail.all isBlank = true) :
      SpellsMillis (lead ++ (sign ++ (List.replicate zeros '0' ++ n.repr.toList) ++ trail)) n

variable {text : List Char} {n : Nat}

/-- `delayMillis?` of a text that spells `n` is `n`, up to the limit. -/
theorem SpellsMillis.delayMillis?_eq (h : SpellsMillis text n) :
    delayMillis? text = if n ≤ maxDelayMillis then some n else none := by
  cases h with
  | mk zeros _ hlead hsign htrail =>
    rename_i lead sign trail
    have hvalue := ofDigitChars_zeros zeros n
    have hall : ∀ c ∈ List.replicate zeros '0' ++ n.repr.toList, c.isDigit = true :=
      fun c => isDigit_of_mem_zeros
    have hne : List.replicate zeros '0' ++ n.repr.toList ≠ [] := by
      rw [Nat.toList_repr]
      simp [Nat.toDigits_ne_nil]
    -- generalize over the digits
    generalize List.replicate zeros '0' ++ n.repr.toList = digits at hvalue hall hne ⊢
    have hblank : ∀ c ∈ sign ++ digits, isBlank c = false := by
      intro c hc
      rcases List.mem_append.mp hc with hc | hc
      · rcases hsign with rfl | rfl
        · cases hc
        · rw [List.mem_singleton.mp hc]
          decide
      · exact isBlank_of_isDigit (hall c hc)
    have hplus : sign = [] → digits.head? ≠ some '+' := by
      intro _ hhead
      have hdigit := hall '+' (List.mem_of_mem_head? hhead)
      revert hdigit
      decide
    rw [delayMillis?_of_trim hsign hplus (trim_append hlead hblank htrail), hvalue,
      if_pos (by simpa [hne] using hall)]

/-- `delayMillis?` accepts exactly the texts that spell a number up to the limit. -/
theorem delayMillis?_eq_some_iff :
    delayMillis? text = some n ↔ n ≤ maxDelayMillis ∧ SpellsMillis text n := by
  constructor
  · intro h
    obtain ⟨lead, trail, hlead, htrail, htext⟩ := exists_trim text
    -- the sign is a plus sign if the trimmed text begins with one
    obtain ⟨sign, digits, hsign, hplus, htrim⟩ : ∃ sign digits, (sign = [] ∨ sign = ['+']) ∧
        (sign = [] → digits.head? ≠ some '+') ∧ trim text = sign ++ digits := by
      by_cases hplus : (trim text).head? = some '+'
      · obtain ⟨rest, hrest⟩ := List.head?_eq_some_iff.mp hplus
        exact ⟨['+'], rest, .inr rfl, nofun, hrest⟩
      · exact ⟨[], trim text, .inl rfl, fun _ => hplus, rfl⟩
    rw [delayMillis?_of_trim hsign hplus htrim] at h
    split at h
    · rename_i hdigits
      split at h
      · rename_i hlimit
        cases h
        obtain ⟨hne, hall⟩ : digits ≠ [] ∧ ∀ c ∈ digits, c.isDigit = true := by
          simpa using hdigits
        obtain ⟨zeros, hzeros⟩ := exists_zeros hne hall
        refine ⟨hlimit, ?_⟩
        have hspells := SpellsMillis.mk zeros (Nat.ofDigitChars 10 digits 0) hlead hsign htrail
        rwa [← hzeros, ← htrim, ← htext] at hspells
      · exact nomatch h
    · exact nomatch h
  · rintro ⟨hlimit, hspells⟩
    rw [hspells.delayMillis?_eq, if_pos hlimit]

/-! ## Resolving -/

variable {lookup : String → Option String} {v : String}

/-- `r.log` is what is logged when a configuration is resolved: a delay that was ignored. -/
def Resolved.log (r : Resolved) : List LogEntry :=
  (r.ignoredDelay.map fun text => (Notice.delayIgnored text).entry).toList

theorem log_noteResolved (p : Page) (r : Resolved) :
    (p.noteResolved r).notices.map Notice.entry = p.notices.map Notice.entry ++ r.log := by
  unfold Page.noteResolved Resolved.log
  cases r.ignoredDelay with
  | none => simp
  | some text => simp [Page.note]

/-- `modeOf value` is the swap mode of an attribute that may be missing. -/
def modeOf : Option String → Except ConfigError SwapMode
  | some value => SwapMode.parse value
  | none => .ok .outer

/-- `withDelay swap value` is the configuration with a swap mode and the delay of an attribute that
may be missing. -/
def withDelay (swap : SwapMode) : Option String → Resolved
  | none => { config := { swap } }
  | some text =>
    match delayMillis? text.toList with
    | some n => { config := { delay := .ofMillis n, swap } }
    | none => { config := { swap }, ignoredDelay := some text }

/-- `ofAttributes` is `modeOf` followed by `withDelay`, which cannot fail. -/
theorem ofAttributes_eq (lookup : String → Option String) :
    ofAttributes lookup =
      (modeOf (lookup swapAttribute)).map (withDelay · (lookup delayAttribute)) := by
  unfold ofAttributes withDelay
  -- the mode is read before the delay
  cases lookup swapAttribute
  case' some value => cases hmode : SwapMode.parse value
  case some.error e => simp [modeOf, hmode, Except.map, bind, Except.bind]
  all_goals
    cases lookup delayAttribute with
    | none => simp_all [modeOf, Except.map, bind, Except.bind]
    | some text =>
      cases hread : delayMillis? text.toList <;>
        simp_all [modeOf, Except.map, bind, Except.bind]

/-- `modeOf` fails exactly on an invalid value. -/
theorem modeOf_eq_error_iff {given : Option String} {e : ConfigError} :
    modeOf given = .error e ↔ ∃ value, given = some value ∧ value ≠ "outerHTML" ∧
      value ≠ "innerHTML" ∧ e = .invalidSwap value := by
  cases given with
  | none => simp [modeOf]
  | some value =>
    unfold modeOf SwapMode.parse SwapMode.ofName?
    by_cases houter : value = "outerHTML"
    · simp [houter]
    · by_cases hinner : value = "innerHTML"
      · simp [hinner]
      · simp [houter, hinner, eq_comm]

theorem ofAttributes_eq_error_iff {e : ConfigError} :
    ofAttributes lookup = .error e ↔ modeOf (lookup swapAttribute) = .error e := by
  rw [ofAttributes_eq]
  cases modeOf (lookup swapAttribute) with
  | error e' => simp [Except.map]
  | ok swap => simp [Except.map]

/-- `withDelay` yields `n` and logs nothing exactly if the text spells `n`. -/
theorem withDelay_eq_iff {swap : SwapMode} :
    (withDelay swap (some v)).config.delay = .ofMillis n ∧ (withDelay swap (some v)).log = [] ↔
      n ≤ maxDelayMillis ∧ SpellsMillis v.toList n := by
  rw [← delayMillis?_eq_some_iff]
  cases hread : delayMillis? v.toList with
  | none => simp [withDelay, hread, Resolved.log]
  | some m =>
    have hinj : Duration.ofMillis m = Duration.ofMillis n ↔ m = n := by
      rw [Duration.ofMillis, Duration.ofMillis, Duration.mk.injEq]
      omega
    simp [withDelay, hread, Resolved.log, hinj]

/-- `withDelay` does not cut a number beyond the limit. -/
theorem delay_withDelay_of_spells {swap : SwapMode} (h : SpellsMillis v.toList n) :
    (withDelay swap (some v)).config.delay = if n ≤ maxDelayMillis then .ofMillis n else 0 := by
  unfold withDelay
  dsimp only
  rw [h.delayMillis?_eq]
  by_cases hlimit : n ≤ maxDelayMillis
  · rw [if_pos hlimit, if_pos hlimit]
  · rw [if_neg hlimit, if_neg hlimit]

/-- `withDelay` yields zero and a log entry for a text that spells no number up to the limit. -/
theorem withDelay_of_not_spells {swap : SwapMode}
    (h : ¬ ∃ n ≤ maxDelayMillis, SpellsMillis v.toList n) :
    (withDelay swap (some v)).config.delay = 0 ∧
      (withDelay swap (some v)).log = [(Notice.delayIgnored v).entry] := by
  have hread : delayMillis? v.toList = none := by
    rw [Option.eq_none_iff_forall_ne_some]
    intro n hn
    exact h ⟨n, delayMillis?_eq_some_iff.mp hn⟩
  simp [withDelay, hread, Resolved.log]

/-- If the delay text is a number of milliseconds up to the limit, in digits with an optional plus
sign, leading zeros and blanks around it, then it is resolved to this number only, and nothing is
logged. Any other text is resolved to zero, and there is one warning that quotes it untrimmed.
Resolving fails exactly on an invalid swap mode, whatever the delay is, and then logs nothing. -/
theorem delay_resolves_exactly (lookup : String → Option String) :
    (∀ e, ofAttributes lookup = .error e ↔ ∃ value, lookup swapAttribute = some value ∧
      value ≠ "outerHTML" ∧ value ≠ "innerHTML" ∧ e = .invalidSwap value) ∧
    (∀ e, ofAttributes lookup = .error e →
      (∀ lookup', lookup' swapAttribute = lookup swapAttribute →
        ofAttributes lookup' = .error e) ∧
      ∀ (p : Page) (h : HostId), p.getAttribute h = lookup → p.mount h = (p, .error e)) ∧
    ∀ v, lookup delayAttribute = some v →
      (∀ value, lookup swapAttribute = some value →
        value = "outerHTML" ∨ value = "innerHTML") →
      ∃ r, ofAttributes lookup = .ok r ∧
        (∀ n, r.config.delay = .ofMillis n ∧ r.log = [] ↔
          n ≤ UInt64.size - 1 ∧ SpellsMillis v.toList n) ∧
        ((¬ ∃ n ≤ UInt64.size - 1, SpellsMillis v.toList n) →
          r.config.delay = 0 ∧
          r.log = [{ level := .warn
                     message := "ignoring invalid delay value " ++ quoted v ++ ", using 0" }]) ∧
        (∀ n, SpellsMillis v.toList n →
          r.config.delay = if n ≤ UInt64.size - 1 then .ofMillis n else 0) ∧
        ∀ p : Page, (p.noteResolved r).notices.map Notice.entry =
          p.notices.map Notice.entry ++ r.log := by
  refine ⟨fun e => ?_, fun e he => ⟨fun lookup' hsame => ?_, fun p h hlookup => ?_⟩,
    fun v hdelay hswap => ?_⟩
  · rw [ofAttributes_eq_error_iff, modeOf_eq_error_iff]
  · rwa [ofAttributes_eq_error_iff, hsame, ← ofAttributes_eq_error_iff]
  · rw [Page.mount, hlookup, he]
  · have hlimit : maxDelayMillis = UInt64.size - 1 := rfl
    obtain ⟨swap, hmode⟩ : ∃ swap, modeOf (lookup swapAttribute) = .ok swap := by
      cases hmode : modeOf (lookup swapAttribute) with
      | ok swap => exact ⟨swap, rfl⟩
      | error e =>
        obtain ⟨value, hvalue, houter, hinner, -⟩ := modeOf_eq_error_iff.mp hmode
        rcases hswap value hvalue with heq | heq
        · exact absurd heq houter
        · exact absurd heq hinner
    refine ⟨withDelay swap (some v), ?_, fun n => ?_, fun hnone => ?_, fun n hn => ?_, fun p => ?_⟩
    · rw [ofAttributes_eq, hmode, hdelay]
      rfl
    · rw [← hlimit]
      exact withDelay_eq_iff
    · rw [← hlimit] at hnone
      exact withDelay_of_not_spells hnone
    · rw [← hlimit]
      exact delay_withDelay_of_spells hn
    · exact log_noteResolved p _

/-- The largest number is resolved to itself, with blanks, a sign and leading zeros; the next one to
zero, with a warning. An invalid swap mode fails for both. -/
theorem delay_resolves_exactly_at_limit :
    ∃ last next : String,
      last = "\u3000+0018446744073709551615\t" ∧ next = "18446744073709551616" ∧
      SpellsMillis last.toList (UInt64.size - 1) ∧ SpellsMillis next.toList UInt64.size ∧
      (∃ r, ofAttributes (Markup.lookup [("delay", last)]) = .ok r ∧
        r.config.delay = .ofMillis (UInt64.size - 1) ∧ r.log = []) ∧
      (∃ r, ofAttributes (Markup.lookup [("delay", next)]) = .ok r ∧
        r.config.delay = 0 ∧ r.log.length = 1) ∧
      ofAttributes (Markup.lookup [("delay", last), ("swap", "outerhtml")]) =
        .error (.invalidSwap "outerhtml") ∧
      ofAttributes (Markup.lookup [("delay", next), ("swap", "outerhtml")]) =
        .error (.invalidSwap "outerhtml") := by
  have hlast : SpellsMillis "\u3000+0018446744073709551615\t".toList (UInt64.size - 1) := by
    have htext : "\u3000+0018446744073709551615\t".toList = ['\u3000'] ++
        (['+'] ++ (List.replicate 2 '0' ++ (UInt64.size - 1).repr.toList) ++ ['\t']) := by decide
    rw [htext]
    exact .mk 2 _ (by decide) (.inr rfl) (by decide)
  have hnext : SpellsMillis "18446744073709551616".toList UInt64.size := by
    have htext : "18446744073709551616".toList =
        [] ++ ([] ++ (List.replicate 0 '0' ++ UInt64.size.repr.toList) ++ []) := by decide
    rw [htext]
    exact .mk 0 _ (by decide) (.inl rfl) (by decide)
  have hmisspelled (v : String) :
      ofAttributes (Markup.lookup [("delay", v), ("swap", "outerhtml")]) =
        .error (.invalidSwap "outerhtml") :=
    ((delay_resolves_exactly _).1 _).mpr ⟨"outerhtml", rfl, by decide, by decide, rfl⟩
  obtain ⟨r, hr, hexact, -⟩ := (delay_resolves_exactly (Markup.lookup
    [("delay", "\u3000+0018446744073709551615\t")])).2.2 _ rfl nofun
  obtain ⟨r', hr', -, hignored, -⟩ := (delay_resolves_exactly (Markup.lookup
    [("delay", "18446744073709551616")])).2.2 _ rfl nofun
  have hpast : ¬ ∃ n ≤ UInt64.size - 1, SpellsMillis "18446744073709551616".toList n := by
    rintro ⟨n, hn, hspells⟩
    have hread := hspells.delayMillis?_eq
    rw [hnext.delayMillis?_eq, if_neg (by decide),
      if_pos (show n ≤ maxDelayMillis from hn)] at hread
    cases hread
  obtain ⟨hzero, hlog⟩ := hignored hpast
  refine ⟨_, _, rfl, rfl, hlast, hnext, ⟨r, hr, (hexact _).mpr ⟨Nat.le_refl _, hlast⟩⟩,
    ⟨r', hr', hzero, ?_⟩, hmisspelled _, hmisspelled _⟩
  rw [hlog]
  rfl

end Config

end FormSwap

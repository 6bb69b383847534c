import FormSwap.Proofs.Carried

/-!
# Decoding encoded payloads

`decode` inverts `encode` step by step: it splits at `&`, splits name and value at the first `=`,
replaces `+` by a space, decodes escapes to octets, and octets to characters. Each step inverts one
step of `encode`, because the encoded text has none of the delimiters of the later steps.

Main results:

- `Text.utf8Decode_utf8Encode`: `utf8Decode` inverts `utf8Encode`
- `Payload.decodeText_encodeText`: `decodeText` inverts `encodeText`
- `Payload.decode_encode`: `decode` inverts `encode`
-/

namespace FormSwap

/-! ## UTF-8 -/

namespace Text

section Characters

variable {n : Nat}

/-- The code points of characters. -/
theorem toNat_cases (c : Char) : c.toNat < 0xD800 ∨ 0xDFFF < c.toNat ∧ c.toNat < 0x110000 :=
  c.valid

/-- `utf8DecodeFrom` of a continuation octet. -/
theorem utf8DecodeFrom_continue {owed low high bits m : Nat} (hm : m < 64)
    (hlow : low ≤ 0x80 + m) (hhigh : 0x80 + m ≤ high) (rest : List UInt8) :
    utf8DecodeFrom (some ⟨owed, low, high, bits⟩) (UInt8.ofNat (0x80 + m) :: rest) =
      if owed ≤ 1 then Char.ofNat (bits * 64 + m) :: utf8DecodeFrom none rest
      else utf8DecodeFrom (some ⟨owed - 1, 0x80, 0xBF, bits * 64 + m⟩) rest := by
  have hnat : (UInt8.ofNat (0x80 + m)).toNat = 0x80 + m := by
    rw [UInt8.toNat_ofNat']
    omega
  have hbits : 0x80 + m - 0x80 = m := by omega
  simp only [utf8DecodeFrom, hnat, hlow, hhigh, and_self, if_true, hbits]

/-- `LeadOctet.of` the first of two octets. -/
theorem leadOctet_two (hlow : 0x80 ≤ n) (hhigh : n < 0x800) :
    LeadOctet.of (UInt8.ofNat (0xC0 + n / 64)) = .starts ⟨1, 0x80, 0xBF, n / 64⟩ := by
  have hnat : (UInt8.ofNat (0xC0 + n / 64)).toNat = 0xC0 + n / 64 := by
    rw [UInt8.toNat_ofNat']
    omega
  have h1 : ¬ 0xC0 + n / 64 < 0x80 := by omega
  have h2 : ¬ 0xC0 + n / 64 < 0xC2 := by omega
  have h3 : 0xC0 + n / 64 < 0xE0 := by omega
  simp only [LeadOctet.of, hnat, h1, h2, h3, if_true, if_false, Nat.add_sub_cancel_left]

/-- `LeadOctet.of` the first of three octets. The bounds on the next octet exclude overlong forms
and surrogates. -/
theorem leadOctet_three (hlow : 0x800 ≤ n) (hhigh : n < 0x10000)
    (hvalid : n < 0xD800 ∨ 0xDFFF < n) :
    ∃ low high, LeadOctet.of (UInt8.ofNat (0xE0 + n / 4096)) = .starts ⟨2, low, high, n / 4096⟩ ∧
      low ≤ 0x80 + n / 64 % 64 ∧ 0x80 + n / 64 % 64 ≤ high := by
  have hnat : (UInt8.ofNat (0xE0 + n / 4096)).toNat = 0xE0 + n / 4096 := by
    rw [UInt8.toNat_ofNat']
    omega
  have h1 : ¬ 0xE0 + n / 4096 < 0x80 := by omega
  have h2 : ¬ 0xE0 + n / 4096 < 0xC2 := by omega
  have h3 : ¬ 0xE0 + n / 4096 < 0xE0 := by omega
  simp only [LeadOctet.of, hnat, h1, h2, h3, if_false]
  by_cases hfirst : 0xE0 + n / 4096 = 0xE0
  · have hzero : n / 4096 = 0 := by omega
    refine ⟨0xA0, 0xBF, ?_, by omega, by omega⟩
    rw [if_pos hfirst, hzero]
  · by_cases hsurrogate : 0xE0 + n / 4096 = 0xED
    · have hbits : n / 4096 = 0xD := by omega
      refine ⟨0x80, 0x9F, ?_, by omega, by omega⟩
      rw [if_neg hfirst, if_pos hsurrogate, hbits]
    · have h4 : 0xE0 + n / 4096 < 0xF0 := by omega
      refine ⟨0x80, 0xBF, ?_, by omega, by omega⟩
      rw [if_neg hfirst, if_neg hsurrogate, if_pos h4, Nat.add_sub_cancel_left]

/-- `LeadOctet.of` the first of four octets. The bounds on the next octet exclude overlong forms and
code points beyond the last one. -/
theorem leadOctet_four (hlow : 0x10000 ≤ n) (hhigh : n < 0x110000) :
    ∃ low high,
      LeadOctet.of (UInt8.ofNat (0xF0 + n / 262144)) = .starts ⟨3, low, high, n / 262144⟩ ∧
      low ≤ 0x80 + n / 4096 % 64 ∧ 0x80 + n / 4096 % 64 ≤ high := by
  have hnat : (UInt8.ofNat (0xF0 + n / 262144)).toNat = 0xF0 + n / 262144 := by
    rw [UInt8.toNat_ofNat']
    omega
  have h1 : ¬ 0xF0 + n / 262144 < 0x80 := by omega
  have h2 : ¬ 0xF0 + n / 262144 < 0xC2 := by omega
  have h3 : ¬ 0xF0 + n / 262144 < 0xE0 := by omega
  have h4 : ¬ 0xF0 + n / 262144 = 0xE0 := by omega
  have h5 : ¬ 0xF0 + n / 262144 = 0xED := by omega
  have h6 : ¬ 0xF0 + n / 262144 < 0xF0 := by omega
  simp only [LeadOctet.of, hnat, h1, h2, h3, h4, h5, h6, if_false]
  by_cases hfirst : 0xF0 + n / 262144 = 0xF0
  · have hzero : n / 262144 = 0 := by omega
    refine ⟨0x90, 0xBF, ?_, by omega, by omega⟩
    rw [if_pos hfirst, hzero]
  · by_cases hmiddle : 0xF0 + n / 262144 < 0xF4
    · refine ⟨0x80, 0xBF, ?_, by omega, by omega⟩
      rw [if_neg hfirst, if_pos hmiddle, Nat.add_sub_cancel_left]
    · have hlast : n / 262144 = 4 := by omega
      refine ⟨0x80, 0x8F, ?_, by omega, by omega⟩
      rw [if_neg hfirst, if_neg hmiddle, hlast, if_pos rfl]

end Characters

/-- `utf8DecodeFrom` of an encoded character. -/
theorem utf8DecodeFrom_utf8Octets (c : Char) (rest : List UInt8) :
    utf8DecodeFrom none (utf8Octets c ++ rest) = c :: utf8DecodeFrom none rest := by
  have hvalid := toNat_cases c
  have hback : Char.ofNat c.toNat = c := Char.ofNat_toNat c
  unfold utf8Octets
  dsimp only
  split
  · -- one octet
    rename_i hone
    have hnat : (UInt8.ofNat c.toNat).toNat = c.toNat := by
      rw [UInt8.toNat_ofNat']
      omega
    simp only [List.cons_append, List.nil_append, utf8DecodeFrom, LeadOctet.of, hnat, hone,
      if_true, hback]
  · split
    · -- two octets
      rename_i hone htwo
      have hbits : c.toNat / 64 * 64 + c.toNat % 64 = c.toNat := by omega
      simp only [List.cons_append, List.nil_append]
      rw [utf8DecodeFrom, leadOctet_two (by omega) htwo]
      dsimp only
      rw [utf8DecodeFrom_continue (by omega) (by omega) (by omega), if_pos (by omega), hbits,
        hback]
    · split
      · -- three octets
        rename_i hone htwo hthree
        obtain ⟨low, high, hlead, hlow, hhigh⟩ :=
          leadOctet_three (n := c.toNat) (by omega) hthree (by omega)
        have hbits : (c.toNat / 4096 * 64 + c.toNat / 64 % 64) * 64 + c.toNat % 64 = c.toNat := by
          omega
        simp only [List.cons_append, List.nil_append]
        rw [utf8DecodeFrom, hlead]
        dsimp only
        rw [utf8DecodeFrom_continue (by omega) hlow hhigh, if_neg (by omega),
          utf8DecodeFrom_continue (by omega) (by omega) (by omega), if_pos (by omega), hbits,
          hback]
      · -- four octets
        rename_i hone htwo hthree
        obtain ⟨low, high, hlead, hlow, hhigh⟩ :=
          leadOctet_four (n := c.toNat) (by omega) (by omega)
        have hbits : ((c.toNat / 262144 * 64 + c.toNat / 4096 % 64) * 64 + c.toNat / 64 % 64) * 64
            + c.toNat % 64 = c.toNat := by
          omega
        simp only [List.cons_append, List.nil_append]
        rw [utf8DecodeFrom, hlead]
        dsimp only
        rw [utf8DecodeFrom_continue (by omega) hlow hhigh, if_neg (by omega),
          utf8DecodeFrom_continue (by omega) (by omega) (by omega), if_neg (by omega),
          utf8DecodeFrom_continue (by omega) (by omega) (by omega), if_pos (by omega), hbits,
          hback]

/-- `utf8Decode` inverts `utf8Encode`. -/
theorem utf8Decode_utf8Encode (s : List Char) : utf8Decode (utf8Encode s) = s := by
  unfold utf8Decode utf8Encode
  induction s with
  | nil => rfl
  | cons c rest ih => rw [List.flatMap_cons, utf8DecodeFrom_utf8Octets, ih]

/-- `utf8Octets` of an ASCII character. -/
theorem utf8Octets_ofNat {n : Nat} (h : n < 0x80) :
    utf8Octets (Char.ofNat n) = [UInt8.ofNat n] := by
  have hvalid : n.isValidChar := Or.inl (by omega)
  have hnat : (Char.ofNat n).toNat = n := by
    rw [Char.ofNat, dif_pos hvalid]
    rfl
  simp only [utf8Octets, hnat, h, if_true]

/-! ## Escapes -/

/-- `percentDecode` of an octet other than the percent sign. -/
theorem percentDecode_cons {b : UInt8} (h : b ≠ 0x25) (rest : List UInt8) :
    percentDecode (b :: rest) = b :: percentDecode rest := by
  match rest with
  | [] => rfl
  | [_] => rfl
  | _ :: _ :: _ => rw [percentDecode, if_neg h]

/-- `percentDecode` of an escape. -/
theorem percentDecode_escape {hi lo : UInt8} {h l : Nat} (hhi : hexValue? hi = some h)
    (hlo : hexValue? lo = some l) (rest : List UInt8) :
    percentDecode (0x25 :: hi :: lo :: rest) = UInt8.ofNat (h * 16 + l) :: percentDecode rest := by
  rw [percentDecode, if_pos rfl, hhi, hlo]

end Text

namespace Payload

open FormSwap.Text

/-! ## Names and values -/

/-- `plusToSpace b` is the first step of `decodeText` on an octet: `+` stands for a space. -/
def plusToSpace (b : UInt8) : UInt8 :=
  if b = 0x2B then 0x20 else b

theorem decodeText_eq (s : List Char) :
    decodeText s = utf8Decode (percentDecode ((utf8Encode s).map plusToSpace)) := rfl

/-- A plain octet is ASCII, and neither a plus sign nor a percent sign. -/
theorem plain_cases {b : UInt8} (h : isPlainOctet b = true) :
    b.toNat < 0x80 ∧ b ≠ 0x2B ∧ b ≠ 0x25 := by
  have hall : ∀ n ∈ List.range 256, isPlainOctet (UInt8.ofNat n) = true →
      n < 0x80 ∧ UInt8.ofNat n ≠ 0x2B ∧ UInt8.ofNat n ≠ 0x25 := by decide +kernel
  have hb := hall b.toNat (List.mem_range.mpr b.toNat_lt)
  rw [UInt8.ofNat_toNat] at hb
  exact hb h

/-- A hexadecimal digit is one octet, which `plusToSpace` does not change. -/
theorem plusToSpace_hexDigit {n : Nat} (h : n < 16) :
    utf8Octets (hexDigit n) = [UInt8.ofNat (hexDigit n).toNat] ∧
      plusToSpace (UInt8.ofNat (hexDigit n).toNat) = UInt8.ofNat (hexDigit n).toNat := by
  have hall : ∀ m ∈ List.range 16,
      utf8Octets (hexDigit m) = [UInt8.ofNat (hexDigit m).toNat] ∧
        plusToSpace (UInt8.ofNat (hexDigit m).toNat) = UInt8.ofNat (hexDigit m).toNat := by decide
  exact hall n (List.mem_range.mpr h)

/-- `percentDecode` inverts `encodeOctet`. -/
theorem percentDecode_encodeOctet (b : UInt8) (rest : List UInt8) :
    percentDecode ((utf8Encode (encodeOctet b)).map plusToSpace ++ rest) =
      b :: percentDecode rest := by
  unfold encodeOctet
  split
  · -- it stands for itself
    rename_i hplain
    obtain ⟨hsmall, hplus, hescape⟩ := plain_cases hplain
    have hoctets : utf8Encode [Char.ofNat b.toNat] = [b] := by
      simp [utf8Encode, utf8Octets_ofNat hsmall]
    have hsame : plusToSpace b = b := if_neg hplus
    rw [hoctets, List.map_singleton, hsame, List.singleton_append, percentDecode_cons hescape]
  · split
    · -- a space
      rename_i hspace
      have hoctets : (utf8Encode ['+']).map plusToSpace = [0x20] := by decide
      rw [hspace, hoctets, List.singleton_append, percentDecode_cons (by decide)]
    · -- an escape
      have hb := b.toNat_lt
      have hhi : b.toNat / 16 < 16 := by omega
      have hlo : b.toNat % 16 < 16 := by omega
      obtain ⟨hhiOctets, hhiSame⟩ := plusToSpace_hexDigit hhi
      obtain ⟨hloOctets, hloSame⟩ := plusToSpace_hexDigit hlo
      have hsign : utf8Octets '%' = [0x25] := by decide
      have hsignSame : plusToSpace 0x25 = 0x25 := by decide
      have hoctets : (utf8Encode (percentEscape b)).map plusToSpace =
          [0x25, UInt8.ofNat (hexDigit (b.toNat / 16)).toNat,
            UInt8.ofNat (hexDigit (b.toNat % 16)).toNat] := by
        simp [utf8Encode, percentEscape, hsign, hhiOctets, hloOctets, hsignSame, hhiSame, hloSame]
      have hvalue : b.toNat / 16 * 16 + b.toNat % 16 = b.toNat := by omega
      rw [hoctets]
      simp only [List.cons_append, List.nil_append]
      rw [percentDecode_escape (hexValue?_hexDigit hhi) (hexValue?_hexDigit hlo), hvalue,
        UInt8.ofNat_toNat]

/-- `percentDecode` inverts `encodeOctet` on lists. -/
theorem percentDecode_encodeOctets (octets : List UInt8) :
    percentDecode ((utf8Encode (octets.flatMap encodeOctet)).map plusToSpace) = octets := by
  induction octets with
  | nil => rfl
  | cons b rest ih =>
    have happend : utf8Encode ((b :: rest).flatMap encodeOctet) =
        utf8Encode (encodeOctet b) ++ utf8Encode (rest.flatMap encodeOctet) := by
      simp [utf8Encode]
    rw [happend, List.map_append, percentDecode_encodeOctet, ih]

/-- `decodeText` inverts `encodeText`. -/
theorem decodeText_encodeText (s : List Char) : decodeText (encodeText s) = s := by
  rw [decodeText_eq]
  unfold encodeText
  rw [percentDecode_encodeOctets, utf8Decode_utf8Encode]

/-! ## Pairs -/

/-- `encodeText` has neither `=` nor `&`. -/
theorem separator_not_mem_encodeText (s : List Char) : '=' ∉ encodeText s ∧ '&' ∉ encodeText s := by
  have hall : ∀ n ∈ List.range 256,
      '=' ∉ encodeOctet (UInt8.ofNat n) ∧ '&' ∉ encodeOctet (UInt8.ofNat n) := by decide +kernel
  have hoctet (b : UInt8) : '=' ∉ encodeOctet b ∧ '&' ∉ encodeOctet b := by
    have hb := hall b.toNat (List.mem_range.mpr b.toNat_lt)
    rwa [UInt8.ofNat_toNat] at hb
  constructor
  · intro hmem
    obtain ⟨b, -, hb⟩ := List.mem_flatMap.mp hmem
    exact (hoctet b).1 hb
  · intro hmem
    obtain ⟨b, -, hb⟩ := List.mem_flatMap.mp hmem
    exact (hoctet b).2 hb

theorem and_not_mem_encodePair (pair : String × String) : '&' ∉ encodePair pair := by
  intro hmem
  rcases List.mem_append.mp hmem with hname | hrest
  · exact (separator_not_mem_encodeText _).2 hname
  · rcases List.mem_cons.mp hrest with heq | hvalue
    · exact absurd heq (by decide)
    · exact (separator_not_mem_encodeText _).2 hvalue

theorem decodePair_encodePair (pair : String × String) : decodePair (encodePair pair) = pair := by
  unfold decodePair encodePair
  rw [cutChar?_append (separator_not_mem_encodeText _).1]
  simp only [decodeText_encodeText, String.ofList_toList]

/-! ## Lists of pairs -/

/-- `splitChar` of a text without the separator. -/
theorem splitChar_of_not_mem {x : Char} {s : List Char} (h : x ∉ s) : splitChar x s = [s] := by
  induction s with
  | nil => rfl
  | cons c rest ih =>
    obtain ⟨hc, hrest⟩ : x ≠ c ∧ x ∉ rest := by simpa using h
    simp [splitChar, Ne.symm hc, ih hrest]

/-- `splitChar` at the first separator. -/
theorem splitChar_append {x : Char} {s : List Char} (h : x ∉ s) (rest : List Char) :
    splitChar x (s ++ x :: rest) = s :: splitChar x rest := by
  induction s with
  | nil => simp [splitChar]
  | cons c tail ih =>
    obtain ⟨hc, htail⟩ : x ≠ c ∧ x ∉ tail := by simpa using h
    simp [splitChar, Ne.symm hc, ih htail]

/-- `splitChar` of encoded pairs. -/
theorem splitChar_encodePairs {pairs : List (String × String)} (h : pairs ≠ []) :
    splitChar '&' (encodePairs pairs) = pairs.map encodePair := by
  fun_induction encodePairs pairs with
  | case1 => exact absurd rfl h
  | case2 pair => exact splitChar_of_not_mem (and_not_mem_encodePair pair)
  | case3 pair rest hrest ih =>
    have hne : rest ≠ [] := fun hnil => hrest hnil
    rw [splitChar_append (and_not_mem_encodePair pair), ih hne, List.map_cons]

theorem encodePair_ne_nil (pair : String × String) : encodePair pair ≠ [] := by
  simp [encodePair]

theorem decodePairs_encodePairs (pairs : List (String × String)) :
    decodePairs (encodePairs pairs) = pairs := by
  by_cases hpairs : pairs = []
  · subst hpairs
    rfl
  · -- no piece is empty, so none is skipped
    have hkept : (pairs.map encodePair).filter (fun piece => !piece.isEmpty) =
        pairs.map encodePair := by
      refine List.filter_eq_self.mpr fun piece hpiece => ?_
      obtain ⟨pair, -, rfl⟩ := List.mem_map.mp hpiece
      simpa using encodePair_ne_nil pair
    have hback : decodePair ∘ encodePair = id := funext decodePair_encodePair
    unfold decodePairs
    rw [splitChar_encodePairs hpairs, hkept, List.map_map, hback, List.map_id]

/-- `decode` inverts `encode`. -/
theorem decode_encode (p : Payload) : decode (encode p) = p := by
  unfold decode encode
  rw [String.toList_ofList, decodePairs_encodePairs]

/-- `decode` inverts `encode` on every payload, pair for pair and in order, so `encode` is
injective. Encoded text has letters, digits and `*-._+%=&` only. -/
theorem encode_lossless :
    (∀ p : Payload, decode (encode p) = p) ∧ Function.Injective encode ∧
      ∀ p : Payload, (encode p).toList.all isEncoded = true := by
  refine ⟨decode_encode, Function.LeftInverse.injective decode_encode, fun p => ?_⟩
  rw [encode, String.toList_ofList]
  exact List.all_eq_true.mpr (isEncoded_encodePairs p.pairs)

end Payload

end FormSwap

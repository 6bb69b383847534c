import FormSwap.Request
import Mathlib.Data.List.TakeWhile

/-!
# The payload of a request

A request has its payload in the body, or in the query of its URL. `FormRequest.query` is the text
between the first `?` and the `#`. Neither encoded text nor the path of an action has one of these
characters, so the query is exactly the payload.

Main results:

- `Payload.isEncoded_encodePairs`: encoded text has letters, digits and `*-._+%=&` only
- `FormRequest.build_carries`: a request carries the payload that it was built for
-/

namespace FormSwap

/-! ## Encoded text -/

namespace Payload

/-- `isEncoded c` holds for the characters of encoded text. -/
def isEncoded (c : Char) : Bool :=
  c.isAlphanum || "*-._+%=&".toList.contains c

theorem isEncoded_encodeOctet (b : UInt8) : ∀ c ∈ encodeOctet b, isEncoded c = true := by
  -- `decide` over all octets
  have hall : ∀ n ∈ List.range 256,
      (encodeOctet (UInt8.ofNat n)).all isEncoded = true := by decide +kernel
  have hb := hall b.toNat (List.mem_range.mpr b.toNat_lt)
  rw [UInt8.ofNat_toNat] at hb
  exact List.all_eq_true.mp hb

theorem isEncoded_encodeText (s : List Char) : ∀ c ∈ encodeText s, isEncoded c = true := by
  intro c hc
  obtain ⟨b, -, hb⟩ := List.mem_flatMap.mp hc
  exact isEncoded_encodeOctet b c hb

theorem isEncoded_encodePair (pair : String × String) :
    ∀ c ∈ encodePair pair, isEncoded c = true := by
  intro c hc
  rcases List.mem_append.mp hc with hname | hrest
  · exact isEncoded_encodeText _ c hname
  · rcases List.mem_cons.mp hrest with rfl | hvalue
    · decide
    · exact isEncoded_encodeText _ c hvalue

/-- `encodePairs` yields `isEncoded` characters only. -/
theorem isEncoded_encodePairs (pairs : List (String × String)) :
    ∀ c ∈ encodePairs pairs, isEncoded c = true := by
  intro c hc
  fun_induction encodePairs pairs with
  | case1 => cases hc
  | case2 pair => exact isEncoded_encodePair pair c hc
  | case3 pair rest _ ih =>
    rcases List.mem_append.mp hc with hpair | hrest
    · exact isEncoded_encodePair pair c hpair
    · rcases List.mem_cons.mp hrest with rfl | hlater
      · decide
      · exact ih hlater

theorem hash_not_mem_encodePairs (pairs : List (String × String)) :
    '#' ∉ encodePairs pairs := by
  intro hmem
  have hencoded := isEncoded_encodePairs pairs '#' hmem
  revert hencoded
  decide

end Payload

/-! ## Splitting -/

namespace Text

/-- `cutChar?` splits at the first occurrence. -/
theorem cutChar?_append {x : Char} {before after : List Char} (h : x ∉ before) :
    cutChar? x (before ++ x :: after) = some (before, after) := by
  induction before with
  | nil => simp [cutChar?]
  | cons c rest ih =>
    obtain ⟨hc, hrest⟩ : x ≠ c ∧ x ∉ rest := by simpa using h
    simp [cutChar?, Ne.symm hc, ih hrest]

theorem beforeChar_of_not_mem {x : Char} {s : List Char} (h : x ∉ s) : beforeChar x s = s := by
  refine List.takeWhile_eq_self_iff.mpr fun c hc => ?_
  rw [bne_iff_ne]
  rintro rfl
  exact h hc

theorem not_mem_beforeChar (x : Char) (s : List Char) : x ∉ beforeChar x s := by
  intro hmem
  have hne := List.mem_takeWhile_imp hmem
  simp at hne

theorem beforeChar_subset (x : Char) (s : List Char) : beforeChar x s ⊆ s :=
  (List.takeWhile_sublist _).subset

end Text

/-! ## Requests -/

namespace FormRequest

open FormSwap.Text

/-- `r.query` is the text between the first `?` of the URL and its `#`. -/
def query (r : FormRequest) : List Char :=
  match cutChar? '?' (beforeChar '#' r.url.toList) with
  | some (_, query) => query
  | none => []

/-- `r.Carries payload`: the payload is the query of `r` if the method has no body, and else its
body. -/
def Carries (r : FormRequest) (payload : Payload) : Prop :=
  if inUrl r.method then r.body = none ∧ String.ofList r.query = payload.encode
  else r.body = some payload.encode

theorem not_mem_pathOf (action : List Char) : '?' ∉ pathOf action ∧ '#' ∉ pathOf action :=
  ⟨not_mem_beforeChar '?' _, fun hmem => not_mem_beforeChar '#' action (beforeChar_subset _ _ hmem)⟩

/-- `query` of an action `withQuery` is that query. -/
theorem query_withQuery (r : FormRequest) {action : String} {text : List Char}
    (hurl : r.url = withQuery action (String.ofList text)) (hhash : '#' ∉ text) :
    r.query = text := by
  obtain ⟨hmark, hpath⟩ := not_mem_pathOf action.toList
  unfold query
  rw [hurl]
  unfold withQuery
  cases text with
  | nil =>
    -- without a query there is no mark either
    have hnone := cutChar?_eq_none_iff.mpr hmark
    simp [beforeChar_of_not_mem hpath, hnone]
  | cons c rest =>
    have hwhole : '#' ∉ pathOf action.toList ++ '?' :: c :: rest := by
      simp only [List.mem_append, List.mem_cons, not_or] at hhash ⊢
      exact ⟨hpath, by decide, hhash⟩
    have hlist : (String.ofList (pathOf action.toList) ++ "?" ++ String.ofList (c :: rest)).toList =
        pathOf action.toList ++ '?' :: c :: rest := by simp
    have hsome : (String.ofList (c :: rest)).isEmpty = false := by simp
    rw [hsome]
    simp only [Bool.false_eq_true, if_false, hlist, beforeChar_of_not_mem hwhole,
      cutChar?_append hmark]

/-- `build` carries the payload. -/
theorem build_carries {method action : String} {payload : Payload} {r : FormRequest}
    (h : build method action payload = .ok r) : r.Carries payload := by
  unfold build at h
  dsimp only at h
  split at h
  · split at h
    · rename_i hin
      cases h
      have hquery := query_withQuery
        { method := String.ofList (methodOf method)
          url := withQuery action payload.encode
          body := none } rfl (Payload.hash_not_mem_encodePairs payload.pairs)
      simp only [Carries, hin, if_true, true_and, hquery]
      rfl
    · rename_i hnot
      cases h
      simp [Carries, hnot]
  · cases h

end FormRequest

end FormSwap

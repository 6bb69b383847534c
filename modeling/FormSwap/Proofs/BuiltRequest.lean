import FormSwap.Proofs.Urlencoded

/-!
# Building a request

`build` succeeds exactly if the method is a token, and the payload can be decoded from the request:
from the URL for methods without a body, from the body for the others. The URL starts with the
action up to its query and fragment, so a URL that was built can be used as an action.

Main results:

- `Http.isToken_upper`: `isToken` does not depend on case
- `pathOf_eq_takeWhile`: `pathOf` cuts at the first `?` or `#`
- `pathOf_withQuery`: `withQuery` does not change the path
- `build_lossless`: when a request is built, and how its payload is decoded
-/

namespace FormSwap

/-! ## Tokens -/

namespace Http

theorem isTokenChar_toUpper (c : Char) : isTokenChar c.toUpper = isTokenChar c := by
  by_cases hlower : c.toNat ∈ List.range' 97 26
  · -- the lower case letters, one by one
    have hall : ∀ n ∈ List.range' 97 26,
        isTokenChar (Char.ofNat n).toUpper = isTokenChar (Char.ofNat n) := by decide
    have hc := hall c.toNat hlower
    rwa [Char.ofNat_toNat] at hc
  · -- every other character is its own upper case
    have hsame : c.toUpper = c := by
      refine dif_neg fun hrange => hlower ?_
      have hlow : 97 ≤ c.toNat := hrange.1
      have hhigh : c.toNat ≤ 122 := hrange.2
      exact List.mem_range'_1.mpr (by omega)
    rw [hsame]

/-- `isToken` does not depend on case. -/
theorem isToken_upper (s : List Char) : isToken (upper s) = isToken s := by
  have hchars : (fun c : Char => isTokenChar c.toUpper) = isTokenChar :=
    funext isTokenChar_toUpper
  simp [isToken, upper, List.all_map, Function.comp_def, hchars]

end Http

namespace FormRequest

open FormSwap.Text

/-! ## Paths -/

/-- `pathOf` cuts at the first `?` or `#`, in whichever order they occur. -/
theorem pathOf_eq_takeWhile (action : List Char) :
    pathOf action = action.takeWhile fun c => c != '?' && c != '#' := by
  unfold pathOf beforeChar
  rw [List.takeWhile_takeWhile]
  congr 1
  funext c
  rw [Bool.eq_iff_iff]
  simp

/-- `pathOf` of a path with a query is the path. -/
theorem pathOf_append {path : List Char} (hmark : '?' ∉ path) (hhash : '#' ∉ path)
    (text : List Char) : pathOf (path ++ '?' :: text) = path := by
  rw [pathOf_eq_takeWhile, List.takeWhile_append_of_pos]
  · simp
  · intro c hc
    have hc1 : c ≠ '?' := fun heq => hmark (heq ▸ hc)
    have hc2 : c ≠ '#' := fun heq => hhash (heq ▸ hc)
    simp [hc1, hc2]

theorem pathOf_of_not_mem {path : List Char} (hmark : '?' ∉ path) (hhash : '#' ∉ path) :
    pathOf path = path := by
  unfold pathOf
  rw [beforeChar_of_not_mem hhash, beforeChar_of_not_mem hmark]

/-- `withQuery` as a list of characters. -/
theorem toList_withQuery (action query : String) :
    (withQuery action query).toList =
      pathOf action.toList ++ if query.isEmpty then [] else '?' :: query.toList := by
  unfold withQuery
  dsimp only
  split <;> simp

/-- `withQuery` does not change the path. -/
theorem pathOf_withQuery (action query : String) :
    pathOf (withQuery action query).toList = pathOf action.toList := by
  obtain ⟨hmark, hhash⟩ := not_mem_pathOf action.toList
  rw [toList_withQuery]
  split
  · rw [List.append_nil, pathOf_of_not_mem hmark hhash]
  · rw [pathOf_append hmark hhash]

/-- `withQuery` replaces the query of an earlier `withQuery`. -/
theorem withQuery_withQuery (action query query' : String) :
    withQuery (withQuery action query) query' = withQuery action query' := by
  have hpath := pathOf_withQuery action query
  generalize withQuery action query = url at hpath ⊢
  simp only [withQuery, hpath]

/-! ## Queries -/

theorem mark_not_mem_encode (p : Payload) : '?' ∉ p.encode.toList := by
  intro hmem
  rw [Payload.encode, String.toList_ofList] at hmem
  have hencoded := Payload.isEncoded_encodePairs p.pairs '?' hmem
  revert hencoded
  decide

theorem hash_not_mem_encode (p : Payload) : '#' ∉ p.encode.toList := by
  rw [Payload.encode, String.toList_ofList]
  exact Payload.hash_not_mem_encodePairs p.pairs

/-- `encode` is empty exactly for the empty payload: even a pair of empty texts has its `=`. -/
theorem isEmpty_encode (p : Payload) : p.encode.isEmpty = p.isEmpty := by
  obtain ⟨pairs⟩ := p
  match pairs with
  | [] => rfl
  | [pair] => simp [Payload.encode, Payload.encodePairs, Payload.encodePair, Payload.isEmpty]
  | pair :: _ :: _ => simp [Payload.encode, Payload.encodePairs, Payload.isEmpty]

/-- `withQuery` of an encoded payload has no fragment and at most one `?`. -/
theorem withQuery_clean (action : String) (p : Payload) :
    '#' ∉ (withQuery action p.encode).toList ∧
      (withQuery action p.encode).toList.count '?' ≤ 1 := by
  obtain ⟨hmark, hhash⟩ := not_mem_pathOf action.toList
  have hnone : (pathOf action.toList).count '?' = 0 := List.count_eq_zero.mpr hmark
  rw [toList_withQuery]
  split
  · rw [List.append_nil, hnone]
    exact ⟨hhash, by omega⟩
  · have hquery : p.encode.toList.count '?' = 0 := List.count_eq_zero.mpr (mark_not_mem_encode p)
    constructor
    · simp only [List.mem_append, List.mem_cons, not_or]
      exact ⟨hhash, by decide, hash_not_mem_encode p⟩
    · rw [List.count_append, List.count_cons_self, hnone, hquery]

/-- `withQuery` of an encoded payload is the path of the action, and the payload as a query unless
it is empty. -/
theorem withQuery_carries (action : String) (p : Payload) :
    ∃ tail, (withQuery action p.encode).toList =
        (action.toList.takeWhile fun c => c != '?' && c != '#') ++ tail ∧
      (p.isEmpty = true ∧ tail = [] ∨
        p.isEmpty = false ∧ ∃ text, tail = '?' :: text.toList ∧ Payload.decode text = p) := by
  rw [toList_withQuery, pathOf_eq_takeWhile, isEmpty_encode]
  by_cases hempty : p.isEmpty = true
  · exact ⟨[], by rw [if_pos hempty], .inl ⟨hempty, rfl⟩⟩
  · refine ⟨'?' :: p.encode.toList, by rw [if_neg hempty], .inr ⟨by simpa using hempty, ?_⟩⟩
    exact ⟨p.encode, rfl, Payload.decode_encode p⟩

/-! ## Requests -/

theorem build_of_token {method : String} (h : Http.isToken (trim method.toList) = true)
    (action : String) (p : Payload) :
    build method action p = .ok (
      if inUrl (String.ofList (methodOf method)) then
        { method := String.ofList (methodOf method)
          url := withQuery action p.encode
          body := none }
      else
        { method := String.ofList (methodOf method)
          url := action
          body := some p.encode }) := by
  have htoken : Http.isToken (methodOf method) = true := by
    rw [methodOf, Http.isToken_upper, h]
  unfold build
  simp only [htoken, if_true]
  split <;> rfl

theorem build_of_not_token {method : String} (h : Http.isToken (trim method.toList) = false)
    (action : String) (p : Payload) : build method action p = .error (.invalidMethod method) := by
  have htoken : Http.isToken (methodOf method) = false := by
    rw [methodOf, Http.isToken_upper, h]
  unfold build
  simp only [htoken, Bool.false_eq_true, if_false]

theorem inUrl_iff {method : String} :
    inUrl method = true ↔ method = "GET" ∨ method = "HEAD" := by
  simp [inUrl]

/-- `build` succeeds exactly if the trimmed method is a token; the error quotes the method as given.
A request without a body has as its URL the path of the action, and the payload as its query unless
it is empty, with no other `?` and no `#`; building from that URL is building from the action. Every
other request has the action as its URL, and the payload as its body. Both can be decoded. -/
theorem build_lossless (method action : String) (p : Payload) :
    (Http.isToken (trim method.toList) = false →
      ∃ e, build method action p = .error e ∧ e.message = "invalid form method: " ++ method) ∧
    (Http.isToken (trim method.toList) = true →
      ∃ r, build method action p = .ok r ∧
        r.method = String.ofList (Http.upper (trim method.toList)) ∧
        if r.method = "GET" ∨ r.method = "HEAD" then
          r.body = none ∧
          (∃ tail, r.url.toList =
              (action.toList.takeWhile fun c => c != '?' && c != '#') ++ tail ∧
            (p.isEmpty = true ∧ tail = [] ∨
              p.isEmpty = false ∧ ∃ text, tail = '?' :: text.toList ∧ Payload.decode text = p)) ∧
          '#' ∉ r.url.toList ∧ r.url.toList.count '?' ≤ 1 ∧
          ∀ p', build method r.url p' = build method action p'
        else r.url = action ∧ ∃ text, r.body = some text ∧ Payload.decode text = p) := by
  refine ⟨fun h => ⟨_, build_of_not_token h action p, rfl⟩, fun h => ?_⟩
  refine ⟨_, build_of_token h action p, ?_⟩
  by_cases hin : inUrl (String.ofList (methodOf method)) = true
  · have hname := inUrl_iff.mp hin
    obtain ⟨hhash, hmark⟩ := withQuery_clean action p
    rw [if_pos hin]
    refine ⟨rfl, ?_⟩
    rw [if_pos hname]
    refine ⟨rfl, withQuery_carries action p, hhash, hmark, fun p' => ?_⟩
    rw [build_of_token h, build_of_token h, if_pos hin, if_pos hin, withQuery_withQuery]
  · have hname : ¬ (String.ofList (methodOf method) = "GET" ∨
        String.ofList (methodOf method) = "HEAD") := fun hor => hin (inUrl_iff.mpr hor)
    rw [if_neg hin]
    refine ⟨rfl, ?_⟩
    rw [if_neg hname]
    exact ⟨rfl, p.encode, rfl, Payload.decode_encode p⟩

/-- A lower-case method with blanks around it, one of them an ideographic space, an action with a
query inside its fragment, and a payload that is encoded as `=`: the URL ends in it. -/
theorem build_lossless_get :
    Http.isToken (trim "\u3000get\t".toList) = true ∧
      ∃ r, build "\u3000get\t" "/find#top?a=1" ⟨[("", "")]⟩ = .ok r ∧ r.method = "GET" ∧
        r.url = "/find?=" ∧ r.body = none ∧
        ∀ p', build "\u3000get\t" "/find?=" p' = build "\u3000get\t" "/find#top?a=1" p' := by
  have htoken : Http.isToken (trim "\u3000get\t".toList) = true := by decide
  have hname : String.ofList (Http.upper (trim "\u3000get\t".toList)) = "GET" := by decide
  have hbuilt : build "\u3000get\t" "/find#top?a=1" ⟨[("", "")]⟩ =
      .ok { method := "GET", url := "/find?=", body := none } := by decide +kernel
  obtain ⟨r, hr, hmethod, hcarries⟩ :=
    (build_lossless "\u3000get\t" "/find#top?a=1" ⟨[("", "")]⟩).2 htoken
  rw [if_pos (.inl (hmethod.trans hname))] at hcarries
  obtain ⟨-, -, -, -, hagain⟩ := hcarries
  have hsame : r = { method := "GET", url := "/find?=", body := none } :=
    Except.ok.inj (hr.symm.trans hbuilt)
  subst hsame
  exact ⟨htoken, _, hr, rfl, rfl, rfl, hagain⟩

end FormRequest

end FormSwap

import FormSwap.Detection

/-!
# Classification by headers

`addAll` adds headers one by one, with `append` or with `insert`. With `append` the first value of a
name is the one that `first?` finds, with `insert` the last one. So the kind of a request is a
function of the list of headers added. A stored kind takes precedence until the request is
annotated; `annotate` replaces it by the kind of the headers.

Main definitions:

- `Http.deciding?`: the value of a name that `first?` finds
- `RequestKind.ofAdded`: the kind that a list of added headers gives

Main results:

- `Http.HeaderMap.first?_addAll`: `first?` after `addAll`
- `ServerRequest.classified_by_headers_alone`: the kind of a request, its parts and what a handler
  sees
-/

namespace FormSwap

/-! ## Values of a name -/

namespace Http

/-- `sameName a b` holds if `a` and `b` are equal up to ASCII case. -/
def sameName (a b : String) : Bool :=
  lower a.toList == lower b.toList

/-- `valuesOf name added` lists the values of a name, in order. -/
def valuesOf (name : String) (added : List (String × List UInt8)) : List (List UInt8) :=
  (added.filter fun h => sameName h.1 name).map (·.2)

/-- `deciding? replace name added` is the value of a name that `first?` finds after the headers were
added: the last one with `insert`, the first one with `append`. -/
def deciding? (replace : Bool) (name : String) (added : List (String × List UInt8)) :
    Option (List UInt8) :=
  if replace then (valuesOf name added).getLast? else (valuesOf name added).head?

theorem valuesOf_cons (key name : String) (value : List UInt8)
    (added : List (String × List UInt8)) :
    valuesOf key ((name, value) :: added) =
      if sameName name key then value :: valuesOf key added else valuesOf key added := by
  unfold valuesOf
  rw [List.filter_cons]
  split <;> rfl

namespace HeaderMap

variable {m m' : HeaderMap} {replace : Bool} {added : List (String × List UInt8)}

theorem normalName_beq (a b : String) : (normalName a == normalName b) = sameName a b := by
  rw [Bool.eq_iff_iff, beq_iff_eq, sameName, beq_iff_eq]
  exact String.ofList_inj

/-- `append` changes `first?` only if the name had no value. -/
theorem first?_append (m : HeaderMap) (name key : String) (value : List UInt8) :
    (m.append name value).first? key =
      (m.first? key).or (if sameName name key then some value else none) := by
  simp only [first?, append, List.find?_append, Option.map_or, List.find?_singleton,
    normalName_beq]
  split <;> rfl

/-- `insert` changes `first?` of its own name only. -/
theorem first?_insert (m : HeaderMap) (name key : String) (value : List UInt8) :
    (m.insert name value).first? key =
      if sameName name key then some value else m.first? key := by
  simp only [first?, insert, List.find?_append, List.find?_singleton, normalName_beq]
  split
  · rename_i hsame
    have hname : normalName name = normalName key := by
      rwa [← beq_iff_eq, normalName_beq]
    -- the new value is the only one of this name
    have hnone : (m.entries.filter fun e => e.1 != normalName name).find?
        (fun e => e.1 == normalName key) = none := by
      rw [List.find?_eq_none]
      intro e he
      simpa [hname] using (List.mem_filter.mp he).2
    rw [hnone]
    rfl
  · rename_i hother
    have hname : normalName name ≠ normalName key := by
      rwa [ne_eq, ← beq_iff_eq, normalName_beq]
    -- values of another name are not filtered out
    have hkept : (m.entries.filter fun e => e.1 != normalName name).find?
        (fun e => e.1 == normalName key) = m.entries.find? fun e => e.1 == normalName key := by
      rw [List.find?_filter]
      congr 1
      funext e
      by_cases he : e.1 = normalName key
      · simp [he, Ne.symm hname]
      · simp [he]
    rw [hkept, Option.or_none]

/-- `addAll` succeeds on valid headers. -/
theorem addAll_of_valid (replace : Bool) (m : HeaderMap)
    (h : ∀ e ∈ added, isToken e.1.toList = true ∧ isHeaderValue e.2 = true) :
    ∃ m', addAll replace m added = .ok m' := by
  induction added generalizing m with
  | nil => exact ⟨m, rfl⟩
  | cons e added ih =>
    obtain ⟨name, value⟩ := e
    obtain ⟨hname, hvalue⟩ := h (name, value) (by simp)
    have hcheck : check name value = .ok () := by
      simp [check, hname, hvalue]
    rw [addAll, hcheck]
    exact ih _ fun e he => h e (by simp [he])

/-- `first?` after `addAll`. -/
theorem first?_addAll (h : addAll replace m added = .ok m') (key : String) :
    m'.first? key =
      if replace then (deciding? true key added).or (m.first? key)
      else (m.first? key).or (deciding? false key added) := by
  induction added generalizing m with
  | nil =>
    cases h
    cases replace <;> simp [deciding?, valuesOf]
  | cons e added ih =>
    obtain ⟨name, value⟩ := e
    rw [addAll] at h
    split at h
    · exact nomatch h
    · have hrest := ih h
      cases replace with
      | true =>
        -- a later value replaces the new one
        simp only [if_true, first?_insert, deciding?, valuesOf_cons] at hrest ⊢
        rw [hrest]
        cases sameName name key with
        | true => simp [List.getLast?_cons]
        | false => simp
      | false =>
        -- an earlier value comes before the new one
        simp only [Bool.false_eq_true, if_false, first?_append, deciding?, valuesOf_cons] at hrest ⊢
        rw [hrest, Option.or_assoc]
        cases sameName name key with
        | true => simp
        | false => simp

end HeaderMap

end Http

/-! ## Kinds -/

open FormSwap.Http

/-- `RequestKind.ofAdded replace added` is the kind that a list of added headers gives. -/
def RequestKind.ofAdded (replace : Bool) (added : List (String × List UInt8)) : RequestKind :=
  if deciding? replace requestedWith added = some markerOctets then .ajax else .navigation

variable {replace : Bool} {added : List (String × List UInt8)} {m : HeaderMap}

/-- `isAjax` holds exactly if the deciding value is the marker. -/
theorem Http.HeaderMap.isAjax_addAll (h : addAll replace {} added = .ok m) :
    m.isAjax = true ↔ deciding? replace requestedWith added = some markerOctets := by
  have hfirst : m.first? requestedWith = deciding? replace requestedWith added := by
    rw [first?_addAll h]
    cases replace <;> simp [first?]
  rw [isAjax, hfirst, beq_iff_eq]

theorem RequestKind.ofHeaders_addAll (h : HeaderMap.addAll replace {} added = .ok m) :
    RequestKind.ofHeaders m = RequestKind.ofAdded replace added := by
  simp only [RequestKind.ofHeaders, RequestKind.ofAdded, HeaderMap.isAjax_addAll h]

namespace ServerRequest

variable {β : Type}

/-- `make` succeeds on a valid method, target and headers. -/
theorem make_of_valid {method uri : String} {target : Uri}
    (hmethod : isToken method.toList = true) (huri : Uri.parse uri = .ok target)
    (hadded : ∀ e ∈ added, isToken e.1.toList = true ∧ isHeaderValue e.2 = true)
    (replace : Bool) (stored : Option RequestKind) (body : β) :
    ∃ headers, HeaderMap.addAll replace {} added = .ok headers ∧
      make method uri replace added stored body =
        .ok ⟨{ method, uri := target, headers, stored }, body⟩ := by
  obtain ⟨headers, hheaders⟩ := HeaderMap.addAll_of_valid replace {} hadded
  refine ⟨headers, hheaders, ?_⟩
  simp [make, hmethod, huri, hheaders]

/-- For all headers and every stored kind: the request has the marker exactly if the deciding value
of the marker header is the marker. The kind of the request and of its parts is the stored one, or
else that of the headers. `annotate` changes the stored kind only, to that of the headers; the
handler gets the annotated request, and annotating it again changes nothing. -/
theorem classified_by_headers_alone {method uri : String} {target : Uri}
    (hmethod : isToken method.toList = true) (huri : Uri.parse uri = .ok target)
    (hadded : ∀ e ∈ added, isToken e.1.toList = true ∧ isHeaderValue e.2 = true)
    (replace : Bool) (stored : Option RequestKind) (body : β) :
    ∃ (r seen : ServerRequest β),
      make method uri replace added stored body = .ok r ∧
      r.parts.method = method ∧ r.parts.uri = target ∧ r.parts.stored = stored ∧ r.body = body ∧
      (r.parts.headers.isAjax = true ↔
        deciding? replace requestedWith added = some markerOctets) ∧
      r.kind = stored.getD (.ofAdded replace added) ∧
      r.parts.kind = stored.getD (.ofAdded replace added) ∧
      r.annotate = (seen, .ofAdded replace added) ∧
      (∀ (α : Type) (handler : ServerRequest β → α), (r.process handler).1 = handler seen) ∧
      seen = { r with parts := { r.parts with stored := some (.ofAdded replace added) } } ∧
      seen.kind = .ofAdded replace added ∧ seen.parts.kind = .ofAdded replace added ∧
      seen.annotate = (seen, .ofAdded replace added) := by
  obtain ⟨headers, hheaders, hmake⟩ := make_of_valid hmethod huri hadded replace stored body
  have htold := RequestKind.ofHeaders_addAll hheaders
  refine ⟨_, ⟨{ method, uri := target, headers, stored := some (.ofAdded replace added) }, body⟩,
    hmake, rfl, rfl, rfl, rfl, HeaderMap.isAjax_addAll hheaders, ?_, ?_, ?_, ?_, rfl, rfl, rfl, ?_⟩
  · rw [kind, htold]
  · rw [RequestParts.kind, htold]
  · rw [annotate, htold]
  · intro α handler
    simp only [process, annotate, htold]
  · rw [annotate, htold]

/-- The marker header is given three times, each time in another case: with the marker, with octets
that are not UTF-8, and with the marker in lower case. With `append` the first value decides, with
`insert` the last one. Each time the opposite kind is stored, and the handler does not see it. -/
theorem classified_by_headers_alone_forged :
    let added := [("X-Requested-With", markerOctets), ("x-requested-WITH", [0x78, 0xFF]),
      ("Accept", []), ("x-requested-with", Text.utf8Encode "xmlhttprequest".toList)]
    (isToken "POST".toList = true ∧ Uri.parse "/save" = .ok { path := "/save".toList } ∧
      ∀ e ∈ added, isToken e.1.toList = true ∧ isHeaderValue e.2 = true) ∧
    ∃ appended inserted : ServerRequest Nat,
      make "POST" "/save" false added (some .navigation) 7 = .ok appended ∧
      appended.kind = .navigation ∧ (appended.process kind).1 = .ajax ∧
      make "POST" "/save" true added (some .ajax) 7 = .ok inserted ∧
      inserted.kind = .ajax ∧ (inserted.process kind).1 = .navigation := by
  intro added
  have hmethod : isToken "POST".toList = true := by decide
  have huri : Uri.parse "/save" = .ok { path := "/save".toList } := rfl
  have hadded : ∀ e ∈ added, isToken e.1.toList = true ∧ isHeaderValue e.2 = true := by decide
  have hfirst : RequestKind.ofAdded false added = .ajax := by decide
  have hlast : RequestKind.ofAdded true added = .navigation := by decide
  obtain ⟨r, seen, hmake, -, -, -, -, -, hkind, -, -, hhandled, -, hseen, -⟩ :=
    classified_by_headers_alone hmethod huri hadded false (some .navigation) 7
  obtain ⟨r', seen', hmake', -, -, -, -, -, hkind', -, -, hhandled', -, hseen', -⟩ :=
    classified_by_headers_alone hmethod huri hadded true (some .ajax) 7
  refine ⟨⟨hmethod, huri, hadded⟩, r, r', hmake, hkind, ?_, hmake', hkind', ?_⟩
  · rw [hhandled, hseen, hfirst]
  · rw [hhandled', hseen', hlast]

end ServerRequest

end FormSwap

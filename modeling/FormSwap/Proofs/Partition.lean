import FormSwap.Proofs.Wrapper

/-!
# Fragments are a unique split

`fragments` splits markup at the first opening tag that has a `>`, then at the first closing tag
after it, and so on. `IsSplit` characterizes the result without the splitting functions: the sources
of the fragments are the markup, a text has no opening tag that could begin a host, a tag has no `>`
of its own, and the contents of a host have no closing tag.

An opening tag is a `<`, the tag name of a host, and a blank, `>` or `/`. Only the first of these is
a `<`, so no opening tag overlaps a text and the host after it.

Main results:

- `Text.cutPiece?_eq_none_iff`, `Text.not_infix_of_cutPiece?`: `cutPiece?` finds the first
  occurrence
- `Markup.cutOpening?_eq_none_iff`, `Markup.openingAt_of_cutOpening?`: so does `cutOpening?`
- `Markup.isSplit_fragments`: the fragments of some markup are a split of it
- `Markup.IsSplit.eq_fragments`: there is no other split
- `Markup.split_is_the_fragments`: both, and the hosts that the fragments yield
-/

namespace FormSwap

/-! ## The first occurrence of a piece -/

namespace Text

theorem dropPiece?_eq_none_iff {piece s : List Char} :
    dropPiece? piece s = none ↔ ¬ piece <+: s := by
  rw [Option.eq_none_iff_forall_ne_some]
  constructor
  · rintro h ⟨rest, rfl⟩
    exact h rest (dropPiece?_eq_some_iff.2 rfl)
  · intro h rest hrest
    exact h ⟨rest, (dropPiece?_eq_some_iff.1 hrest).symm⟩

/-- `cutPiece?` fails exactly if the piece does not occur. -/
theorem cutPiece?_eq_none_iff {piece s : List Char} :
    cutPiece? piece s = none ↔ ¬ piece <:+: s := by
  induction s with
  | nil => simp [cutPiece?, dropPiece?_eq_none_iff]
  | cons c s ih =>
    rw [List.infix_cons_iff, not_or, ← dropPiece?_eq_none_iff, ← ih, cutPiece?]
    cases dropPiece? piece (c :: s) <;> simp

/-- `cutPiece?` splits at the first occurrence. -/
theorem not_infix_of_cutPiece? {piece s before after : List Char} (hpiece : piece ≠ [])
    (h : cutPiece? piece s = some (before, after)) : ¬ piece <:+: before := by
  induction s generalizing before with
  | nil =>
    rw [cutPiece?] at h
    obtain ⟨rest, -, heq⟩ := Option.map_eq_some_iff.1 h
    cases heq
    simpa using hpiece
  | cons c s ih =>
    rw [cutPiece?] at h
    split at h
    · cases h
      simpa using hpiece
    · next hdrop =>
      obtain ⟨cut, hcut, heq⟩ := Option.map_eq_some_iff.1 h
      cases heq
      have hs : s = cut.1 ++ (piece ++ cut.2) := by
        simpa using eq_of_cutPiece? hcut
      rw [List.infix_cons_iff, not_or]
      refine ⟨fun hstart => ?_, ih hcut⟩
      -- a piece at the start of the first part is at the start of the text
      apply dropPiece?_eq_none_iff.1 hdrop
      rw [hs]
      exact hstart.trans (List.prefix_append (c :: cut.1) (piece ++ cut.2))

end Text

namespace Markup

open FormSwap.Text

/-! ## Opening tags in a text -/

/-- `OpeningAt name s before after`: `s` has an opening tag `name` between `before` and `after`. The
name is complete: the next character is a blank, a `>` or a `/`. -/
structure OpeningAt (name s before after : List Char) : Prop where
  eq : s = before ++ ('<' :: name ++ after)
  follows : ∃ c ∈ after.head?, followsTagName c = true

variable {name s before after : List Char}

theorem dropOpening?_eq_some_iff :
    dropOpening? name s = some after ↔ OpeningAt name s [] after := by
  constructor
  · intro h
    refine ⟨eq_of_dropOpening? h, ?_⟩
    unfold dropOpening? at h
    split at h
    · next c rest _ =>
      split at h
      · next hc => cases h; exact ⟨c, rfl, hc⟩
      · cases h
    · cases h
  · rintro ⟨rfl, c, hc, hfollows⟩
    obtain ⟨rest, rfl⟩ : ∃ rest, after = c :: rest := List.head?_eq_some_iff.1 hc
    have hdrop : dropPiece? ('<' :: name) ([] ++ ('<' :: name ++ c :: rest)) = some (c :: rest) :=
      dropPiece?_eq_some_iff.2 rfl
    rw [dropOpening?, hdrop]
    exact if_pos hfollows

theorem OpeningAt.cons (c : Char) (h : OpeningAt name s before after) :
    OpeningAt name (c :: s) (c :: before) after :=
  ⟨by simp [h.eq], h.follows⟩

theorem OpeningAt.append (h : OpeningAt name s before after) (t : List Char) :
    OpeningAt name (s ++ t) before (after ++ t) := by
  obtain ⟨c, hc, hfollows⟩ := h.follows
  exact ⟨by simp [h.eq], c, by simp [Option.mem_def.1 hc], hfollows⟩

/-- The text after a later opening tag is a suffix of the text after an earlier one. -/
theorem OpeningAt.suffix {before' after' : List Char} (h : OpeningAt name s before after)
    (h' : OpeningAt name s before' after') (hle : before.length ≤ before'.length) :
    after' <:+ after := by
  have hsuffix : after <:+ s := ⟨before ++ '<' :: name, by simp [h.eq]⟩
  have hsuffix' : after' <:+ s := ⟨before' ++ '<' :: name, by simp [h'.eq]⟩
  apply List.suffix_of_suffix_length_le hsuffix' hsuffix
  have hlength := congrArg List.length (h.eq.symm.trans h'.eq)
  simp only [List.length_append, List.length_cons] at hlength
  omega

/-- An opening tag is at the start of a text, or after its first character. -/
theorem OpeningAt.cons_cases {c : Char} (h : OpeningAt name (c :: s) before after) :
    (before = [] ∧ dropOpening? name (c :: s) = some after) ∨
      ∃ before', before = c :: before' ∧ OpeningAt name s before' after := by
  cases before with
  | nil => exact .inl ⟨rfl, dropOpening?_eq_some_iff.2 h⟩
  | cons b before =>
    obtain ⟨rfl, hs⟩ : c = b ∧ s = before ++ ('<' :: name ++ after) := by
      simpa using h.eq
    exact .inr ⟨before, rfl, hs, h.follows⟩

/-- `cutOpening?` fails exactly if there is no opening tag. -/
theorem cutOpening?_eq_none_iff :
    cutOpening? name s = none ↔ ∀ before after, ¬ OpeningAt name s before after := by
  induction s with
  | nil =>
    refine ⟨fun _ before after h => ?_, fun _ => rfl⟩
    have hlength := congrArg List.length h.eq
    simp at hlength
  | cons c s ih =>
    rw [cutOpening?]
    cases hdrop : dropOpening? name (c :: s) with
    | some rest =>
      simp only [reduceCtorEq, false_iff, not_forall, not_not]
      exact ⟨[], rest, dropOpening?_eq_some_iff.1 hdrop⟩
    | none =>
      simp only [Option.map_eq_none_iff, ih]
      constructor
      · intro hs before after h
        rcases h.cons_cases with ⟨-, hstart⟩ | ⟨before', -, htail⟩
        · rw [hdrop] at hstart
          cases hstart
        · exact hs before' after htail
      · intro hs before after h
        exact hs _ _ (h.cons c)

/-- `cutOpening?` splits at the first opening tag. -/
theorem openingAt_of_cutOpening? (h : cutOpening? name s = some (before, after)) :
    OpeningAt name s before after ∧
      ∀ before' after', OpeningAt name s before' after' → before.length ≤ before'.length := by
  induction s generalizing before with
  | nil => cases h
  | cons c s ih =>
    rw [cutOpening?] at h
    split at h
    · next hdrop =>
      cases h
      exact ⟨dropOpening?_eq_some_iff.1 hdrop, fun _ _ _ => Nat.zero_le _⟩
    · next hdrop =>
      obtain ⟨cut, hcut, heq⟩ := Option.map_eq_some_iff.1 h
      cases heq
      obtain ⟨hat, hfirst⟩ := ih hcut
      refine ⟨hat.cons c, fun before' after' h' => ?_⟩
      rcases h'.cons_cases with ⟨-, hstart⟩ | ⟨before'', rfl, htail⟩
      · rw [hdrop] at hstart
        cases hstart
      · simpa using hfirst before'' after' htail

/-- `cutOpening?` finds an opening tag after a text without one. No opening tag overlaps the two,
because neither the name nor the character after it is a `<`. -/
theorem cutOpening?_append {c : Char} {t : List Char} (hname : '<' ∉ name)
    (hc : followsTagName c = true) (ht : ∀ before after, ¬ OpeningAt name t before after)
    (rest : List Char) :
    cutOpening? name (t ++ ('<' :: name ++ c :: rest)) = some (t, c :: rest) := by
  induction t with
  | nil =>
    have hdrop : dropOpening? name ('<' :: (name ++ c :: rest)) = some (c :: rest) :=
      dropOpening?_eq_some_iff.2 ⟨rfl, c, rfl, hc⟩
    rw [List.nil_append, List.cons_append, cutOpening?, hdrop]
  | cons x t ih =>
    have hdrop : dropOpening? name (x :: (t ++ ('<' :: name ++ c :: rest))) = none := by
      rw [Option.eq_none_iff_forall_ne_some]
      intro after hafter
      obtain ⟨heq, y, hy, hfollows⟩ := dropOpening?_eq_some_iff.1 hafter
      obtain ⟨after, rfl⟩ := List.head?_eq_some_iff.1 hy
      have hsplit : (x :: t) ++ ('<' :: (name ++ c :: rest)) = ('<' :: name ++ [y]) ++ after := by
        simpa using heq
      rcases List.append_eq_append_iff.1 hsplit with ⟨shared, htag, hrest⟩ | ⟨more, htext, -⟩
      · cases shared with
        | nil => exact ht [] [y] ⟨by simpa using htag.symm, y, rfl, hfollows⟩
        | cons z shared =>
          -- the tag would have a `<` after its first character
          obtain rfl : '<' = z := (List.cons.inj hrest).1
          have hmem : '<' ∈ name ++ [y] := by
            have htail : name ++ [y] = t ++ '<' :: shared := by
              simpa using (List.cons.inj htag).2
            simp [htail]
          rcases List.mem_append.1 hmem with hmem | hmem
          · exact hname hmem
          · obtain rfl := List.mem_singleton.1 hmem
            exact absurd hfollows (by decide)
      · exact ht [] (y :: more) ⟨by simpa using htext, y, rfl, hfollows⟩
    have htail : ∀ before after, ¬ OpeningAt name t before after :=
      fun before after h => ht _ _ (h.cons x)
    rw [List.cons_append, cutOpening?, hdrop]
    simp only [ih htail, Option.map_some]

/-! ## Complete tags in a text -/

/-- If `cutTag?` fails, no `>` follows an opening tag. -/
theorem OpeningAt.gt_not_mem (h : OpeningAt name s before after) (hs : cutTag? name s = none) :
    '>' ∉ after := by
  unfold cutTag? at hs
  split at hs
  · next hopen => exact absurd h (cutOpening?_eq_none_iff.1 hopen before after)
  · next first tail hopen =>
    obtain ⟨hat, hfirst⟩ := openingAt_of_cutOpening? hopen
    have htail : '>' ∉ tail := cutChar?_eq_none_iff.1 (Option.map_eq_none_iff.1 hs)
    have hsuffix : after <:+ tail := hat.suffix h (hfirst before after h)
    exact fun hmem => htail (hsuffix.subset hmem)

/-- `cutTag?` finds the first opening tag, and splits at the first `>` after it. -/
theorem firstTag_of_cutTag? {tag rest : List Char}
    (h : cutTag? name s = some (before, tag, rest)) :
    OpeningAt name s before (tag ++ '>' :: rest) ∧
      (∀ before' after', ¬ OpeningAt name before before' after') ∧ '>' ∉ tag ∧
      ∀ c ∈ tag.head?, isBlank c = true ∨ c = '/' := by
  unfold cutTag? at h
  split at h
  · cases h
  · next after hopen =>
    obtain ⟨cut, hcut, heq⟩ := Option.map_eq_some_iff.1 h
    cases heq
    obtain ⟨hat, hfirst⟩ := openingAt_of_cutOpening? hopen
    have hgt : '>' ∉ cut.1 := not_mem_of_cutChar? hcut
    refine ⟨eq_of_cutChar? hcut ▸ hat, fun before' after' h' => ?_, hgt, fun c hc => ?_⟩
    · -- an opening tag in the text before would be an earlier one in the whole
      have hearlier := h'.append ('<' :: name ++ after)
      rw [← hat.eq] at hearlier
      have hle := hfirst _ _ hearlier
      have hlength := congrArg List.length h'.eq
      simp only [List.length_append, List.length_cons] at hlength
      omega
    · obtain ⟨tag, htag⟩ := List.head?_eq_some_iff.1 hc
      obtain ⟨x, hx, hfollows⟩ := hat.follows
      rw [eq_of_cutChar? hcut, htag] at hx
      obtain rfl : c = x := by simpa using hx
      have hne : c ≠ '>' := by
        rintro rfl
        exact hgt (by simp [htag])
      simpa [followsTagName, hne] using hfollows

/-- `cutTag?` finds a tag after a text without an opening tag. -/
theorem cutTag?_append_of_no_opening {tag t : List Char} (hname : '<' ∉ name) (hgt : '>' ∉ tag)
    (hstart : ∀ c ∈ tag.head?, isBlank c = true ∨ c = '/')
    (ht : ∀ before after, ¬ OpeningAt name t before after) (rest : List Char) :
    cutTag? name (t ++ ('<' :: name ++ (tag ++ '>' :: rest))) = some (t, tag, rest) := by
  have hopen : cutOpening? name (t ++ ('<' :: name ++ (tag ++ '>' :: rest))) =
      some (t, tag ++ '>' :: rest) := by
    cases tag with
    | nil => exact cutOpening?_append hname (by decide) ht rest
    | cons c tag =>
      have hc : followsTagName c = true := by
        rcases hstart c rfl with hblank | rfl
        · simp [followsTagName, hblank]
        · decide
      exact cutOpening?_append hname hc ht (tag ++ '>' :: rest)
  rw [cutTag?, hopen]
  simp only [cutChar?_append hgt, Option.map_some]

/-! ## Splits -/

/-- `x.Fits rest` is the condition on a fragment that is followed by `rest`. A text is not empty and
no other text follows. It has no opening tag, unless it is the last fragment and no `>` follows that
tag. The tag of a host ends at the first `>`, its contents at the first closing tag, and only the
last fragment may lack the closing tag. -/
def Fragment.Fits : Fragment → List Fragment → Prop
  | .text t, rest =>
    t ≠ [] ∧ (∀ u, rest.head? ≠ some (.text u)) ∧
      ∀ before after, OpeningAt hostName t before after → rest = [] ∧ '>' ∉ after
  | .host tag inner closed, rest =>
    '>' ∉ tag ∧ (∀ c ∈ tag.head?, isBlank c = true ∨ c = '/') ∧ ¬ hostClosing <:+: inner ∧
      (closed = false → rest = [])

/-- `IsSplit s l`: the sources of `l` are `s`, and each fragment satisfies `Fits`. -/
structure IsSplit (s : List Char) (l : List Fragment) : Prop where
  source : l.flatMap Fragment.source = s
  fits : ∀ before x after, l = before ++ x :: after → x.Fits after

theorem IsSplit.nil : IsSplit [] [] :=
  ⟨rfl, fun before x after h => by simp at h⟩

/-- `IsSplit` of a first fragment and the rest. -/
theorem isSplit_cons_iff {x : Fragment} {l : List Fragment} :
    IsSplit s (x :: l) ↔ x.Fits l ∧ ∃ rest, s = x.source ++ rest ∧ IsSplit rest l := by
  constructor
  · rintro ⟨hsource, hfits⟩
    refine ⟨hfits [] x l rfl, l.flatMap Fragment.source, ?_, rfl, ?_⟩
    · rw [← hsource, List.flatMap_cons]
    · rintro before y after rfl
      exact hfits (x :: before) y after rfl
  · rintro ⟨hx, rest, rfl, hsource, hfits⟩
    refine ⟨by rw [List.flatMap_cons, hsource], fun before y after heq => ?_⟩
    cases before with
    | nil =>
      cases heq
      exact hx
    | cons z before =>
      cases heq
      exact hfits before y after rfl

/-- `IsSplit` of a `textRun` before a host. -/
theorem IsSplit.textRun_append {tag inner t : List Char} {closed : Bool} {l : List Fragment}
    (ht : ∀ before after, ¬ OpeningAt hostName t before after)
    (h : IsSplit s (.host tag inner closed :: l)) :
    IsSplit (t ++ s) (textRun t ++ .host tag inner closed :: l) := by
  unfold textRun
  split
  · next hempty =>
    rw [List.isEmpty_iff.1 hempty]
    exact h
  · next hempty =>
    rw [List.singleton_append, isSplit_cons_iff]
    refine ⟨⟨by simpa using hempty, by simp, fun before after hat => ?_⟩, s, rfl, h⟩
    exact absurd hat (ht before after)

/-- `fragments` is a split. -/
theorem isSplit_fragments (s : List Char) : IsSplit s (fragments s) := by
  induction hn : s.length using Nat.strongRecOn generalizing s with
  | ind n ih =>
    subst hn
    rw [fragments_eq]
    split
    · next hnone =>
      unfold textRun
      split
      · next hempty =>
        rw [List.isEmpty_iff.1 hempty]
        exact .nil
      · next hempty =>
        rw [isSplit_cons_iff]
        refine ⟨⟨by simpa using hempty, by simp, fun before after hat => ?_⟩, [], ?_, .nil⟩
        · exact ⟨rfl, hat.gt_not_mem hnone⟩
        · exact (List.append_nil s).symm
    · next before tag body htag =>
      obtain ⟨-, hbefore, hgt, hstart⟩ := firstTag_of_cutTag? htag
      have hs : s = before ++ ('<' :: hostName ++ tag ++ '>' :: body) := by
        simpa using eq_of_cutTag? htag
      split
      · next hopen =>
        have hhost : IsSplit ('<' :: hostName ++ tag ++ '>' :: body) [.host tag body false] :=
          isSplit_cons_iff.2 ⟨⟨hgt, hstart, cutPiece?_eq_none_iff.1 hopen, fun _ => rfl⟩, [],
            by simp [Fragment.source], .nil⟩
        have hsplit := hhost.textRun_append hbefore
        rwa [← hs] at hsplit
      · next inner rest hclose =>
        have hlt : rest.length < s.length :=
          Nat.lt_of_le_of_lt (length_le_of_cutPiece? hclose) (length_lt_of_cutTag? htag)
        have hinner : ¬ hostClosing <:+: inner := not_infix_of_cutPiece? (by decide) hclose
        have hhost : IsSplit ('<' :: hostName ++ tag ++ '>' :: body)
            (.host tag inner true :: fragments rest) :=
          isSplit_cons_iff.2 ⟨⟨hgt, hstart, hinner, nofun⟩, rest,
            by simp [Fragment.source, eq_of_cutPiece? hclose], ih _ hlt rest rfl⟩
        have hsplit := hhost.textRun_append hbefore
        rwa [← hs] at hsplit

/-! ## Uniqueness -/

/-- `fragments` of a text without an opening tag before a host. -/
theorem fragments_textRun_append {tag t : List Char} (hgt : '>' ∉ tag)
    (hstart : ∀ c ∈ tag.head?, isBlank c = true ∨ c = '/')
    (ht : ∀ before after, ¬ OpeningAt hostName t before after) (body : List Char) :
    fragments (t ++ ('<' :: hostName ++ (tag ++ '>' :: body))) =
      textRun t ++ fragments ('<' :: hostName ++ (tag ++ '>' :: body)) := by
  have hname : '<' ∉ hostName := by decide
  have hempty : ∀ before after, ¬ OpeningAt hostName [] before after :=
    cutOpening?_eq_none_iff.1 rfl
  have hcut := cutTag?_append_of_no_opening hname hgt hstart hempty body
  rw [List.nil_append] at hcut
  have hrun : textRun [] = [] := rfl
  rw [fragments_eq, cutTag?_append_of_no_opening hname hgt hstart ht, fragments_eq, hcut]
  dsimp only
  rw [hrun]
  cases cutPiece? hostClosing body <;> rfl

/-- `fragments` of a text in which no `>` follows an opening tag. -/
theorem fragments_eq_textRun {t : List Char}
    (ht : ∀ before after, OpeningAt hostName t before after → '>' ∉ after) :
    fragments t = textRun t := by
  rw [fragments_eq]
  cases hcut : cutTag? hostName t with
  | none => rfl
  | some cut =>
    have hgt := ht _ _ (firstTag_of_cutTag? hcut).1
    exact absurd (by simp) hgt

/-- `fragments` of a host and a rest. -/
theorem fragments_host_append {tag inner : List Char} {closed : Bool} (hgt : '>' ∉ tag)
    (hstart : ∀ c ∈ tag.head?, isBlank c = true ∨ c = '/') (hinner : ¬ hostClosing <:+: inner)
    {rest : List Char} (hrest : closed = false → rest = []) :
    fragments ((Fragment.host tag inner closed).source ++ rest) =
      .host tag inner closed :: fragments rest := by
  have hcut (body : List Char) :
      cutTag? hostName ('<' :: hostName ++ (tag ++ '>' :: body)) = some ([], tag, body) :=
    cutTag?_append_of_no_opening (t := []) (by decide) hgt hstart
      (cutOpening?_eq_none_iff.1 rfl) body
  cases closed with
  | false =>
    have hsource : (Fragment.host tag inner false).source ++ rest =
        '<' :: hostName ++ (tag ++ '>' :: inner) := by
      simp [Fragment.source, hrest rfl]
    have hnil : fragments [] = [] := fragments_eq_textRun fun _ _ h =>
      absurd h (cutOpening?_eq_none_iff.1 rfl _ _)
    rw [hsource, fragments_eq, hcut]
    simp only [cutPiece?_eq_none_iff.2 hinner, hrest rfl, hnil]
    rfl
  | true =>
    have hsource : (Fragment.host tag inner true).source ++ rest =
        '<' :: hostName ++ (tag ++ '>' :: (inner ++ (hostClosing ++ rest))) := by
      simp [Fragment.source]
    have hclose : cutPiece? hostClosing (inner ++ (hostClosing ++ rest)) = some (inner, rest) :=
      cutPiece?_append (by decide) hinner rest
    rw [hsource, fragments_eq, hcut]
    simp only [hclose]
    rfl

/-- Every split is `fragments`. -/
theorem IsSplit.eq_fragments {l : List Fragment} (h : IsSplit s l) : l = fragments s := by
  induction l generalizing s with
  | nil =>
    obtain rfl : [] = s := h.source
    rw [fragments_eq]
    rfl
  | cons x l ih =>
    obtain ⟨hfits, rest, rfl, hrest⟩ := isSplit_cons_iff.1 h
    have hl : l = fragments rest := ih hrest
    cases x with
    | host tag inner closed =>
      obtain ⟨hgt, hstart, hinner, hlast⟩ := hfits
      have hend : closed = false → rest = [] := by
        intro hopen
        rw [← hrest.source, hlast hopen]
        rfl
      rw [fragments_host_append hgt hstart hinner hend, hl]
    | text t =>
      obtain ⟨hne, hadjacent, hopening⟩ := hfits
      have hrun : textRun t = [.text t] := by simp [textRun, hne]
      cases l with
      | nil =>
        obtain rfl : [] = rest := hrest.source
        have ht := fragments_eq_textRun fun before after hat => (hopening before after hat).2
        rw [Fragment.source, List.append_nil, ht, hrun]
      | cons y l =>
        cases y with
        | text u => exact absurd rfl (hadjacent u)
        | host tag inner closed =>
          obtain ⟨⟨hgt, hstart, -, -⟩, tail, rfl, -⟩ := isSplit_cons_iff.1 hrest
          have ht : ∀ before after, ¬ OpeningAt hostName t before after :=
            fun before after hat => nomatch (hopening before after hat).1
          have hsource : (Fragment.host tag inner closed).source ++ tail = '<' :: hostName ++
              (tag ++ '>' :: (inner ++ ((if closed then hostClosing else []) ++ tail))) := by
            simp [Fragment.source]
          rw [hsource] at hl ⊢
          rw [Fragment.source, fragments_textRun_append hgt hstart ht, ← hl, hrun]
          rfl

/-- `fragments` is the unique split of the markup: any other list of fragments with the same source
splits elsewhere than at the first complete opening tag or at the first closing tag after it. The
hosts that `addFragments` adds to a page have the attributes of their tags, and the contents read
from their markup. -/
theorem split_is_the_fragments (s : List Char) :
    (∀ l, IsSplit s l ↔ l = fragments s) ∧
      ∀ (p : Page) (d : DocumentId),
        (Page.addFragments d p (fragments s)).2.map
            ((Page.addFragments d p (fragments s)).1.piece p.hosts.length) =
          (fragments s).map Piece.ofFragment := by
  refine ⟨fun l => ⟨IsSplit.eq_fragments, ?_⟩, fun p d => ?_⟩
  · rintro rfl
    exact isSplit_fragments s
  · exact p.addFragments_pieces d (fragments s) (Nat.le_refl _)

end Markup

end FormSwap

import Agenda.Proofs.Text.LowerCase

/-!
# Lower-casing in context

A text within another one is lowered like the text by itself, except that a capital sigma may take
its other form, because letters come before or after it that the text by itself does not have
(`lowerWithin_eq_iff`). So a text is found in lower case wherever it occurs if none of its sigmas
can do this, and if one of them can (`HasLooseSigma`), there is a text in which it is not found:
`lower_infix_iff`.

Where no letters adjoin a text, its sigmas keep their forms (`lowerWithin_of_apart`). In particular,
characters that are no letters and that case context does not look past, such as blanks, cut a text
for lower-casing: what is before and what is after can be lowered by themselves
(`lower_append_cons`).
-/

namespace Agenda.Text

variable {c x : Char} {before before' after after' text left right : List Char}

/-! ### What letters become in context -/

/-- What a character becomes between the text before it, nearest character first, and the text after
it. -/
def lowerAt (before : List Char) (c : Char) (after : List Char) : List Char :=
  if c = '\u03A3' then [lowerSigma before after] else lowerChar c

/-- What a text becomes between the text before it, nearest character first, and the text after
it. -/
def lowerWithin (before : List Char) : List Char → List Char → List Char
  | [], _ => []
  | c :: cs, after => lowerAt before c (cs ++ after) ++ lowerWithin (c :: before) cs after

theorem lowerFrom_cons (before : List Char) (c : Char) (cs : List Char) :
    lowerFrom before (c :: cs) = lowerAt before c cs ++ lowerFrom (c :: before) cs := rfl

/-- **The first part of a text is lowered in the context of the second one.** -/
theorem lowerFrom_append (before text after : List Char) : lowerFrom before (text ++ after)
    = lowerWithin before text after ++ lowerFrom (text.reverse ++ before) after := by
  induction text generalizing before with
  | nil => rfl
  | cons c cs ih =>
    rw [List.cons_append, lowerFrom_cons, ih, lowerWithin, List.append_assoc, List.reverse_cons,
      List.append_assoc]
    rfl

theorem lowerFrom_eq (before text : List Char) :
    lowerFrom before text = lowerWithin before text [] := by
  have h := lowerFrom_append before text []
  rw [List.append_nil] at h
  exact h.trans (List.append_nil _)

theorem lower_eq (text : List Char) : lower text = lowerWithin [] text [] :=
  lowerFrom_eq [] text

/-- A text is found in lower case where it is lowered as by itself. -/
theorem infix_lower_of_eq (h : lowerWithin before.reverse text after = lower text) :
    lower text <:+: lower (before ++ text ++ after) := by
  refine ⟨lowerWithin [] before (text ++ after),
    lowerFrom (text.reverse ++ before.reverse) after, ?_⟩
  show _ = lowerFrom [] (before ++ text ++ after)
  rw [List.append_assoc before, lowerFrom_append, lowerFrom_append, List.append_nil, h,
    List.append_assoc]

theorem lowerAt_ne_nil (before : List Char) (c : Char) (after : List Char) :
    lowerAt before c after ≠ [] := by
  unfold lowerAt
  split
  · exact List.cons_ne_nil _ _
  · exact lowerChar_ne_nil c

theorem lowerAt_of_isUncased (hc : IsUncased c) (before after : List Char) :
    lowerAt before c after = [c] := by
  unfold lowerAt
  rw [if_neg, lowerChar_of_isUncased hc]
  rintro rfl
  exact not_isUncased_sigma hc

/-- The context does not decide on how many characters there are. -/
theorem length_lowerAt (before after before' after' : List Char) (c : Char) :
    (lowerAt before c after).length = (lowerAt before' c after').length := by
  unfold lowerAt
  split <;> rfl

theorem length_lowerWithin (before after before' after' text : List Char) :
    (lowerWithin before text after).length = (lowerWithin before' text after').length := by
  induction text generalizing before before' with
  | nil => rfl
  | cons c cs ih =>
    rw [lowerWithin, lowerWithin, List.length_append, List.length_append, ih (c :: before)
      (c :: before'), length_lowerAt]

/-- A text that is found where it stands in a context is lowered there as by itself. -/
theorem eq_of_infix_lowerWithin (h : lower text <:+: lowerWithin before text after) :
    lowerWithin before text after = lower text := by
  refine (h.eq_of_length ?_).symm
  rw [lower_eq]
  exact length_lowerWithin ..

theorem lowerAt_eq_iff : lowerAt before c after = lowerAt before' c after' ↔
    (c = '\u03A3' → lowerSigma before after = lowerSigma before' after') := by
  unfold lowerAt
  split
  · rename_i hsigma
    simp [hsigma]
  · rename_i hsigma
    simp [hsigma]

/-- **Only the forms of sigmas depend on the context.** -/
theorem lowerWithin_eq_iff : lowerWithin before text after = lowerWithin before' text after' ↔
    ∀ left right, text = left ++ '\u03A3' :: right →
      lowerSigma (left.reverse ++ before) (right ++ after)
        = lowerSigma (left.reverse ++ before') (right ++ after') := by
  induction text generalizing before before' with
  | nil => simp [lowerWithin]
  | cons c cs ih =>
    have happend : lowerWithin before (c :: cs) after = lowerWithin before' (c :: cs) after' ↔
        lowerAt before c (cs ++ after) = lowerAt before' c (cs ++ after') ∧
          lowerWithin (c :: before) cs after = lowerWithin (c :: before') cs after' := by
      refine ⟨fun h => List.append_inj h (length_lowerAt ..), fun ⟨hc, hcs⟩ => ?_⟩
      rw [lowerWithin, lowerWithin, hc, hcs]
    rw [happend, lowerAt_eq_iff, ih]
    constructor
    · rintro ⟨hfirst, hrest⟩ left right hsplit
      -- the sigma is the first character, or it stands further on
      rcases List.cons_eq_append_iff.mp hsplit with ⟨rfl, hcons⟩ | ⟨left', rfl, hcs⟩
      · obtain ⟨hsigma, rfl⟩ := List.cons.inj hcons
        exact hfirst hsigma.symm
      · have h := hrest left' right hcs
        simpa using h
    · refine fun h => ⟨fun hsigma => ?_, fun left right hsplit => ?_⟩
      · have hsplit : c :: cs = [] ++ '\u03A3' :: cs := by rw [hsigma, List.nil_append]
        exact h [] cs hsplit
      · have hsplit' : c :: cs = (c :: left) ++ '\u03A3' :: right := by
          rw [hsplit, List.cons_append]
        simpa using h (c :: left) right hsplit'

/-! ### What context a sigma sees -/

/-- Case context looks through all characters of a text. -/
def isSeenThrough (text : List Char) : Bool :=
  text.all fun c => caseIgnorableRanges.contains c.toNat

/-- Context beyond a text is met only if the text is looked through. -/
theorem meetsCased_append (text rest : List Char) : meetsCased (text ++ rest)
    = (meetsCased text || isSeenThrough text && meetsCased rest) := by
  induction text with
  | nil => simp [meetsCased, isSeenThrough]
  | cons c cs ih =>
    unfold meetsCased isSeenThrough at *
    cases hc : caseIgnorableRanges.contains c.toNat with
    | true => simpa [List.dropWhile_cons, hc] using ih
    | false => simp [hc]

/-- In a text that is looked through, no cased letter is met. -/
theorem meetsCased_of_isSeenThrough (h : isSeenThrough text = true) : meetsCased text = false := by
  have hnone : text.dropWhile (fun c => caseIgnorableRanges.contains c.toNat) = [] :=
    List.dropWhile_eq_nil_iff.mpr (List.all_eq_true.mp h)
  unfold meetsCased
  rw [hnone]

theorem isSeenThrough_reverse (text : List Char) :
    isSeenThrough text.reverse = isSeenThrough text :=
  List.all_reverse

/-- A capital sigma in a text takes another form in some context than in the text by itself: if
nothing before it stops the view and no cased letter comes after it, or if a cased letter comes
before it and nothing after it stops the view. -/
def HasLooseSigma (text : List Char) : Prop :=
  ∃ left right, text = left ++ '\u03A3' :: right ∧
    (isSeenThrough left = true ∧ meetsCased right = false ∨
      meetsCased left.reverse = true ∧ isSeenThrough right = true)

theorem lowerSigma_eq_iff : lowerSigma before after = lowerSigma before' after' ↔
    (meetsCased before && !meetsCased after) = (meetsCased before' && !meetsCased after') := by
  unfold lowerSigma
  cases meetsCased before && !meetsCased after <;>
    cases meetsCased before' && !meetsCased after' <;> decide

/-- **A text without loose sigmas is lowered in all contexts as by itself.** -/
theorem lowerWithin_of_not_hasLooseSigma (h : ¬HasLooseSigma text) (before after : List Char) :
    lowerWithin before text after = lower text := by
  rw [lower_eq, lowerWithin_eq_iff]
  intro left right hsplit
  rw [lowerSigma_eq_iff, meetsCased_append, meetsCased_append, List.append_nil, List.append_nil,
    isSeenThrough_reverse]
  have hfixed : ¬(isSeenThrough left = true ∧ meetsCased right = false ∨
      meetsCased left.reverse = true ∧ isSeenThrough right = true) :=
    fun hloose => h ⟨left, right, hsplit, hloose⟩
  rw [not_or, not_and, not_and, Bool.not_eq_false, Bool.not_eq_true] at hfixed
  cases hleft : isSeenThrough left with
  | true =>
    -- a cased letter comes after the sigma, and it is not final in any context
    simp [hfixed.1 hleft, meetsCased_of_isSeenThrough ((isSeenThrough_reverse left).trans hleft)]
  | false =>
    cases hmeets : meetsCased left.reverse with
    | true => simp [hfixed.2 hmeets]
    | false => simp

/-- **Where no letter adjoins a text, it is lowered as by itself.** -/
theorem lowerWithin_of_apart (hbefore : meetsCased before = false)
    (hafter : meetsCased after = false) (text : List Char) :
    lowerWithin before text after = lower text := by
  rw [lower_eq, lowerWithin_eq_iff]
  intro left right _
  rw [lowerSigma_eq_iff, meetsCased_append, meetsCased_append, hbefore, hafter, List.append_nil,
    List.append_nil]
  simp

/-! ### Texts in parts -/

/-- A caseless range none of whose characters case context counts as cased or looks through. -/
def EndsContext (r : ℕ × ℕ) : Prop :=
  IsCaseless r ∧ ∀ other ∈ caseIgnorableRanges ++ casedRanges, r.2 < other.1 ∨ other.2 < r.1

theorem endsContext_comma : EndsContext (0x2C, 0x2C) :=
  ⟨isCaseless_comma, by decide +kernel⟩

theorem endsContext_dash : EndsContext (0x2D, 0x2D) := by
  unfold EndsContext IsCaseless
  decide +kernel

theorem endsContext_blank : ∀ r ∈ blankRanges, EndsContext r := by
  have hapart : ∀ r ∈ blankRanges, ∀ other ∈ caseIgnorableRanges ++ casedRanges,
      r.2 < other.1 ∨ other.2 < r.1 := by
    decide +kernel
  exact fun r hr => ⟨isCaseless_blank r hr, hapart r hr⟩

/-- A character cuts a text for lower-casing: case context does not reach beyond it. -/
def IsCut (c : Char) : Prop :=
  ∃ r, EndsContext r ∧ r.1 ≤ c.toNat ∧ c.toNat ≤ r.2

theorem isCut_comma : IsCut ',' :=
  ⟨_, endsContext_comma, by decide, by decide⟩

theorem isCut_dash : IsCut '-' :=
  ⟨_, endsContext_dash, by decide, by decide⟩

theorem isCut_of_isBlank (h : isBlank c = true) : IsCut c := by
  obtain ⟨r, hr, hbounds⟩ := exists_range_of_contains h
  exact ⟨r, endsContext_blank r hr, hbounds⟩

theorem IsCut.isUncased (h : IsCut c) : IsUncased c := by
  obtain ⟨r, hr, hbounds⟩ := h
  exact ⟨r, hr.1, hbounds⟩

theorem IsCut.not_contains (h : IsCut c) :
    caseIgnorableRanges.contains c.toNat = false ∧ casedRanges.contains c.toNat = false := by
  obtain ⟨r, ⟨-, hapart⟩, hlo, hhi⟩ := h
  have hnot : ∀ ranges : CodeRanges, ranges ⊆ caseIgnorableRanges ++ casedRanges →
      ranges.contains c.toNat = false := by
    intro ranges hsub
    refine Bool.eq_false_iff.mpr fun hmem => ?_
    obtain ⟨other, hother, hbounds⟩ := exists_range_of_contains hmem
    have := hapart other (hsub hother)
    omega
  constructor
  · exact hnot _ (List.subset_append_left ..)
  · exact hnot _ (List.subset_append_right ..)

theorem meetsCased_of_isCut (hc : IsCut c) (rest : List Char) : meetsCased (c :: rest) = false := by
  obtain ⟨hignorable, hcased⟩ := hc.not_contains
  unfold meetsCased
  rw [List.dropWhile_cons_of_neg (by simp [hignorable])]
  exact hcased

/-- **A text is lowered in parts**, at every character that cuts it. -/
theorem lower_append_cons (hc : IsCut c) (before after : List Char) :
    lower (before ++ c :: after) = lower before ++ c :: lower after := by
  have hbefore : lowerWithin [] before (c :: after) = lower before :=
    lowerWithin_of_apart rfl (meetsCased_of_isCut hc after) before
  have hafter : lowerWithin (c :: (before.reverse ++ [])) after [] = lower after :=
    lowerWithin_of_apart (meetsCased_of_isCut hc _) rfl after
  rw [lower, lowerFrom_append, lowerFrom_cons, lowerFrom_eq, hbefore, hafter,
    lowerAt_of_isUncased hc.isUncased]
  rfl

/-! ### A letter that makes the difference -/

theorem eq_of_mem_lowerAt (hx : IsUncased x) (h : x ∈ lowerAt before c after) : x = c := by
  unfold lowerAt at h
  split at h
  · rw [List.mem_singleton.mp h] at hx
    exact absurd hx (not_isUncased_lowerSigma before after)
  · exact eq_of_mem_lowerChar hx h

theorem head?_of_head?_lower (hx : IsUncased x) (h : (lower text).head? = some x) :
    text.head? = some x := by
  cases text with
  | nil => cases h
  | cons c cs =>
    obtain ⟨d, ds, hform⟩ := List.exists_cons_of_ne_nil (lowerAt_ne_nil [] c cs)
    rw [lower, lowerFrom_cons, hform] at h
    have hmem : x ∈ lowerAt [] c cs := by
      rw [hform, ← Option.some.inj h]
      exact List.mem_cons_self ..
    rw [eq_of_mem_lowerAt hx hmem]
    rfl

theorem getLast?_of_getLast?_lower (hx : IsUncased x) (h : (lower text).getLast? = some x) :
    text.getLast? = some x := by
  rcases List.eq_nil_or_concat text with rfl | ⟨cs, c, rfl⟩
  · cases h
  · rw [List.concat_eq_append] at h ⊢
    have hform : lower (cs ++ [c]) = lowerWithin [] cs [c] ++ lowerAt (cs.reverse ++ []) c [] := by
      rw [lower, lowerFrom_append, lowerFrom_cons]
      exact congrArg _ (List.append_nil _)
    rw [hform, List.getLast?_append_of_ne_nil _ (lowerAt_ne_nil _ _ _)] at h
    rw [List.getLast?_concat, eq_of_mem_lowerAt hx (List.mem_of_getLast? h)]

/-- The small letter kra, which has no capital. -/
def kra : Char := '\u0138'

theorem isUncased_kra : IsUncased kra := by
  refine ⟨(0x138, 0x138), ?_, by decide, by decide⟩
  unfold IsCaseless
  decide +kernel

theorem meetsCased_kra (rest : List Char) : meetsCased (kra :: rest) = true := by
  have hstops : caseIgnorableRanges.contains kra.toNat = false := by decide +kernel
  have hcased : casedRanges.contains kra.toNat = true := by decide +kernel
  unfold meetsCased
  rw [List.dropWhile_cons_of_neg (by simp [hstops])]
  exact hcased

theorem kra_notMem_of_isSeenThrough (h : isSeenThrough text = true) : kra ∉ text := by
  intro hmem
  have hseen : caseIgnorableRanges.contains kra.toNat = true := List.all_eq_true.mp h kra hmem
  revert hseen
  decide +kernel

/-- Behind a kra that makes a difference a text is not found, unless it begins with a kra itself. -/
theorem not_infix_lower_cons (hfirst : text.head? ≠ some kra)
    (hform : lowerWithin [kra] text [] ≠ lower text) : ¬lower text <:+: lower (kra :: text) := by
  have hlower : lower (kra :: text) = kra :: lowerWithin [kra] text [] := by
    rw [lower, lowerFrom_cons, lowerAt_of_isUncased isUncased_kra, lowerFrom_eq]
    rfl
  rw [hlower, List.infix_cons_iff, List.prefix_cons_iff]
  -- the text would be found empty, from the kra on, or behind it
  rintro ((hnil | ⟨rest, hrest, -⟩) | hpart)
  · exact hform (eq_of_infix_lowerWithin (by rw [hnil]; exact List.nil_infix))
  · exact hfirst (head?_of_head?_lower isUncased_kra (by rw [hrest]; rfl))
  · exact hform (eq_of_infix_lowerWithin hpart)

/-- Before a kra that makes a difference a text is not found, unless it ends with a kra itself. -/
theorem not_infix_lower_concat (hlast : text.getLast? ≠ some kra)
    (hform : lowerWithin [] text [kra] ≠ lower text) : ¬lower text <:+: lower (text ++ [kra]) := by
  have hlower : lower (text ++ [kra]) = lowerWithin [] text [kra] ++ [kra] := by
    rw [lower, lowerFrom_append, lowerFrom_cons, lowerAt_of_isUncased isUncased_kra]
    rfl
  rw [hlower, List.infix_concat_iff, List.suffix_concat_iff]
  rintro ((hnil | ⟨rest, hrest, -⟩) | hpart)
  · exact hform (eq_of_infix_lowerWithin (by rw [hnil]; exact List.nil_infix))
  · exact hlast (getLast?_of_getLast?_lower isUncased_kra (by rw [hrest, List.getLast?_concat]))
  · exact hform (eq_of_infix_lowerWithin hpart)

/-- **A text with a loose sigma is not found in every text that it is part of.** -/
theorem exists_not_infix_lower (h : HasLooseSigma text) :
    ∃ other, text <:+: other ∧ ¬lower text <:+: lower other := by
  obtain ⟨left, right, rfl, ⟨hleft, hright⟩ | ⟨hleft, hright⟩⟩ := h
  · refine ⟨kra :: (left ++ '\u03A3' :: right), List.infix_cons (List.infix_refl _), ?_⟩
    refine not_infix_lower_cons (fun hfirst => ?_) fun hsame => ?_
    · cases left with
      | nil =>
        have hsigma : '\u03A3' = kra := Option.some.inj hfirst
        exact absurd hsigma (by decide)
      | cons c cs =>
        refine kra_notMem_of_isSeenThrough hleft ?_
        rw [← Option.some.inj hfirst]
        exact List.mem_cons_self ..
    · rw [lower_eq, lowerWithin_eq_iff] at hsame
      have hsigma := hsame left right rfl
      rw [lowerSigma_eq_iff, meetsCased_append, isSeenThrough_reverse, hleft, meetsCased_kra,
        List.append_nil, List.append_nil, hright,
        meetsCased_of_isSeenThrough ((isSeenThrough_reverse left).trans hleft)] at hsigma
      exact absurd hsigma (by decide)
  · refine ⟨left ++ '\u03A3' :: right ++ [kra], List.infix_append' [] _ [kra], ?_⟩
    refine not_infix_lower_concat (fun hlast => ?_) fun hsame => ?_
    · rcases List.eq_nil_or_concat right with rfl | ⟨cs, c, rfl⟩
      · rw [List.getLast?_concat] at hlast
        exact absurd hlast (by decide)
      · rw [List.concat_eq_append, ← List.cons_append, ← List.append_assoc,
          List.getLast?_concat] at hlast
        refine kra_notMem_of_isSeenThrough hright ?_
        rw [← Option.some.inj hlast, List.concat_eq_append]
        exact List.mem_concat_self
    · rw [lower_eq, lowerWithin_eq_iff] at hsame
      have hsigma := hsame left right rfl
      rw [lowerSigma_eq_iff, meetsCased_append, meetsCased_append, hright, meetsCased_kra,
        List.append_nil, hleft, meetsCased_of_isSeenThrough hright] at hsigma
      simp at hsigma

/-- **A text is found in lower case in all texts that it is part of, exactly if it has no loose
sigma.** -/
theorem lower_infix_iff :
    (∀ other, text <:+: other → lower text <:+: lower other) ↔ ¬HasLooseSigma text := by
  constructor
  · intro hfound hloose
    obtain ⟨other, hpart, hnot⟩ := exists_not_infix_lower hloose
    exact hnot (hfound other hpart)
  · rintro hfixed _ ⟨before, after, rfl⟩
    exact infix_lower_of_eq (lowerWithin_of_not_hasLooseSigma hfixed _ _)

end Agenda.Text

import Agenda.Proofs.Language.IdList
import Agenda.Proofs.Text.CaseContext

/-!
# Where an id list is cut

A comma or a blank cuts a list into two lists whose tokens are those of the whole
(`tokens_append_cons`), unless it is a blank beside a dash: such a blank is dropped, and the dash
joins what is on its two sides. A comma beside a dash does cut, but it leaves a token that begins or
ends with the dash (`exists_dash_token`). Tokens that have commas put between them are the tokens of
what they make up (`tokens_intercalate`).
-/

namespace Agenda.IdList

open Text

variable {c : Char} {before after text : List Char}

/-- A sign that can stand between tokens. -/
def IsSeparator (c : Char) : Prop :=
  c = ',' ∨ isBlank c = true

/-- Nothing but blanks lies between a dash and the place between two texts. -/
def BesideDash (before after : List Char) : Prop :=
  (trimRight before).getLast? = some '-' ∨ (trimLeft after).head? = some '-'

/-! ### Before dashes -/

theorem dropBeforeDashes_cons (c : Char) (text : List Char) : dropBeforeDashes (c :: text) =
    if isBlank c && (dropBeforeDashes text).head? == some '-' then dropBeforeDashes text
    else c :: dropBeforeDashes text := rfl

/-- Blanks are dropped from the beginning of a text just if a dash comes after them. -/
theorem head?_dropBeforeDashes (text : List Char) :
    (dropBeforeDashes text).head? = some '-' ↔ (trimLeft text).head? = some '-' := by
  induction text with
  | nil => exact Iff.rfl
  | cons c cs ih =>
    rw [dropBeforeDashes_cons]
    cases hc : isBlank c with
    | true =>
      rw [trimLeft_cons_of_blank hc, ← ih, Bool.true_and]
      split
      · exact Iff.rfl
      · rename_i hhead
        rw [beq_iff_eq] at hhead
        have hdash : c ≠ '-' := by
          rintro rfl
          cases hc
        simp [hdash, hhead]
    | false =>
      rw [Bool.false_and, if_neg Bool.false_ne_true, trimLeft_cons_of_not_blank hc, List.head?_cons,
        List.head?_cons]

theorem dropBeforeDashes_append (h : (trimLeft after).head? ≠ some '-') (before : List Char) :
    dropBeforeDashes (before ++ after) = dropBeforeDashes before ++ dropBeforeDashes after := by
  induction before with
  | nil => rfl
  | cons c cs ih =>
    have hhead : ((dropBeforeDashes cs ++ dropBeforeDashes after).head? == some '-')
        = ((dropBeforeDashes cs).head? == some '-') := by
      cases dropBeforeDashes cs with
      | nil => simpa using mt (head?_dropBeforeDashes after).mp h
      | cons d ds => rfl
    rw [List.cons_append, dropBeforeDashes_cons, dropBeforeDashes_cons, ih, hhead]
    split
    · rfl
    · rfl

theorem exists_dropBeforeDashes_concat (text : List Char) :
    ∃ rest, dropBeforeDashes (text ++ ['-']) = rest ++ ['-'] := by
  induction text with
  | nil => exact ⟨[], rfl⟩
  | cons c cs ih =>
    obtain ⟨rest, hrest⟩ := ih
    rw [List.cons_append, dropBeforeDashes_cons, hrest]
    split
    · exact ⟨rest, rfl⟩
    · exact ⟨c :: rest, rfl⟩

/-! ### After dashes -/

/-- Whether only blanks lie between the end of a text and a dash before it. `afterDash` says so of
its beginning. -/
def endsAfterDash (afterDash : Bool) (text : List Char) : Bool :=
  text.foldl (fun afterDash c => isBlank c && afterDash || c == '-') afterDash

theorem dropAfterDashes_append (afterDash : Bool) (before after : List Char) :
    dropAfterDashes afterDash (before ++ after) = dropAfterDashes afterDash before
      ++ dropAfterDashes (endsAfterDash afterDash before) after := by
  induction before generalizing afterDash with
  | nil => rfl
  | cons c cs ih =>
    have hstate : endsAfterDash afterDash (c :: cs)
        = endsAfterDash (isBlank c && afterDash || c == '-') cs := rfl
    rw [List.cons_append, dropAfterDashes, dropAfterDashes, hstate]
    split
    · rename_i hdrop
      rw [hdrop, Bool.true_or, ih]
    · rename_i hkeep
      rw [Bool.eq_false_iff.mpr hkeep, Bool.false_or, ih, List.cons_append]
      rfl

/-- The blanks that are dropped before dashes are not what comes after one. -/
theorem endsAfterDash_dropBeforeDashes (afterDash : Bool) (text : List Char) :
    endsAfterDash afterDash (dropBeforeDashes text) = endsAfterDash afterDash text := by
  induction text generalizing afterDash with
  | nil => rfl
  | cons c cs ih =>
    have hcons : ∀ rest, endsAfterDash afterDash (c :: rest)
        = endsAfterDash (isBlank c && afterDash || c == '-') rest := fun _ => rfl
    rw [dropBeforeDashes_cons]
    split
    · rename_i hdrop
      obtain ⟨rest, hrest⟩ :=
        List.head?_eq_some_iff.mp (beq_iff_eq.mp (Bool.and_eq_true_iff.mp hdrop).2)
      -- from the dash on it does not matter what was before
      rw [hcons, ← ih, hrest]
      simp [endsAfterDash]
    · rw [hcons, hcons, ih]

theorem endsAfterDash_iff (text : List Char) :
    endsAfterDash false text = true ↔ (trimRight text).getLast? = some '-' := by
  -- the end of the text decides, so the induction is from there
  induction text using List.reverseRecOn with
  | nil => simp [endsAfterDash, trimRight]
  | append_singleton cs c ih =>
    have hconcat : endsAfterDash false (cs ++ [c])
        = (isBlank c && endsAfterDash false cs || c == '-') := by
      rw [endsAfterDash, List.foldl_append]
      rfl
    rw [hconcat]
    cases hc : isBlank c with
    | true =>
      have hdash : c ≠ '-' := by
        rintro rfl
        cases hc
      rw [trimRight_concat_of_blank hc, ← ih]
      simp [hdash]
    | false =>
      rw [trimRight_concat_of_not_blank hc, List.getLast?_concat]
      simp

/-! ### Tokens -/

/-- A sign cuts a text from which the blanks around dashes are dropped, unless it is one of them. -/
theorem tightenDashes_append_cons (hc : IsSeparator c) (h : c = ',' ∨ ¬BesideDash before after) :
    tightenDashes (before ++ c :: after) = tightenDashes before ++ c :: tightenDashes after := by
  have hdash : c ≠ '-' := by
    rintro rfl
    revert hc
    unfold IsSeparator
    decide
  -- no blank of the first text comes before a dash of the second one
  have hhead : (trimLeft (c :: after)).head? ≠ some '-' := by
    cases hblank : isBlank c with
    | true =>
      rcases h with rfl | h
      · cases hblank
      · rw [trimLeft_cons_of_blank hblank]
        exact fun hafter => h (Or.inr hafter)
    | false =>
      rw [trimLeft_cons_of_not_blank hblank]
      simpa using hdash
  -- the sign itself is dropped neither before a dash
  have hkept : (isBlank c && (dropBeforeDashes after).head? == some '-') = false := by
    rcases h with rfl | h
    · rfl
    · have hafter : ¬(dropBeforeDashes after).head? = some '-' := fun hafter =>
        h (Or.inr ((head?_dropBeforeDashes after).mp hafter))
      rw [beq_eq_false_iff_ne.mpr hafter, Bool.and_false]
  -- nor behind one
  have hkept' : (isBlank c && endsAfterDash false before) = false := by
    rcases h with rfl | h
    · rfl
    · have hbefore : ¬endsAfterDash false before = true := fun hbefore =>
        h (Or.inl ((endsAfterDash_iff before).mp hbefore))
      rw [Bool.eq_false_iff.mpr hbefore, Bool.and_false]
  unfold tightenDashes
  rw [dropBeforeDashes_append hhead, dropBeforeDashes_cons, hkept, if_neg Bool.false_ne_true,
    dropAfterDashes_append, endsAfterDash_dropBeforeDashes, dropAfterDashes, hkept',
    if_neg Bool.false_ne_true, decide_eq_false hdash]

/-- Whether a sign can stand between tokens. -/
def separates (c : Char) : Bool :=
  c == ',' || isBlank c

/-- The tokens of a text that can have blanks at its ends. -/
def cut (text : List Char) : List (List Char) :=
  pieces separates (lower (tightenDashes text))

theorem IsSeparator.separates (h : IsSeparator c) : separates c = true := by
  rcases h with rfl | h
  · rfl
  · rw [IdList.separates, h, Bool.or_true]

theorem IsSeparator.isCut (h : IsSeparator c) : IsCut c := by
  rcases h with rfl | h
  · exact isCut_comma
  · exact isCut_of_isBlank h

theorem cut_append_cons (hc : IsSeparator c) (h : c = ',' ∨ ¬BesideDash before after) :
    cut (before ++ c :: after) = cut before ++ cut after := by
  unfold cut
  rw [tightenDashes_append_cons hc h, lower_append_cons hc.isCut, pieces_append_cons hc.separates]

/-- A blank at the beginning of a text is dropped, or it stands before all tokens. -/
theorem cut_cons_of_isBlank (hc : isBlank c = true) (text : List Char) :
    cut (c :: text) = cut text := by
  by_cases hdash : (trimLeft text).head? = some '-'
  · have hsame : tightenDashes (c :: text) = tightenDashes text := by
      unfold tightenDashes
      rw [dropBeforeDashes_cons, hc, (head?_dropBeforeDashes text).mpr hdash]
      rfl
    unfold cut
    rw [hsame]
  · have hbeside : ¬BesideDash [] text := by
      rintro (hnil | hhead)
      · cases hnil
      · exact hdash hhead
    exact cut_append_cons (Or.inr hc) (Or.inr hbeside)

/-- A blank at the end of a text is dropped, or it stands behind all tokens. -/
theorem cut_concat_of_isBlank (hc : isBlank c = true) (text : List Char) :
    cut (text ++ [c]) = cut text := by
  by_cases hdash : (trimRight text).getLast? = some '-'
  · have hhead : (trimLeft [c]).head? ≠ some '-' := by
      rw [trimLeft_cons_of_blank hc]
      exact (Option.some_ne_none _).symm
    have hlast : dropAfterDashes true (dropBeforeDashes [c]) = [] := by
      simp [dropBeforeDashes, dropAfterDashes, hc]
    have hsame : tightenDashes (text ++ [c]) = tightenDashes text := by
      unfold tightenDashes
      rw [dropBeforeDashes_append hhead, dropAfterDashes_append, endsAfterDash_dropBeforeDashes,
        (endsAfterDash_iff text).mpr hdash, hlast, List.append_nil]
    unfold cut
    rw [hsame]
  · have hbeside : ¬BesideDash text [] := by
      rintro (hlast | hnil)
      · exact hdash hlast
      · cases hnil
    rw [cut_append_cons (Or.inr hc) (Or.inr hbeside)]
    exact List.append_nil _

theorem cut_trimLeft (text : List Char) : cut (trimLeft text) = cut text :=
  apply_trimLeft (fun _ text hc => cut_cons_of_isBlank hc text) text

theorem cut_trimRight (text : List Char) : cut (trimRight text) = cut text :=
  apply_trimRight (fun text _ hc => cut_concat_of_isBlank hc text) text

/-- The blanks at the ends of a list are no part of a token. -/
theorem tokens_eq_cut (s : String) : tokens s = cut s.toList := by
  rw [← cut_trimLeft, ← cut_trimRight]
  rfl

/-- **A list is cut at its commas, and at the blanks that are not beside a dash.** -/
theorem tokens_append_cons (hc : IsSeparator c) (h : c = ',' ∨ ¬BesideDash before after) :
    tokens (String.ofList (before ++ c :: after))
      = tokens (String.ofList before) ++ tokens (String.ofList after) := by
  simp only [tokens_eq_cut, String.toList_ofList]
  exact cut_append_cons hc h

/-- **A comma beside a dash** leaves a token that ends with the dash or begins with it. -/
theorem exists_dash_token (h : BesideDash before after) :
    ∃ token ∈ tokens (String.ofList (before ++ ',' :: after)),
      token.head? = some '-' ∨ token.getLast? = some '-' := by
  have hdash : separates '-' = false := by decide
  rw [tokens_append_cons (Or.inl rfl) (Or.inl rfl), tokens_eq_cut, tokens_eq_cut,
    String.toList_ofList, String.toList_ofList]
  rcases h with h | h
  · obtain ⟨text, htext⟩ := List.getLast?_eq_some_iff.mp h
    obtain ⟨rest, hrest⟩ := exists_dropBeforeDashes_concat text
    have hcut : cut before = pieces separates (lower (dropAfterDashes false rest) ++ ['-']) := by
      have hlast : ∀ afterDash, dropAfterDashes afterDash ['-'] = ['-'] := by decide
      rw [← cut_trimRight, htext, cut, tightenDashes, hrest, dropAfterDashes_append, hlast,
        lower_append_cons isCut_dash]
      rfl
    obtain ⟨token, htoken, hlast⟩ := exists_last_piece hdash (lower (dropAfterDashes false rest))
    exact ⟨token, List.mem_append_left _ (hcut ▸ htoken), Or.inr hlast⟩
  · obtain ⟨text, htext⟩ := List.head?_eq_some_iff.mp h
    have hcut : cut after = pieces separates
        ('-' :: lower (dropAfterDashes true (dropBeforeDashes text))) := by
      have hfirst : tightenDashes ('-' :: text)
          = '-' :: dropAfterDashes true (dropBeforeDashes text) := rfl
      rw [← cut_trimLeft, htext, cut, hfirst]
      exact congrArg _ (lower_append_cons isCut_dash [] _)
    obtain ⟨token, htoken, hhead⟩ := exists_first_piece hdash _
    exact ⟨token, List.mem_append_right _ (hcut ▸ htoken), Or.inl hhead⟩

/-! ### Lists put together from tokens -/

/-- A character can stand in a token as it is: it is an ASCII character, but no capital letter, and
it does not separate. -/
def IsTokenChar (c : Char) : Prop :=
  c.toNat < 128 ∧ c.toLower = c ∧ separates c = false

instance (c : Char) : Decidable (IsTokenChar c) :=
  inferInstanceAs (Decidable (_ ∧ _))

theorem isTokenChar_of_isDigit (h : c.isDigit = true) : IsTokenChar c := by
  have hall : ∀ c : Char, 48 ≤ c.toNat → c.toNat < 58 → IsTokenChar c :=
    forall_of_codes (by decide +kernel)
  obtain ⟨hlow, hhigh⟩ := Char.isDigit_iff_toNat.mp h
  exact hall c hlow (Nat.lt_succ_of_le hhigh)

/-- A text can be a token of a list. -/
structure IsToken (token : List Char) : Prop where
  ne_nil : token ≠ []
  isTokenChar : ∀ c ∈ token, IsTokenChar c

theorem isToken_iff {token : List Char} :
    IsToken token ↔ token ≠ [] ∧ token.all (fun c => IsTokenChar c) = true := by
  simp only [List.all_eq_true, decide_eq_true_eq]
  exact ⟨fun h => ⟨h.ne_nil, h.isTokenChar⟩, fun h => ⟨h.1, h.2⟩⟩

instance (token : List Char) : Decidable (IsToken token) :=
  decidable_of_iff' _ isToken_iff

theorem tokens_of_isToken {token : List Char} (h : IsToken token) :
    tokens (String.ofList token) = [token] := by
  have hseparates : ∀ c ∈ token, separates c = false := fun c hc => (h.isTokenChar c hc).2.2
  have hblank : ∀ c ∈ token, isBlank c = false := by
    intro c hc
    have := hseparates c hc
    simp only [separates, Bool.or_eq_false_iff] at this
    exact this.2
  have hlower : lower token = token := by
    rw [lower_of_isPlain fun c hc => Or.inl (h.isTokenChar c hc).1,
      List.map_congr_left fun c hc => (h.isTokenChar c hc).2.1]
    exact List.map_id token
  rw [tokens_eq_cut, String.toList_ofList, cut, tightenDashes,
    dropBeforeDashes_of_not_blank hblank, dropAfterDashes_of_not_blank hblank, hlower, pieces,
    fields_of_not_mem hseparates]
  exact List.filter_cons_of_pos (by simpa using h.ne_nil)

/-- **A list is put together from any tokens**, with a comma between each two. -/
theorem tokens_intercalate {ts : List (List Char)} (h : ∀ token ∈ ts, IsToken token) :
    tokens (String.ofList ([','].intercalate ts)) = ts := by
  induction ts with
  | nil => decide +kernel
  | cons token rest ih =>
    obtain ⟨htoken, hrest⟩ := List.forall_mem_cons.mp h
    cases rest with
    | nil =>
      rw [List.intercalate_singleton]
      exact tokens_of_isToken htoken
    | cons next rest =>
      have hcut : [','].intercalate (token :: next :: rest)
          = token ++ ',' :: [','].intercalate (next :: rest) := by
        rw [List.intercalate_cons_cons, List.append_assoc]
        rfl
      rw [hcut, tokens_append_cons (Or.inl rfl) (Or.inl rfl), tokens_of_isToken htoken, ih hrest]
      rfl

end Agenda.IdList

import Agenda.Proofs.Language.IdTokens
import Mathlib.Data.List.Sort

/-!
# The sets of ids that lists denote

A token denotes an interval of ids, or there is a reason for which it denotes none. `Names` and
`Refused` say so without looking at how tokens are read. They are read accordingly: each constructor
is computed by itself (`range_of_names`, `range_of_refused`), and one of them always applies
(`names_or_refused`). A list denotes the union of what its tokens denote, and it is refused for the
first token that denotes nothing (`resolve_denotes`). So neither the order of the tokens matters nor
how often they stand there, nor which signs are between them.
-/

namespace Agenda

/-- What ids refer to is a list that fits the machine and a task of this list. -/
structure IdScope.IsValid (context : IdScope) : Prop where
  total_lt : context.total < UInt64.size
  last_lt : ∀ position ∈ context.last, position < context.total

namespace IdList

open Text

variable {context : IdScope} {s : String} {ids : List ℕ} {token first last : List Char}
  {words : List (List Char)} {cause : Refusal} {id i j : ℕ}

/-! ### What tokens denote -/

/-- The token is a word for all tasks. -/
abbrev IsEvery (token : List Char) : Prop :=
  token = "all".toList ∨ token = "everything".toList

/-- **The id that a single token names.** -/
inductive NamesOne (context : IdScope) : List Char → ℕ → Prop
  | decimal {token : List Char} {id : ℕ} (hid : IsDecimal id token) (hpos : 1 ≤ id)
      (htotal : id ≤ context.total) : NamesOne context token id
  | last {position : ℕ} (hlast : context.last = some position) :
      NamesOne context "last".toList (position + 1)
  | max (htotal : 0 < context.total) : NamesOne context "max".toList context.total

/-- **The first and the last id that a token names.** -/
inductive Names (context : IdScope) : List Char → ℕ → ℕ → Prop
  | every {token : List Char} (htoken : IsEvery token) (htotal : 0 < context.total) :
      Names context token 1 context.total
  | one {token : List Char} {id : ℕ} (hid : NamesOne context token id) : Names context token id id
  | range {first last : List Char} {i j : ℕ} (hfirst : NamesOne context first i)
      (hlast : NamesOne context last j) (hle : i ≤ j) : Names context (first ++ '-' :: last) i j

/-- A token names some ids. -/
def Denotes (context : IdScope) (token : List Char) : Prop :=
  ∃ i j, Names context token i j

/-- An id is among those that a token names. -/
def Covers (context : IdScope) (token : List Char) (id : ℕ) : Prop :=
  ∃ i j, Names context token i j ∧ i ≤ id ∧ id ≤ j

/-! ### Why tokens are refused -/

/-- The text can stand on a side of a dash: it is not empty and has no dash in it. -/
structure IsSide (side : List Char) : Prop where
  ne_nil : side ≠ []
  dash_notMem : '-' ∉ side

/-- **Why a single token names no id.** -/
inductive RefusedOne (context : IdScope) : List Char → Refusal → Prop
  | nothingAdded (hlast : context.last = none) : RefusedOne context "last".toList .nothingAdded
  | emptyList (htotal : context.total = 0) : RefusedOne context "max".toList .emptyList
  | malformed {token : List Char} (hlast : token ≠ "last".toList) (hmax : token ≠ "max".toList)
      (hid : ∀ id < UInt64.size, ¬IsDecimal id token) :
      RefusedOne context token (.malformedId (String.ofList token))
  | unknown {token : List Char} {id : ℕ} (hid : IsDecimal id token) (hword : id < UInt64.size)
      (hnone : id = 0 ∨ context.total < id) :
      RefusedOne context token (.unknownId id context.total)

/-- **Why a token names no ids.** A dash makes it a range, whose first id is looked at first. -/
inductive Refused (context : IdScope) : List Char → Refusal → Prop
  | emptyList {token : List Char} (htoken : IsEvery token) (htotal : context.total = 0) :
      Refused context token .emptyList
  | one {token : List Char} {cause : Refusal} (htoken : ¬IsEvery token) (hdash : '-' ∉ token)
      (hcause : RefusedOne context token cause) : Refused context token cause
  | malformed {first last : List Char} (hfirst : '-' ∉ first)
      (hsides : first = [] ∨ last = [] ∨ '-' ∈ last) :
      Refused context (first ++ '-' :: last)
        (.malformedRange (String.ofList (first ++ '-' :: last)))
  | first {first last : List Char} {cause : Refusal} (hfirst : IsSide first) (hlast : IsSide last)
      (hcause : RefusedOne context first cause) : Refused context (first ++ '-' :: last) cause
  | last {first last : List Char} {i : ℕ} {cause : Refusal} (hfirst : NamesOne context first i)
      (hlast : IsSide last) (hcause : RefusedOne context last cause) :
      Refused context (first ++ '-' :: last) cause
  | descending {first last : List Char} {i j : ℕ} (hfirst : NamesOne context first i)
      (hlast : NamesOne context last j) (hlt : j < i) :
      Refused context (first ++ '-' :: last) (.descendingRange i j)

/-- **Why a list is refused**: for the first token that names no ids. -/
def FirstRefused (context : IdScope) (words : List (List Char)) (cause : Refusal) : Prop :=
  ∃ before token after, words = before ++ token :: after ∧
    (∀ w ∈ before, Denotes context w) ∧ ¬Denotes context token ∧ Refused context token cause

/-- An outcome is described by what makes it a value and by what makes it an error, if one of them
is the case. -/
theorem outcome_iff {α ε : Type} {x : Except ε α} {P : α → Prop} {Q : ε → Prop}
    (hok : ∀ a, P a → x = .ok a) (herror : ∀ e, Q e → x = .error e)
    (hcases : (∃ a, P a) ∨ ∃ e, Q e) : (∀ a, x = .ok a ↔ P a) ∧ ∀ e, x = .error e ↔ Q e := by
  rcases hcases with ⟨a, ha⟩ | ⟨e, he⟩
  · obtain rfl := hok a ha
    constructor
    · intro b
      refine ⟨fun h => ?_, hok b⟩
      rwa [← Except.ok.inj h]
    · intro e
      refine ⟨fun h => ?_, herror e⟩
      cases h
  · obtain rfl := herror e he
    constructor
    · intro a
      refine ⟨fun h => ?_, hok a⟩
      cases h
    · intro e'
      refine ⟨fun h => ?_, herror e'⟩
      rwa [← Except.error.inj h]

/-! ### Single ids -/

/-- A numeral is no word. -/
theorem ne_toList_of_isDecimal {word : String} (h : IsDecimal id token)
    (hword : word.toList.all (fun c => c.isDigit || c == '+') = false) :
    token ≠ word.toList := by
  rintro rfl
  have hall : word.toList.all (fun c => c.isDigit || c == '+') = true := by
    refine List.all_eq_true.mpr fun c hc => ?_
    rw [Bool.or_eq_true, beq_iff_eq]
    exact h.isDigit_or_plus hc
  rw [hword] at hall
  cases hall

theorem number_of_isDecimal (h : IsDecimal id token) (hword : id < UInt64.size) :
    number context token = .ok id := by
  unfold number
  rw [if_neg (ne_toList_of_isDecimal h (by decide)), if_neg (ne_toList_of_isDecimal h (by decide)),
    readWord?_eq_some_iff.mpr ⟨h, hword⟩]

theorem NamesOne.bounds (hcontext : context.IsValid) (h : NamesOne context token id) :
    1 ≤ id ∧ id ≤ context.total := by
  cases h with
  | decimal hid hpos htotal => exact ⟨hpos, htotal⟩
  | last hlast =>
    have := hcontext.last_lt _ hlast
    omega
  | max htotal => exact ⟨htotal, Nat.le_refl _⟩

theorem NamesOne.isSide (h : NamesOne context token id) : IsSide token := by
  cases h with
  | decimal hid _ _ =>
    refine ⟨hid.ne_nil, fun hdash => ?_⟩
    rcases hid.isDigit_or_plus hdash with h | h
    · cases h
    · revert h
      decide
  | last _ => exact ⟨by decide, by decide⟩
  | max _ => exact ⟨by decide, by decide⟩

theorem NamesOne.not_isEvery (h : NamesOne context token id) : ¬IsEvery token := by
  cases h with
  | decimal hid _ _ =>
    rintro (hall | heverything)
    · exact ne_toList_of_isDecimal hid (by decide) hall
    · exact ne_toList_of_isDecimal hid (by decide) heverything
  | last _ => decide
  | max _ => decide

theorem single_of_namesOne (hcontext : context.IsValid) (h : NamesOne context token id) :
    single context token = .ok id := by
  have hbounds := h.bounds hcontext
  have hnumber : number context token = .ok id := by
    cases h with
    | decimal hid _ _ =>
      exact number_of_isDecimal hid (Nat.lt_of_le_of_lt hbounds.2 hcontext.total_lt)
    | last hlast =>
      unfold number
      rw [if_pos rfl, hlast]
    | max htotal =>
      unfold number
      rw [if_neg (by decide), if_pos rfl, if_neg (by omega)]
  unfold single
  rw [hnumber]
  exact if_neg (by omega)

theorem single_of_refusedOne (h : RefusedOne context token cause) :
    single context token = .error cause := by
  unfold single
  cases h with
  | nothingAdded hlast =>
    unfold number
    rw [if_pos rfl, hlast]
  | emptyList htotal =>
    unfold number
    rw [if_neg (by decide), if_pos rfl, if_pos htotal]
  | malformed hlast hmax hid =>
    have hread : readWord? token = none := by
      refine Option.eq_none_iff_forall_ne_some.mpr fun id h => ?_
      obtain ⟨hdecimal, hword⟩ := readWord?_eq_some_iff.mp h
      exact hid id hword hdecimal
    unfold number
    rw [if_neg hlast, if_neg hmax, hread]
  | unknown hid hword hnone =>
    rw [number_of_isDecimal hid hword]
    exact if_pos hnone

theorem namesOne_or_refusedOne (context : IdScope) (token : List Char) :
    (∃ id, NamesOne context token id) ∨ ∃ cause, RefusedOne context token cause := by
  by_cases hlast : token = "last".toList
  · subst hlast
    cases hadded : context.last with
    | none => exact Or.inr ⟨_, .nothingAdded hadded⟩
    | some position => exact Or.inl ⟨_, .last hadded⟩
  by_cases hmax : token = "max".toList
  · subst hmax
    rcases Nat.eq_zero_or_pos context.total with htotal | htotal
    · exact Or.inr ⟨_, .emptyList htotal⟩
    · exact Or.inl ⟨_, .max htotal⟩
  -- neither keyword: a numeral within a machine word or not, and then a number of a task or not
  by_cases hid : ∃ id < UInt64.size, IsDecimal id token
  · obtain ⟨id, hword, hid⟩ := hid
    by_cases hnone : id = 0 ∨ context.total < id
    · exact Or.inr ⟨_, .unknown hid hword hnone⟩
    · exact Or.inl ⟨id, .decimal hid (by omega) (by omega)⟩
  · refine Or.inr ⟨_, .malformed hlast hmax fun id hword hdecimal => ?_⟩
    exact hid ⟨id, hword, hdecimal⟩

/-! ### Ranges -/

theorem range_of_isEvery (h : IsEvery token) : range context token =
    if context.total = 0 then .error .emptyList else .ok (1, context.total) :=
  if_pos h

theorem range_of_dash_notMem (htoken : ¬IsEvery token) (hdash : '-' ∉ token) :
    range context token = (single context token).map fun id => (id, id) := by
  unfold range
  rw [if_neg htoken, fields_beq_of_notMem hdash]

/-- A word for all tasks has no dash in it. -/
theorem not_isEvery_of_dash (first last : List Char) : ¬IsEvery (first ++ '-' :: last) := by
  have hdash : '-' ∈ first ++ '-' :: last :=
    List.mem_append_right _ (List.mem_cons_self ..)
  rintro (h | h)
  · rw [h] at hdash
    revert hdash
    decide
  · rw [h] at hdash
    revert hdash
    decide

theorem range_of_isSide (hfirst : IsSide first) (hlast : IsSide last) :
    range context (first ++ '-' :: last) =
      (single context first).bind fun i => (single context last).bind fun j =>
        if j < i then .error (.descendingRange i j) else .ok (i, j) := by
  unfold range
  rw [if_neg (not_isEvery_of_dash first last), fields_beq_append_cons,
    fields_beq_of_notMem hfirst.dash_notMem, fields_beq_of_notMem hlast.dash_notMem]
  dsimp only [List.singleton_append]
  rw [List.isEmpty_eq_false_iff.mpr hfirst.ne_nil, List.isEmpty_eq_false_iff.mpr hlast.ne_nil,
    Bool.or_false, if_neg Bool.false_ne_true]
  cases single context first with
  | error cause => rfl
  | ok i => cases single context last with
    | error cause => rfl
    | ok j => rfl

theorem range_of_not_isSide (hfirst : '-' ∉ first) (h : first = [] ∨ last = [] ∨ '-' ∈ last) :
    range context (first ++ '-' :: last)
      = .error (.malformedRange (String.ofList (first ++ '-' :: last))) := by
  unfold range
  rw [if_neg (not_isEvery_of_dash first last), fields_beq_append_cons, fields_beq_of_notMem hfirst]
  by_cases hdash : '-' ∈ last
  -- two dashes cut the token into more than two parts
  · obtain ⟨second, third, rfl, hsecond⟩ := List.eq_append_cons_of_mem hdash
    obtain ⟨field, rest, hfields⟩ := List.exists_cons_of_ne_nil (fields_ne_nil (· == '-') third)
    rw [fields_beq_append_cons, fields_beq_of_notMem hsecond, hfields]
    rfl
  · rw [fields_beq_of_notMem hdash]
    have hempty : (first.isEmpty || last.isEmpty) = true := by
      rcases h with rfl | rfl | h
      · rfl
      · exact Bool.or_true _
      · exact absurd h hdash
    exact if_pos hempty

theorem range_of_names (hcontext : context.IsValid) (h : Names context token i j) :
    range context token = .ok (i, j) := by
  cases h with
  | every htoken htotal => rw [range_of_isEvery htoken, if_neg (by omega)]
  | one hid =>
    rw [range_of_dash_notMem hid.not_isEvery hid.isSide.dash_notMem,
      single_of_namesOne hcontext hid]
    rfl
  | range hfirst hlast hle =>
    rw [range_of_isSide hfirst.isSide hlast.isSide, single_of_namesOne hcontext hfirst,
      single_of_namesOne hcontext hlast]
    exact if_neg (Nat.not_lt.mpr hle)

theorem range_of_refused (hcontext : context.IsValid) (h : Refused context token cause) :
    range context token = .error cause := by
  cases h with
  | emptyList htoken htotal => rw [range_of_isEvery htoken, if_pos htotal]
  | one htoken hdash hcause =>
    rw [range_of_dash_notMem htoken hdash, single_of_refusedOne hcause]
    rfl
  | malformed hfirst hsides => exact range_of_not_isSide hfirst hsides
  | first hfirst hlast hcause =>
    rw [range_of_isSide hfirst hlast, single_of_refusedOne hcause]
    rfl
  | last hfirst hlast hcause =>
    rw [range_of_isSide hfirst.isSide hlast, single_of_namesOne hcontext hfirst,
      single_of_refusedOne hcause]
    rfl
  | descending hfirst hlast hlt =>
    rw [range_of_isSide hfirst.isSide hlast.isSide, single_of_namesOne hcontext hfirst,
      single_of_namesOne hcontext hlast]
    exact if_pos hlt

theorem names_or_refused (context : IdScope) (token : List Char) :
    Denotes context token ∨ ∃ cause, Refused context token cause := by
  by_cases htoken : IsEvery token
  · rcases Nat.eq_zero_or_pos context.total with htotal | htotal
    · exact Or.inr ⟨_, .emptyList htoken htotal⟩
    · exact Or.inl ⟨_, _, .every htoken htotal⟩
  by_cases hdash : '-' ∈ token
  · obtain ⟨first, last, rfl, hfirst⟩ := List.eq_append_cons_of_mem hdash
    by_cases hsides : first = [] ∨ last = [] ∨ '-' ∈ last
    · exact Or.inr ⟨_, .malformed hfirst hsides⟩
    simp only [not_or] at hsides
    have hside : IsSide first := ⟨hsides.1, hfirst⟩
    have hside' : IsSide last := ⟨hsides.2.1, hsides.2.2⟩
    rcases namesOne_or_refusedOne context first with ⟨i, hi⟩ | ⟨cause, hcause⟩
    · rcases namesOne_or_refusedOne context last with ⟨j, hj⟩ | ⟨cause, hcause⟩
      · rcases Nat.lt_or_ge j i with hlt | hle
        · exact Or.inr ⟨_, .descending hi hj hlt⟩
        · exact Or.inl ⟨i, j, .range hi hj hle⟩
      · exact Or.inr ⟨cause, .last hi hside' hcause⟩
    · exact Or.inr ⟨cause, .first hside hside' hcause⟩
  · rcases namesOne_or_refusedOne context token with ⟨id, hid⟩ | ⟨cause, hcause⟩
    · exact Or.inl ⟨id, id, .one hid⟩
    · exact Or.inr ⟨cause, .one htoken hdash hcause⟩

theorem Names.unique (hcontext : context.IsValid) {i' j' : ℕ} (h : Names context token i j)
    (h' : Names context token i' j') : i' = i ∧ j' = j := by
  have hrange := range_of_names hcontext h'
  rw [range_of_names hcontext h] at hrange
  cases hrange
  exact ⟨rfl, rfl⟩

theorem Refused.not_denotes (hcontext : context.IsValid) (h : Refused context token cause) :
    ¬Denotes context token := by
  rintro ⟨i, j, hnames⟩
  have hrange := range_of_names hcontext hnames
  rw [range_of_refused hcontext h] at hrange
  cases hrange

theorem NamesOne.isToken (h : NamesOne context token id) : IsToken token := by
  cases h with
  | decimal hid _ _ =>
    refine ⟨hid.ne_nil, fun c hc => ?_⟩
    rcases hid.isDigit_or_plus hc with hdigit | rfl
    · exact isTokenChar_of_isDigit hdigit
    · decide
  | last _ => decide
  | max _ => decide

/-- Whatever denotes ids can be a token of a list. -/
theorem Denotes.isToken (h : Denotes context token) : IsToken token := by
  obtain ⟨i, j, hnames⟩ := h
  cases hnames with
  | every htoken _ =>
    rcases htoken with rfl | rfl
    · decide
    · decide
  | one hid => exact hid.isToken
  | range hfirst hlast _ =>
    refine ⟨List.append_ne_nil_of_left_ne_nil hfirst.isToken.ne_nil _, fun c hc => ?_⟩
    rcases List.mem_append.mp hc with hc | hc
    · exact hfirst.isToken.isTokenChar c hc
    rcases List.mem_cons.mp hc with rfl | hc
    · decide
    · exact hlast.isToken.isTokenChar c hc

/-- A token that denotes ids has a dash at neither end. -/
theorem Denotes.no_dash_at_ends (h : Denotes context token) :
    ¬(token.head? = some '-' ∨ token.getLast? = some '-') := by
  obtain ⟨i, j, hnames⟩ := h
  have hends : ∀ side : List Char, '-' ∉ side →
      ¬(side.head? = some '-' ∨ side.getLast? = some '-') := by
    rintro side hside (h | h)
    · exact hside (List.mem_of_head? h)
    · exact hside (List.mem_of_getLast? h)
  cases hnames with
  | every htoken _ =>
    rcases htoken with rfl | rfl
    · decide
    · decide
  | one hid => exact hends token hid.isSide.dash_notMem
  | @range first last _ _ hfirst hlast _ =>
    rw [List.head?_append_of_ne_nil _ hfirst.isSide.ne_nil,
      List.getLast?_append_of_ne_nil _ (List.cons_ne_nil _ _),
      List.getLast?_cons_of_ne_nil hlast.isSide.ne_nil]
    rintro (h | h)
    · exact hends first hfirst.isSide.dash_notMem (Or.inl h)
    · exact hends last hlast.isSide.dash_notMem (Or.inr h)

/-! ### Lists of one token -/

/-- A single id is read as it is. -/
theorem resolve_of_single (htokens : tokens s = [token]) (htoken : ¬IsEvery token)
    (hdash : '-' ∉ token) : resolve s context = (single context token).map fun id => [id] := by
  unfold resolve
  rw [htokens, ranges, range_of_dash_notMem htoken hdash]
  cases single context token with
  | error cause => rfl
  | ok id =>
    have hmembers : members [(id, id)] = [id] := by
      show union (List.range' id (id + 1 - id)) [] = [id]
      rw [Nat.add_sub_cancel_left]
      simp [union]
    exact congrArg Except.ok hmembers

/-- **The numeral of a task names this task and no other**, provided that a machine word can hold
it. -/
theorem resolve_toString (hpos : 1 ≤ id) (htotal : id ≤ context.total)
    (hword : id < UInt64.size) : resolve (toString id) context = .ok [id] := by
  have hdecimal : IsDecimal id (toString id).toList := isDecimal_toString id
  have hnamed : NamesOne context (toString id).toList id := .decimal hdecimal hpos htotal
  have hsingle : single context (toString id).toList = .ok id := by
    unfold single
    rw [number_of_isDecimal hdecimal hword]
    exact if_neg (by omega)
  have htokens : tokens (toString id) = [(toString id).toList] := by
    have htoken := tokens_of_isToken hnamed.isToken
    rwa [String.ofList_toList] at htoken
  rw [resolve_of_single htokens hnamed.not_isEvery hnamed.isSide.dash_notMem, hsingle]
  rfl

/-! ### Lists -/

theorem ranges_of_denotes (hcontext : context.IsValid)
    (h : ∀ token ∈ words, Denotes context token) : ∃ rs, ranges context words = .ok rs ∧
      ∀ id, id ∈ members rs ↔ ∃ token ∈ words, Covers context token id := by
  induction words with
  | nil => exact ⟨[], rfl, fun id => by simp [members]⟩
  | cons token rest ih =>
    obtain ⟨⟨i, j, hnames⟩, hrest⟩ := List.forall_mem_cons.mp h
    obtain ⟨rs, hrs, hmem⟩ := ih hrest
    refine ⟨(i, j) :: rs, by rw [ranges, range_of_names hcontext hnames, hrs], fun id => ?_⟩
    -- the token names one interval and no other
    have hcovers : Covers context token id ↔ i ≤ id ∧ id ≤ j := by
      constructor
      · rintro ⟨i', j', hnames', hid⟩
        obtain ⟨rfl, rfl⟩ := hnames.unique hcontext hnames'
        exact hid
      · exact fun hid => ⟨i, j, hnames, hid⟩
    simp only [mem_members, List.mem_cons, exists_eq_or_imp, ← hmem, hcovers]

theorem ranges_of_firstRefused (hcontext : context.IsValid) (h : FirstRefused context words cause) :
    ranges context words = .error cause := by
  obtain ⟨before, token, after, rfl, hbefore, -, hcause⟩ := h
  induction before with
  | nil => rw [List.nil_append, ranges, range_of_refused hcontext hcause]
  | cons w rest ih =>
    obtain ⟨⟨i, j, hnames⟩, hrest⟩ := List.forall_mem_cons.mp hbefore
    rw [List.cons_append, ranges, range_of_names hcontext hnames, ih hrest]

theorem denotes_or_firstRefused (hcontext : context.IsValid) (words : List (List Char)) :
    (∀ token ∈ words, Denotes context token) ∨ ∃ cause, FirstRefused context words cause := by
  induction words with
  | nil =>
    refine Or.inl fun token htoken => ?_
    cases htoken
  | cons token rest ih =>
    rcases names_or_refused context token with htoken | ⟨cause, hcause⟩
    · rcases ih with hrest | ⟨cause, before, w, after, rfl, hbefore, hw⟩
      · exact Or.inl (List.forall_mem_cons.mpr ⟨htoken, hrest⟩)
      · refine Or.inr ⟨cause, token :: before, w, after, rfl, ?_, hw⟩
        exact List.forall_mem_cons.mpr ⟨htoken, hbefore⟩
    · refine Or.inr ⟨cause, [], token, rest, rfl, ?_, hcause.not_denotes hcontext, hcause⟩
      intro w hw
      cases hw

/-- The ids are those that the tokens name, in ascending order. -/
structure AreDenoted (context : IdScope) (words : List (List Char)) (ids : List ℕ) : Prop where
  denotes : ∀ token ∈ words, Denotes context token
  ascending : ids.Pairwise (· < ·)
  mem_iff : ∀ id, id ∈ ids ↔ ∃ token ∈ words, Covers context token id

theorem resolve_of_areDenoted (hcontext : context.IsValid)
    (h : AreDenoted context (tokens s) ids) : resolve s context = .ok ids := by
  obtain ⟨rs, hrs, hmem⟩ := ranges_of_denotes hcontext h.denotes
  -- ascending lists with the same members are the same
  have hids : members rs = ids :=
    (pairwise_members rs).eq_of_mem_iff h.ascending fun id => (hmem id).trans (h.mem_iff id).symm
  unfold resolve
  rw [hrs, ← hids]
  rfl

theorem resolve_iff (hcontext : context.IsValid) (s : String) :
    (∀ ids, resolve s context = .ok ids ↔ AreDenoted context (tokens s) ids) ∧
    ∀ cause, resolve s context = .error cause ↔ FirstRefused context (tokens s) cause := by
  refine outcome_iff (fun ids => resolve_of_areDenoted hcontext) ?_ ?_
  · intro cause h
    unfold resolve
    rw [ranges_of_firstRefused hcontext h]
    rfl
  · rcases denotes_or_firstRefused hcontext (tokens s) with h | ⟨cause, h⟩
    · obtain ⟨rs, -, hmem⟩ := ranges_of_denotes hcontext h
      exact Or.inl ⟨members rs, h, pairwise_members rs, hmem⟩
    · exact Or.inr ⟨cause, h⟩

/-- A comma or a blank that stands between tokens of a list stands for another one. -/
inductive ExchangesSeparator : String → String → Prop
  | exchange {before after : List Char} {c d : Char} (hc : IsSeparator c) (hd : IsSeparator d)
      (hbetween : c = ',' ∨ ¬BesideDash before after) :
      ExchangesSeparator (String.ofList (before ++ c :: after))
        (String.ofList (before ++ d :: after))

theorem ExchangesSeparator.tokens_eq {s' : String} (h : ExchangesSeparator s s')
    (hdenotes : ∀ token ∈ tokens s, Denotes context token) : tokens s' = tokens s := by
  cases h with
  | @exchange before after c d hc hd hbetween =>
    -- a comma beside a dash would leave a token that denotes nothing
    have hbeside : ¬BesideDash before after := by
      rcases hbetween with rfl | h
      · intro hdash
        obtain ⟨token, htoken, hends⟩ := exists_dash_token hdash
        exact (hdenotes token htoken).no_dash_at_ends hends
      · exact h
    rw [tokens_append_cons hc (Or.inr hbeside), tokens_append_cons hd (Or.inr hbeside)]

/-- **Id lists denote sets.** A list is accepted just if all its tokens denote ids. The ids are then
strictly ascending, they are numbers of tasks, and they are those that some token covers; so they
stay the same in any list with the same tokens, such as the one that is put together from them in
another order or with repetitions, and when commas and blanks stand for each other. A list that is
not accepted is refused for the first token that denotes nothing. -/
theorem resolve_denotes (hcontext : context.IsValid) (s : String) :
    ((∃ ids, resolve s context = .ok ids) ↔ ∀ token ∈ tokens s, Denotes context token) ∧
    (∀ ids, resolve s context = .ok ids →
      ids.Pairwise (· < ·) ∧
      (∀ id ∈ ids, 1 ≤ id ∧ id ≤ context.total) ∧
      (∀ id, id ∈ ids ↔ ∃ token ∈ tokens s, Covers context token id) ∧
      (∀ s', (∀ token, token ∈ tokens s' ↔ token ∈ tokens s) → resolve s' context = .ok ids) ∧
      (∀ ts : List (List Char), (∀ token, token ∈ ts ↔ token ∈ tokens s) →
        resolve (String.ofList ([','].intercalate ts)) context = .ok ids) ∧
      ∀ s', ExchangesSeparator s s' → resolve s' context = .ok ids) ∧
    ∀ cause, resolve s context = .error cause ↔ FirstRefused context (tokens s) cause := by
  obtain ⟨hok, herror⟩ := resolve_iff hcontext s
  have hsame : ∀ ids s', (∀ token, token ∈ tokens s' ↔ token ∈ tokens s) →
      AreDenoted context (tokens s) ids → resolve s' context = .ok ids := by
    intro ids s' hmem h
    refine resolve_of_areDenoted hcontext ⟨?_, h.ascending, ?_⟩
    · exact fun token htoken => h.denotes token ((hmem token).mp htoken)
    · intro id
      simp only [h.mem_iff, hmem]
  refine ⟨?_, fun ids h => ?_, herror⟩
  · constructor
    · rintro ⟨ids, h⟩
      exact ((hok ids).mp h).denotes
    · intro h
      obtain ⟨rs, -, hmem⟩ := ranges_of_denotes hcontext h
      exact ⟨members rs, (hok _).mpr ⟨h, pairwise_members rs, hmem⟩⟩
  · have hdenoted := (hok ids).mp h
    refine ⟨hdenoted.ascending, bounds_of_mem_resolve h, hdenoted.mem_iff, ?_, ?_, ?_⟩
    · exact fun s' hmem => hsame ids s' hmem hdenoted
    · intro ts hmem
      have htokens : tokens (String.ofList ([','].intercalate ts)) = ts :=
        tokens_intercalate fun token htoken =>
          (hdenoted.denotes token ((hmem token).mp htoken)).isToken
      refine hsame ids _ (fun token => ?_) hdenoted
      rw [htokens, hmem]
    · intro s' hexchange
      refine hsame ids s' (fun token => ?_) hdenoted
      rw [hexchange.tokens_eq hdenoted.denotes]

theorem one_and_last_to_three : IdScope.IsValid ⟨4, some 1⟩ ∧ ∃ ids,
    resolve "1, LAST - 3" ⟨4, some 1⟩ = .ok ids ∧
      resolve "1  LAST - 3" ⟨4, some 1⟩ = .ok ids ∧ 2 ∈ ids := by
  have hvalid : IdScope.IsValid ⟨4, some 1⟩ := ⟨by decide, by simp⟩
  have htokens : tokens "1, LAST - 3" = ["1".toList, "last-3".toList] := by decide +kernel
  have hone : Names ⟨4, some 1⟩ "1".toList 1 1 :=
    .one (.decimal (isDecimal_toString 1) (by decide) (by decide))
  have hrange : Names ⟨4, some 1⟩ "last-3".toList 2 3 :=
    .range (.last rfl) (.decimal (isDecimal_toString 3) (by decide) (by decide)) (by decide)
  obtain ⟨haccepted, hids, -⟩ := resolve_denotes hvalid "1, LAST - 3"
  have hall : ∀ token ∈ tokens "1, LAST - 3", Denotes ⟨4, some 1⟩ token := by
    rw [htokens]
    exact List.forall_mem_cons.mpr ⟨⟨1, 1, hone⟩, by simpa using ⟨2, 3, hrange⟩⟩
  obtain ⟨ids, hresolve⟩ := haccepted.mpr hall
  obtain ⟨-, -, hmem, -, -, hexchange⟩ := hids ids hresolve
  refine ⟨hvalid, ids, hresolve, hexchange _ ?_, (hmem 2).mpr ?_⟩
  · exact @ExchangesSeparator.exchange "1".toList " LAST - 3".toList ',' ' ' (Or.inl rfl)
      (Or.inr isBlank_space) (Or.inl rfl)
  · exact ⟨_, htokens ▸ List.mem_of_getLast? rfl, 2, 3, hrange, by decide, by decide⟩

end IdList

end Agenda

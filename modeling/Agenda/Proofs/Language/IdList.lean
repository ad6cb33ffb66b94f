import Agenda.Language.IdList
import Agenda.Proofs.Text.Decimal
import Agenda.Proofs.Text.LowerCase
import Agenda.Proofs.Text.Words
import Mathlib.Data.Nat.Notation

/-!
# The ids that a list names

Whatever `IdList.resolve` answers is strictly ascending and names tasks that there are:
`pairwise_resolve`, `bounds_of_mem_resolve`. Both come from the ranges that the tokens stand for,
whose ends lie between one and the number of tasks. A list that has no tokens names nothing, and it
is not refused: `resolve_eq_nil_iff`.
-/

namespace Agenda.IdList

open Text

variable {context : IdScope} {s : String} {ids : List ℕ}

/-! ### Ranges -/

theorem bounds_of_single {token : List Char} {id : ℕ} (h : single context token = .ok id) :
    1 ≤ id ∧ id ≤ context.total := by
  unfold single at h
  split at h
  · cases h
  · split at h
    · cases h
    · rename_i hid
      injection h with h
      omega

theorem bounds_of_range {token : List Char} {r : ℕ × ℕ} (h : range context token = .ok r) :
    1 ≤ r.1 ∧ r.1 ≤ r.2 ∧ r.2 ≤ context.total := by
  unfold range at h
  split at h
  -- the word for all tasks
  · split at h
    · cases h
    · rename_i htotal
      injection h with h
      rw [← h]
      exact ⟨Nat.le_refl _, Nat.one_le_iff_ne_zero.mpr htotal, Nat.le_refl _⟩
  split at h
  -- an id
  · rename_i id hfields
    cases hid : single context id with
    | error cause => simp [hid, Except.map] at h
    | ok n =>
      simp only [hid, Except.map, Except.ok.injEq] at h
      rw [← h]
      exact ⟨(bounds_of_single hid).1, Nat.le_refl _, (bounds_of_single hid).2⟩
  -- two ids with a dash between them
  · rename_i first last hfields
    split at h
    · cases h
    split at h
    · cases h
    rename_i i hi
    split at h
    · cases h
    rename_i j hj
    split at h
    · cases h
    rename_i hle
    injection h with h
    rw [← h]
    exact ⟨(bounds_of_single hi).1, Nat.le_of_not_lt hle, (bounds_of_single hj).2⟩
  · cases h

theorem bounds_of_mem_ranges {words : List (List Char)} {rs : List (ℕ × ℕ)}
    (h : ranges context words = .ok rs) :
    ∀ r ∈ rs, 1 ≤ r.1 ∧ r.1 ≤ r.2 ∧ r.2 ≤ context.total := by
  induction words generalizing rs with
  | nil =>
    injection h with h
    rw [← h]
    simp
  | cons token rest ih =>
    unfold ranges at h
    split at h
    · cases h
    rename_i first hfirst
    split at h
    · cases h
    rename_i more hmore
    injection h with h
    rw [← h]
    intro r hr
    rcases List.mem_cons.mp hr with rfl | hr
    · exact bounds_of_range hfirst
    · exact ih hmore r hr

/-! ### Members -/

theorem mem_members {named : List (ℕ × ℕ)} {i : ℕ} :
    i ∈ members named ↔ ∃ r ∈ named, r.1 ≤ i ∧ i ≤ r.2 := by
  induction named with
  | nil => simp [members]
  | cons r rest ih =>
    have hcons : members (r :: rest) = union (List.range' r.1 (r.2 + 1 - r.1)) (members rest) := rfl
    rw [hcons, mem_union, ih, List.mem_range'_1]
    simp only [List.mem_cons, exists_eq_or_imp]
    constructor
    · rintro (hi | hi)
      · exact Or.inl ⟨hi.1, by omega⟩
      · exact Or.inr hi
    · rintro (hi | hi)
      · exact Or.inl ⟨hi.1, by omega⟩
      · exact Or.inr hi

theorem pairwise_members (named : List (ℕ × ℕ)) : (members named).Pairwise (· < ·) := by
  induction named with
  | nil => exact List.Pairwise.nil
  | cons r rest ih => exact pairwise_union _ _ List.pairwise_lt_range' ih

/-! ### Resolved lists -/

theorem exists_ranges_of_resolve (h : resolve s context = .ok ids) :
    ∃ rs, ranges context (tokens s) = .ok rs ∧ ids = members rs := by
  unfold resolve at h
  cases hrs : ranges context (tokens s) with
  | error cause => simp [hrs, Except.map] at h
  | ok rs =>
    simp only [hrs, Except.map, Except.ok.injEq] at h
    exact ⟨rs, rfl, h.symm⟩

/-- **Resolved ids are strictly ascending.** -/
theorem pairwise_resolve (h : resolve s context = .ok ids) : ids.Pairwise (· < ·) := by
  obtain ⟨rs, -, rfl⟩ := exists_ranges_of_resolve h
  exact pairwise_members rs

/-- **Resolved ids are numbers of tasks.** -/
theorem bounds_of_mem_resolve (h : resolve s context = .ok ids) :
    ∀ id ∈ ids, 1 ≤ id ∧ id ≤ context.total := by
  obtain ⟨rs, hrs, rfl⟩ := exists_ranges_of_resolve h
  intro id hid
  obtain ⟨r, hr, hlo, hhi⟩ := mem_members.mp hid
  obtain ⟨hfirst, -, hlast⟩ := bounds_of_mem_ranges hrs r hr
  omega

/-! ### Lists that name something -/

section Kept

variable {p : Char → Bool} (hp : ∀ c, isBlank c = true → p c = true)

include hp

theorem all_dropBeforeDashes (text : List Char) : (dropBeforeDashes text).all p = text.all p := by
  induction text with
  | nil => rfl
  | cons c cs ih =>
    have hcons : dropBeforeDashes (c :: cs) =
        if isBlank c && (dropBeforeDashes cs).head? == some '-' then dropBeforeDashes cs
        else c :: dropBeforeDashes cs := rfl
    rw [hcons, List.all_cons, ← ih]
    split
    · rename_i hdrop
      rw [hp c (Bool.and_eq_true_iff.mp hdrop).1, Bool.true_and]
    · rw [List.all_cons]

theorem all_dropAfterDashes (afterDash : Bool) (text : List Char) :
    (dropAfterDashes afterDash text).all p = text.all p := by
  induction text generalizing afterDash with
  | nil => rfl
  | cons c cs ih =>
    rw [dropAfterDashes, List.all_cons]
    split
    · rename_i hdrop
      rw [ih, hp c (Bool.and_eq_true_iff.mp hdrop).1, Bool.true_and]
    · rw [List.all_cons, ih]

end Kept

/-- A list has no token: it is made of commas and blanks. -/
def NamesNothing (s : String) : Prop :=
  ∀ c ∈ s.toList, c = ',' ∨ isBlank c = true

theorem namesNothing_iff :
    NamesNothing s ↔ s.toList.all (fun c => c == ',' || isBlank c) = true := by
  rw [List.all_eq_true]
  simp only [Bool.or_eq_true, beq_iff_eq]
  exact Iff.rfl

instance (s : String) : Decidable (NamesNothing s) :=
  decidable_of_iff' _ namesNothing_iff

/-- **Only lists of commas and blanks have no token.** Taking blanks away at dashes and
lower-casing neither make a token nor destroy one. -/
theorem tokens_eq_nil_iff : tokens s = [] ↔ NamesNothing s := by
  have hblank : ∀ c, isBlank c = true → (c == ',' || isBlank c) = true := fun c hc => by
    rw [hc, Bool.or_true]
  have huncased : ∀ c, (c == ',' || isBlank c) = true → IsUncased c := by
    intro c hc
    rcases (Bool.or_eq_true _ _).mp hc with hc | hc
    · rw [beq_iff_eq.mp hc]
      exact isUncased_comma
    · exact isUncased_of_isBlank hc
  unfold tokens
  rw [pieces_eq_nil_iff, all_lower huncased, tightenDashes, all_dropAfterDashes hblank,
    all_dropBeforeDashes hblank, all_trim hblank, namesNothing_iff]

/-- **A list names no id when it is made of commas and blanks**, and only then: any other list is
refused or names some. -/
theorem resolve_eq_nil_iff : resolve s context = .ok [] ↔ NamesNothing s := by
  constructor
  · intro h
    rw [← tokens_eq_nil_iff]
    obtain ⟨rs, hrs, hids⟩ := exists_ranges_of_resolve h
    cases htokens : tokens s with
    | nil => rfl
    | cons token rest =>
      rw [htokens] at hrs
      unfold ranges at hrs
      split at hrs
      · cases hrs
      rename_i first hfirst
      split at hrs
      · cases hrs
      rename_i more hmore
      cases hrs
      -- the first range holds its own first id
      obtain ⟨-, hle, -⟩ := bounds_of_range hfirst
      have hmem : first.1 ∈ members (first :: more) :=
        mem_members.mpr ⟨first, List.mem_cons_self .., Nat.le_refl _, hle⟩
      rw [← hids] at hmem
      cases hmem
  · intro h
    unfold resolve
    rw [tokens_eq_nil_iff.mpr h]
    rfl

/-! ### Lists without blanks -/

theorem dropBeforeDashes_of_not_blank {text : List Char} (h : ∀ c ∈ text, isBlank c = false) :
    dropBeforeDashes text = text := by
  induction text with
  | nil => rfl
  | cons c cs ih =>
    obtain ⟨hc, hcs⟩ := List.forall_mem_cons.mp h
    unfold dropBeforeDashes at ih ⊢
    rw [List.foldr_cons, hc, Bool.false_and, if_neg Bool.false_ne_true, ih hcs]

theorem dropAfterDashes_of_not_blank {text : List Char} (h : ∀ c ∈ text, isBlank c = false)
    (afterDash : Bool) : dropAfterDashes afterDash text = text := by
  induction text generalizing afterDash with
  | nil => rfl
  | cons c cs ih =>
    obtain ⟨hc, hcs⟩ := List.forall_mem_cons.mp h
    rw [dropAfterDashes, hc, Bool.false_and, if_neg Bool.false_ne_true, ih hcs]

end Agenda.IdList

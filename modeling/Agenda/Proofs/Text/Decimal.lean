import Agenda.Text.Decimal
import Mathlib.Algebra.Group.Nat.Defs
import Mathlib.Data.List.Basic
import Mathlib.Data.List.Induction

/-!
# Numerals

A number that fits into a width has just as many digits when it is padded to it (`length_padded`).
Digits are read as the number whose numeral they are after zeros (`readDigits?_eq_some_iff`), so a
padded number is read back. A machine word is read from the same texts, a plus sign allowed, as long
as the number fits (`readWord?_eq_some_iff`).
-/

namespace Agenda.Text

variable {width n : ℕ} {c : Char}

theorem toList_pushn (c : Char) (n : ℕ) : ("".pushn c n).toList = List.replicate n c := by
  rw [String.pushn_eq_repeat_push]
  induction n with
  | zero => rfl
  | succ n ih => rw [Nat.repeat, String.toList_push, ih, List.replicate_succ']

theorem toList_toString (n : ℕ) : (toString n).toList = Nat.toDigits 10 n :=
  Nat.toList_repr

theorem toList_padded (width n : ℕ) : (padded width n).toList =
    List.replicate (width - (Nat.toDigits 10 n).length) '0' ++ Nat.toDigits 10 n := by
  unfold padded
  dsimp only
  rw [String.toList_append, toList_pushn, toList_toString, ← String.length_toList, toList_toString]

/-- Zeros and the numeral after them are digits. -/
theorem isDigit_of_mem_zeros {zeros : ℕ}
    (h : c ∈ List.replicate zeros '0' ++ Nat.toDigits 10 n) : c.isDigit = true := by
  rcases List.mem_append.mp h with h | h
  · rw [List.eq_of_mem_replicate h]
    decide
  · exact Nat.isDigit_of_mem_toDigits (by decide) (by decide) h

theorem isDigit_of_mem_padded (h : c ∈ (padded width n).toList) : c.isDigit = true := by
  rw [toList_padded] at h
  exact isDigit_of_mem_zeros h

theorem padded_ne_nil : (padded width n).toList ≠ [] := by
  rw [toList_padded]
  exact List.append_ne_nil_of_right_ne_nil _ Nat.toDigits_ne_nil

/-- **A number that fits is as long as the width.** -/
theorem length_padded (hwidth : 0 < width) (h : n < 10 ^ width) :
    (padded width n).toList.length = width := by
  have hle : (Nat.toDigits 10 n).length ≤ width :=
    (Nat.length_toDigits_le_iff (by decide) hwidth).mpr h
  rw [toList_padded, List.length_append, List.length_replicate]
  omega

/-! ### Texts of digits -/

/-- A digit is the numeral of its value. -/
theorem toDigits_of_isDigit (h : c.isDigit = true) :
    c.toNat - '0'.toNat < 10 ∧ Nat.toDigits 10 (c.toNat - '0'.toNat) = [c] := by
  obtain ⟨hlo, hhi⟩ := Char.isDigit_iff_toNat.mp h
  have hlt : c.toNat - '0'.toNat < 10 := by
    have hnine : '9'.toNat = '0'.toNat + 9 := rfl
    omega
  have hall : ∀ d < 10, Nat.toDigits 10 d = [Char.ofNat ('0'.toNat + d)] := by decide
  have hc := hall _ hlt
  rw [Nat.add_sub_cancel' hlo, Char.ofNat_toNat] at hc
  exact ⟨hlt, hc⟩

/-- A text of digits is the numeral of its value after zeros. -/
theorem exists_zeros_of_isDigit {text : List Char} (hne : text ≠ [])
    (h : ∀ c ∈ text, c.isDigit = true) : ∃ zeros,
      text = List.replicate zeros '0' ++ Nat.toDigits 10 (Nat.ofDigitChars 10 text 0) := by
  induction text using List.reverseRecOn with
  | nil => exact absurd rfl hne
  | append_singleton init c ih =>
    obtain ⟨hinit, hc⟩ := List.forall_mem_append.mp h
    obtain ⟨hlt, hdigit⟩ := toDigits_of_isDigit (hc c (List.mem_singleton_self c))
    rw [Nat.ofDigitChars_append, Nat.ofDigitChars_cons, Nat.ofDigitChars_nil]
    by_cases hnil : init = []
    · subst hnil
      refine ⟨0, ?_⟩
      rw [Nat.ofDigitChars_nil, Nat.mul_zero, Nat.zero_add, hdigit]
      rfl
    obtain ⟨zeros, hzeros⟩ := ih hnil hinit
    generalize Nat.ofDigitChars 10 init 0 = m at hzeros ⊢
    -- zeros alone have no numeral to put the digit behind
    rcases Nat.eq_zero_or_pos m with rfl | hpos
    · refine ⟨zeros + 1, ?_⟩
      rw [Nat.mul_zero, Nat.zero_add, hdigit, hzeros, List.replicate_succ']
      rfl
    · refine ⟨zeros, ?_⟩
      rw [← Nat.toDigits_append_toDigits (by decide) hpos hlt, hdigit, ← List.append_assoc,
        ← hzeros]

/-- **Digits are read as the number whose numeral they are**, zeros before it left aside. -/
theorem readDigits?_eq_some_iff {text : List Char} : readDigits? text = some n ↔
    ∃ zeros, text = List.replicate zeros '0' ++ Nat.toDigits 10 n := by
  unfold readDigits?
  constructor
  · intro h
    split at h
    · cases h
    rename_i hdigits
    simp only [Bool.or_eq_true, List.isEmpty_iff, Bool.not_eq_true', not_or, Bool.not_eq_false,
      List.all_eq_true] at hdigits
    obtain ⟨zeros, htext⟩ := exists_zeros_of_isDigit hdigits.1 hdigits.2
    have hn : Nat.ofDigitChars 10 text 0 = n := Option.some.inj h
    rw [hn] at htext
    exact ⟨zeros, htext⟩
  · rintro ⟨zeros, rfl⟩
    have hall : (List.replicate zeros '0' ++ Nat.toDigits 10 n).all Char.isDigit = true :=
      List.all_eq_true.mpr fun c => isDigit_of_mem_zeros
    have hempty : (List.replicate zeros '0' ++ Nat.toDigits 10 n).isEmpty = false :=
      List.isEmpty_eq_false_iff.mpr (List.append_ne_nil_of_right_ne_nil _ Nat.toDigits_ne_nil)
    rw [hempty, hall, if_neg (by decide)]
    -- leading zeros count for nothing
    show some (Nat.ofDigitChars 10 (_ ++ Nat.toDigits 10 n) 0) = some n
    rw [Nat.ofDigitChars_append, Nat.ofDigitChars_replicate_zero, Nat.mul_zero,
      Nat.ofDigitChars_ten_toDigits]

/-- **A padded number is read back.** -/
theorem readDigits?_padded (width n : ℕ) : readDigits? (padded width n).toList = some n :=
  readDigits?_eq_some_iff.mpr ⟨_, toList_padded width n⟩

/-! ### Numerals without a width -/

theorem isDigit_of_mem_toString (h : c ∈ (toString n).toList) : c.isDigit = true := by
  rw [toList_toString] at h
  exact Nat.isDigit_of_mem_toDigits (by decide) (by decide) h

theorem toString_ne_nil (n : ℕ) : (toString n).toList ≠ [] := by
  rw [toList_toString]
  exact Nat.toDigits_ne_nil

theorem readDigits?_toString (n : ℕ) : readDigits? (toString n).toList = some n :=
  readDigits?_eq_some_iff.mpr ⟨0, toList_toString n⟩

/-- The decimal numeral of a number; zeros and, before them, a plus sign may stand before it. -/
def IsDecimal (n : ℕ) (text : List Char) : Prop :=
  ∃ sign ∈ [[], ['+']], ∃ zeros, text = sign ++ (List.replicate zeros '0' ++ Nat.toDigits 10 n)

theorem isDecimal_toString (n : ℕ) : IsDecimal n (toString n).toList :=
  ⟨[], List.mem_cons_self .., 0, toList_toString n⟩

/-- Numerals are made of digits and plus signs. -/
theorem IsDecimal.isDigit_or_plus {text : List Char} (h : IsDecimal n text) (hc : c ∈ text) :
    c.isDigit = true ∨ c = '+' := by
  obtain ⟨sign, hsign, zeros, rfl⟩ := h
  rcases List.mem_append.mp hc with hc | hc
  · rcases List.mem_pair.mp hsign with rfl | rfl
    · cases hc
    · exact Or.inr (List.mem_singleton.mp hc)
  · exact Or.inl (isDigit_of_mem_zeros hc)

theorem IsDecimal.ne_nil {text : List Char} (h : IsDecimal n text) : text ≠ [] := by
  obtain ⟨sign, -, zeros, rfl⟩ := h
  apply List.append_ne_nil_of_right_ne_nil
  exact List.append_ne_nil_of_right_ne_nil _ Nat.toDigits_ne_nil

theorem readWord?_plus (digits : List Char) :
    readWord? ('+' :: digits) = (readDigits? digits).filter (· < UInt64.size) := by
  unfold readWord?
  simp only
  cases readDigits? digits with
  | none => rfl
  | some n => simp [Option.filter]

theorem readWord?_of_head? {digits : List Char} (h : digits.head? ≠ some '+') :
    readWord? digits = (readDigits? digits).filter (· < UInt64.size) := by
  rw [← readWord?_plus]
  unfold readWord?
  split
  · exact absurd rfl h
  · rfl

/-- **A machine word is read from the numerals of numbers that fit it**, and from nothing else. -/
theorem readWord?_eq_some_iff {text : List Char} :
    readWord? text = some n ↔ IsDecimal n text ∧ n < UInt64.size := by
  have hfits : ∀ digits : List Char, (readDigits? digits).filter (· < UInt64.size) = some n ↔
      (∃ zeros, digits = List.replicate zeros '0' ++ Nat.toDigits 10 n) ∧ n < UInt64.size := by
    intro digits
    rw [Option.filter_eq_some_iff, readDigits?_eq_some_iff, decide_eq_true_iff]
  constructor
  · intro h
    by_cases hplus : text.head? = some '+'
    · obtain ⟨digits, rfl⟩ := List.head?_eq_some_iff.mp hplus
      rw [readWord?_plus, hfits] at h
      obtain ⟨⟨zeros, rfl⟩, hlt⟩ := h
      exact ⟨⟨['+'], List.mem_pair.mpr (Or.inr rfl), zeros, rfl⟩, hlt⟩
    · rw [readWord?_of_head? hplus, hfits] at h
      obtain ⟨⟨zeros, hdigits⟩, hlt⟩ := h
      exact ⟨⟨[], List.mem_cons_self .., zeros, hdigits⟩, hlt⟩
  · rintro ⟨⟨sign, hsign, zeros, rfl⟩, hlt⟩
    have hread := (hfits _).mpr ⟨⟨zeros, rfl⟩, hlt⟩
    rcases List.mem_pair.mp hsign with rfl | rfl
    · rw [List.nil_append, readWord?_of_head?, hread]
      -- a plus sign is not a digit
      intro hplus
      have hdigit := isDigit_of_mem_zeros (List.mem_of_head? hplus)
      cases hdigit
    · exact (readWord?_plus _).trans hread

end Agenda.Text

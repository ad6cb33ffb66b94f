import Agenda.Proofs.Json.Text

/-!
# Integers in JSON documents

An integer is written in decimal, and it is read back from its digits as long as what follows does
not go on with the number (`EndsNumber`).
-/

namespace Agenda.Json

/-! ### Decimal digits -/

variable {n : ℕ} {rest : Bytes}

theorem isDigit_of_mem_toDigits {c : Char} (h : c ∈ Nat.toDigits 10 n) :
    48 ≤ c.toNat ∧ c.toNat ≤ 57 := by
  have hdigit := Nat.isDigit_of_mem_toDigits (by decide) (by decide) h
  rw [Char.isDigit, Bool.and_eq_true, decide_eq_true_eq, decide_eq_true_eq] at hdigit
  exact hdigit

theorem utf8_toDigits (n : ℕ) : utf8 (Nat.toDigits 10 n) = (Nat.toDigits 10 n).map byte := by
  have hall : ∀ text : List Char, (∀ c ∈ text, c.toNat < 0x80) → utf8 text = text.map byte := by
    intro text h
    induction text with
    | nil => rfl
    | cons c cs ih =>
      obtain ⟨hc, hcs⟩ := List.forall_mem_cons.mp h
      rw [utf8_cons, utf8EncodeChar_ascii hc, ih hcs]
      rfl
  refine hall _ fun c hc => ?_
  have := (isDigit_of_mem_toDigits hc).2
  omega

theorem toNat_byte {c : Char} (h : c.toNat < 0x100) : (byte c).toNat = c.toNat := by
  rw [byte]
  show c.toNat % 256 = c.toNat
  omega

theorem isDigit_of_mem_utf8 {b : UInt8} (h : b ∈ utf8 (Nat.toDigits 10 n)) : isDigit b = true := by
  rw [utf8_toDigits] at h
  obtain ⟨c, hc, rfl⟩ := List.mem_map.mp h
  obtain ⟨hle, hge⟩ := isDigit_of_mem_toDigits hc
  have hbyte := toNat_byte (c := c) (by omega)
  unfold isDigit
  rw [Bool.and_eq_true, decide_eq_true_eq, decide_eq_true_eq, UInt8.le_iff_toNat_le,
    UInt8.le_iff_toNat_le, hbyte]
  exact ⟨hle, hge⟩

theorem digitsValue_utf8 (n : ℕ) : digitsValue (utf8 (Nat.toDigits 10 n)) = n := by
  induction n using Nat.strongRecOn with
  | ind n ih =>
    have hdigit : ∀ d < 10, (byte (Nat.digitChar d)).toNat - 0x30 = d := by decide
    -- numerals grow at their end, as the value does that is read from them
    have happend : ∀ (digits : Bytes) (b : UInt8),
        digitsValue (digits ++ [b]) = 10 * digitsValue digits + (b.toNat - 0x30) := by
      intro digits b
      rw [digitsValue, List.foldl_append]
      rfl
    rw [utf8_toDigits, Nat.toDigits_eq_if (by decide)]
    split
    · rename_i hlt
      have hempty := happend [] (byte (Nat.digitChar n))
      rw [hdigit n hlt] at hempty
      rw [List.map_singleton]
      exact hempty.trans (Nat.zero_add n)
    · rw [List.map_append, List.map_singleton, happend, ← utf8_toDigits, ih (n / 10) (by omega),
        hdigit (n % 10) (by omega)]
      omega

/-- Only zero begins with a zero. -/
theorem head?_toDigits (h : n ≠ 0) : (Nat.toDigits 10 n).head? ≠ some '0' := by
  induction n using Nat.strongRecOn with
  | ind n ih =>
    rw [Nat.toDigits_eq_if (by decide)]
    split
    · rename_i hlt
      rw [List.head?_cons, Ne, Option.some.injEq, Nat.digitChar_eq_zero]
      exact h
    · rw [List.head?_append_of_ne_nil _ Nat.toDigits_ne_nil]
      exact ih (n / 10) (by omega) (by omega)

/-! ### Reading numbers -/

/-- What follows does not go on with a number. -/
def EndsNumber (rest : Bytes) : Prop :=
  ∀ b ∈ rest.head?, isDigit b = false ∧ b ≠ 0x2E ∧ b ≠ byte 'e' ∧ b ≠ byte 'E'

theorem skipFraction_of_ends (h : EndsNumber rest) : skipFraction rest = some (false, rest) := by
  unfold skipFraction
  split
  · exact absurd rfl (h 0x2E rfl).2.1
  · rfl

theorem skipExponent_of_ends (h : EndsNumber rest) : skipExponent rest = some (false, rest) := by
  unfold skipExponent
  split
  · rename_i b _
    obtain ⟨-, -, he, hE⟩ := h b rfl
    have hne : (b == byte 'e' || b == byte 'E') = false := by
      rw [Bool.or_eq_false_iff, beq_eq_false_iff_ne, beq_eq_false_iff_ne]
      exact ⟨he, hE⟩
    rw [hne]
    rfl
  · rfl

/-- The digits of a number are read up to what follows them. -/
theorem digits?_toDigits (n : ℕ) (h : EndsNumber rest) :
    digits? (utf8 (Nat.toDigits 10 n) ++ rest) = some (utf8 (Nat.toDigits 10 n), rest) := by
  have hstop : rest.takeWhile isDigit = [] ∧ rest.dropWhile isDigit = rest := by
    cases rest with
    | nil => exact ⟨rfl, rfl⟩
    | cons b bs =>
      have hb := (h b rfl).1
      rw [List.takeWhile_cons, List.dropWhile_cons, hb]
      exact ⟨rfl, rfl⟩
  have hall : ∀ b ∈ utf8 (Nat.toDigits 10 n), isDigit b = true := fun b => isDigit_of_mem_utf8
  have hne : utf8 (Nat.toDigits 10 n) ≠ [] := by
    rw [utf8_toDigits, Ne, List.map_eq_nil_iff]
    exact Nat.toDigits_ne_nil
  unfold digits?
  rw [List.takeWhile_append_of_pos hall, List.dropWhile_append_of_pos hall, hstop.1, hstop.2,
    List.append_nil, if_neg]
  rwa [List.isEmpty_iff]

/-- The bytes of a number other than zero do not begin with the byte of a zero. -/
theorem toDigits_append_ne (hn : n ≠ 0) (rest more : Bytes) :
    utf8 (Nat.toDigits 10 n) ++ rest ≠ 0x30 :: more := by
  intro heq
  rw [utf8_toDigits] at heq
  cases hdig : Nat.toDigits 10 n with
  | nil => exact absurd hdig Nat.toDigits_ne_nil
  | cons c cs =>
    rw [hdig, List.map_cons, List.cons_append] at heq
    have hc : c ∈ Nat.toDigits 10 n := by
      rw [hdig]
      exact List.mem_cons_self ..
    have hle := isDigit_of_mem_toDigits hc
    have hbyte := toNat_byte (c := c) (by omega)
    rw [(List.cons.inj heq).1] at hbyte
    -- the first digit would be a zero
    have hzero : c = '0' := Char.ext (UInt32.toNat_inj.mp hbyte.symm)
    have hhead := head?_toDigits hn
    rw [hdig, hzero] at hhead
    exact absurd rfl hhead

theorem wholeDigits?_toDigits (n : ℕ) (h : EndsNumber rest) :
    wholeDigits? (utf8 (Nat.toDigits 10 n) ++ rest) = some (utf8 (Nat.toDigits 10 n), rest) := by
  by_cases hn : n = 0
  · rw [hn]
    rfl
  -- a leading zero would end the number at once
  unfold wholeDigits?
  split
  · rename_i heq
    exact absurd heq (toDigits_append_ne hn rest _)
  · exact digits?_toDigits n h

/-- **A number is read back as it was written.** -/
theorem number?_toDigits (negative : Bool) (n : ℕ) (h : EndsNumber rest)
    (hn : negative = true → n ≠ 0) :
    number? negative (utf8 (Nat.toDigits 10 n) ++ rest)
      = some (integer (if negative then -(n : Int) else n), rest) := by
  have hzero : (negative && n == 0) = false := by
    cases negative with
    | false => rfl
    | true =>
      rw [Bool.true_and, beq_eq_false_iff_ne]
      exact hn rfl
  unfold number?
  rw [wholeDigits?_toDigits n h]
  simp only [Option.bind_eq_bind, Option.bind_some, skipFraction_of_ends h,
    skipExponent_of_ends h, digitsValue_utf8, Bool.or_false, Bool.false_or, hzero]
  rfl

end Agenda.Json

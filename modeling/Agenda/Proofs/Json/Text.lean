import Agenda.Json.Printer
import Agenda.Json.Reader
import Mathlib.Data.List.Basic

/-!
# Texts in JSON documents

Characters are written as their UTF-8 bytes. An ASCII character is one byte (`utf8EncodeChar_ascii`)
and all bytes of any other one lie above ASCII (`le_of_mem_utf8EncodeChar`), so quotes, backslashes
and control characters are found among the bytes exactly where they are among the characters.
A text in quotes is therefore read back as it was written (`string?_quoted`).
-/

namespace Agenda.Json

/-- The bytes of a text. -/
def utf8 (text : List Char) : Bytes :=
  text.flatMap String.utf8EncodeChar

@[simp] theorem utf8_nil : utf8 [] = [] := rfl

@[simp] theorem utf8_cons (c : Char) (cs : List Char) :
    utf8 (c :: cs) = String.utf8EncodeChar c ++ utf8 cs := rfl

@[simp] theorem utf8_append (text text' : List Char) :
    utf8 (text ++ text') = utf8 text ++ utf8 text' :=
  List.flatMap_append ..

/-! ### Byte arrays -/

theorem toList_loop (bytes : ByteArray) (i : ℕ) (before : Bytes) :
    ByteArray.toList.loop bytes i before = before.reverse ++ bytes.data.toList.drop i := by
  induction hn : bytes.size - i generalizing i before with
  | zero =>
    have hi : bytes.data.toList.length ≤ i := by
      have : bytes.size = bytes.data.toList.length := rfl
      omega
    rw [ByteArray.toList.loop, if_neg (by omega), List.drop_eq_nil_of_le hi, List.append_nil]
  | succ n ih =>
    have hi : i < bytes.data.toList.length := by
      have : bytes.size = bytes.data.toList.length := rfl
      omega
    have hget : bytes.get! i = bytes.data.toList[i] := by
      show bytes.data[i]! = _
      rw [getElem!_pos bytes.data i hi, Array.getElem_toList]
    rw [ByteArray.toList.loop, if_pos (by omega), ih _ _ (by omega), hget, List.reverse_cons,
      List.append_assoc, List.singleton_append, List.drop_eq_getElem_cons hi]

theorem toList_eq (bytes : ByteArray) : bytes.toList = bytes.data.toList := by
  rw [ByteArray.toList, toList_loop]
  rfl

theorem toList_toUTF8 (s : String) : s.toUTF8.toList = utf8 s.toList := by
  rw [toList_eq, String.toUTF8_eq_toByteArray, ← String.utf8Encode_toList]
  exact List.toList_data_toByteArray

/-- The bytes of a text are read as that text. -/
theorem textOfBytes?_utf8 (s : String) : textOfBytes? (utf8 s.toList) = some s := by
  have hbytes : (⟨(utf8 s.toList).toArray⟩ : ByteArray) = s.toByteArray := by
    rw [← String.utf8Encode_toList]
    exact (ByteArray.ext (by rw [List.utf8Encode, List.data_toByteArray]; rfl))
  unfold textOfBytes? String.fromUTF8?
  rw [hbytes, dif_pos s.isValidUTF8]
  rfl

/-! ### Bytes of a character -/

theorem utf8EncodeChar_ascii {c : Char} (h : c.toNat < 0x80) :
    String.utf8EncodeChar c = [byte c] := by
  have hle : c.val.toNat ≤ 0x7f := by
    have : c.val.toNat = c.toNat := rfl
    omega
  unfold String.utf8EncodeChar
  simp only [hle, if_true]
  rfl

theorem le_ofNat {n : ℕ} (h : 0x80 ≤ n) (h' : n < 0x100) : 0x80 ≤ UInt8.ofNat n := by
  rw [UInt8.le_iff_toNat_le, UInt8.toNat_ofNat']
  show 0x80 ≤ n % 256
  omega

/-- The bytes of a character that is not in ASCII are not in ASCII either. -/
theorem le_of_mem_utf8EncodeChar {c : Char} (h : 0x80 ≤ c.toNat) {b : UInt8}
    (hb : b ∈ String.utf8EncodeChar c) : 0x80 ≤ b := by
  have hval : c.val.toNat = c.toNat := rfl
  unfold String.utf8EncodeChar at hb
  have hnle : ¬ c.val.toNat ≤ 0x7f := by omega
  simp only [hnle, if_false] at hb
  -- two, three or four bytes, each of them with the highest bit set
  split at hb
  · rcases List.mem_cons.mp hb with rfl | hb
    · exact le_ofNat (by omega) (by omega)
    · rw [List.mem_singleton.mp hb]
      exact le_ofNat (by omega) (by omega)
  split at hb
  · rcases List.mem_cons.mp hb with rfl | hb
    · exact le_ofNat (by omega) (by omega)
    rcases List.mem_cons.mp hb with rfl | hb
    · exact le_ofNat (by omega) (by omega)
    · rw [List.mem_singleton.mp hb]
      exact le_ofNat (by omega) (by omega)
  · rcases List.mem_cons.mp hb with rfl | hb
    · exact le_ofNat (by omega) (by omega)
    rcases List.mem_cons.mp hb with rfl | hb
    · exact le_ofNat (by omega) (by omega)
    rcases List.mem_cons.mp hb with rfl | hb
    · exact le_ofNat (by omega) (by omega)
    · rw [List.mem_singleton.mp hb]
      exact le_ofNat (by omega) (by omega)

/-! ### Contents of a string -/

variable {more rest : Bytes} {b : UInt8}

theorem pushBytes_none (bytes : Bytes) (contents : Option Bytes) (rest : Bytes) :
    pushBytes none bytes (some (contents, rest)) = some (contents.map (bytes ++ ·), rest) := rfl

theorem pushBytes_append (bytes bytes' : Bytes) (r : Option (Option Bytes × Bytes)) :
    pushBytes none bytes (pushBytes none bytes' r) = pushBytes none (bytes ++ bytes') r := by
  cases r with
  | none => rfl
  | some r =>
    obtain ⟨contents, rest⟩ := r
    cases contents with
    | none => rfl
    | some bytes'' =>
      rw [pushBytes_none, pushBytes_none, pushBytes_none]
      simp

theorem pushBytes_nil (r : Option (Option Bytes × Bytes)) : pushBytes none [] r = r := by
  cases r with
  | none => rfl
  | some r =>
    obtain ⟨contents, rest⟩ := r
    cases contents <;> rfl

/-- A byte that stands for itself. -/
theorem stringBody_plain (hquote : b ≠ 0x22) (hbackslash : b ≠ 0x5C) (hcontrol : ¬ b < 0x20) :
    stringBody none (b :: more) = pushBytes none [b] (stringBody none more) := by
  rw [stringBody.eq_def]
  split
  · rename_i heq
    cases heq
  · rename_i heq
    exact absurd (List.cons.inj heq).1 hquote
  · rename_i heq
    exact absurd (List.cons.inj heq).1 hbackslash
  · rename_i heq
    exact absurd (List.cons.inj heq).1 hbackslash
  · rename_i heq
    obtain ⟨rfl, rfl⟩ := List.cons.inj heq
    rw [if_neg hcontrol]

theorem stringBody_plains {bytes : Bytes}
    (h : ∀ b ∈ bytes, b ≠ 0x22 ∧ b ≠ 0x5C ∧ ¬ b < 0x20) :
    stringBody none (bytes ++ more) = pushBytes none bytes (stringBody none more) := by
  induction bytes with
  | nil => exact (pushBytes_nil _).symm
  | cons b bs ih =>
    obtain ⟨⟨hquote, hbackslash, hcontrol⟩, hbs⟩ := List.forall_mem_cons.mp h
    rw [List.cons_append, stringBody_plain hquote hbackslash hcontrol, ih hbs, pushBytes_append,
      List.singleton_append]

theorem stringBody_short {c : Char} (hb : b ≠ 0x75) (h : shortEscape? b = some c) :
    stringBody none (0x5C :: b :: more)
      = pushBytes none (String.utf8EncodeChar c) (stringBody none more) := by
  rw [stringBody.eq_def]
  split
  · rename_i heq
    cases heq
  · rename_i heq
    exact absurd (List.cons.inj heq).1 (by decide)
  · rename_i heq
    exact absurd (List.cons.inj (List.cons.inj heq).2).1 hb
  · rename_i heq
    obtain ⟨rfl, rfl⟩ := List.cons.inj (List.cons.inj heq).2
    rw [h]
  · rename_i hshort heq
    exact absurd (List.cons.inj heq).1.symm fun hne => hshort _ _ hne (List.cons.inj heq).2.symm

theorem hexValue?_hexDigit : ∀ d < 16, hexValue? (byte (hexDigit d)) = some d := by
  decide

theorem toNat_hexDigit_lt : ∀ d < 16, (hexDigit d).toNat < 0x80 := by
  decide

/-- A control character by its number. -/
theorem stringBody_control {c : Char} (h : c.toNat < 0x20) :
    stringBody none (0x5C :: 0x75 :: 0x30 :: 0x30 :: byte (hexDigit (c.toNat / 16))
      :: byte (hexDigit (c.toNat % 16)) :: more)
      = pushBytes none (String.utf8EncodeChar c) (stringBody none more) := by
  have hhigh := hexValue?_hexDigit (c.toNat / 16) (by omega)
  have hlow := hexValue?_hexDigit (c.toNat % 16) (by omega)
  have hzero : hexValue? 0x30 = some 0 := by decide
  have hvalue : hexValue4? 0x30 0x30 (byte (hexDigit (c.toNat / 16)))
      (byte (hexDigit (c.toNat % 16))) = some c.toNat := by
    unfold hexValue4?
    rw [hhigh, hlow, hzero]
    show some _ = some _
    congr 1
    omega
  -- below 0x20 no number is half of a pair, so the escape is read by itself
  have hhalf : isHighSurrogate c.toNat = false := by
    unfold isHighSurrogate
    rw [decide_eq_false (by omega), Bool.false_and]
  have hhalf' : isLowSurrogate c.toNat = false := by
    unfold isLowSurrogate
    rw [decide_eq_false (by omega), Bool.false_and]
  rw [stringBody]
  simp only [hvalue, hhalf, hhalf', Char.ofNat_toNat, Bool.false_eq_true, if_false]

/-- The bytes of a character that needs no escape stand for themselves. -/
theorem plain_of_mem_utf8EncodeChar {c : Char} (hquote : c ≠ '"') (hbackslash : c ≠ '\\')
    (hcontrol : ¬ c.toNat < 0x20) (hb : b ∈ String.utf8EncodeChar c) :
    b ≠ 0x22 ∧ b ≠ 0x5C ∧ ¬ b < 0x20 := by
  by_cases hascii : c.toNat < 0x80
  · rw [utf8EncodeChar_ascii hascii, List.mem_singleton] at hb
    have hb' : b.toNat = c.toNat := by
      rw [hb, byte]
      show c.toNat % 256 = c.toNat
      omega
    refine ⟨?_, ?_, ?_⟩
    · rintro rfl
      exact hquote (Char.ext (UInt32.toNat_inj.mp hb'.symm))
    · rintro rfl
      exact hbackslash (Char.ext (UInt32.toNat_inj.mp hb'.symm))
    · rw [UInt8.lt_iff_toNat_lt, hb']
      exact hcontrol
  · have hle := le_of_mem_utf8EncodeChar (by omega) hb
    rw [UInt8.le_iff_toNat_le] at hle
    have hle' : 0x80 ≤ b.toNat := hle
    refine ⟨?_, ?_, ?_⟩
    · rintro rfl
      exact absurd hle' (by decide)
    · rintro rfl
      exact absurd hle' (by decide)
    · rw [UInt8.lt_iff_toNat_lt]
      show ¬ b.toNat < 0x20
      omega

/-- **A character is read back as it was written.** -/
theorem stringBody_escapeChar (c : Char) :
    stringBody none (utf8 (escapeChar c) ++ more)
      = pushBytes none (String.utf8EncodeChar c) (stringBody none more) := by
  unfold escapeChar
  -- the seven short escapes
  iterate 7
    split
    · rename_i hc
      rw [hc]
      exact stringBody_short (by decide) (by decide)
  split
  · rename_i hcontrol
    have hhigh := utf8EncodeChar_ascii (toNat_hexDigit_lt (c.toNat / 16) (by omega))
    have hlow := utf8EncodeChar_ascii (toNat_hexDigit_lt (c.toNat % 16) (by omega))
    simp only [utf8_cons, utf8_nil, hhigh, hlow]
    exact stringBody_control hcontrol
  · rename_i hquote hbackslash _ _ _ _ _ hcontrol
    rw [utf8_cons, utf8_nil, List.append_nil]
    exact stringBody_plains fun b hb => plain_of_mem_utf8EncodeChar hquote hbackslash hcontrol hb

theorem stringBody_escaped (text : List Char) (rest : Bytes) :
    stringBody none (utf8 (text.flatMap escapeChar) ++ 0x22 :: rest)
      = some (some (utf8 text), rest) := by
  induction text with
  | nil => rfl
  | cons c cs ih =>
    rw [List.flatMap_cons, utf8_append, List.append_assoc, stringBody_escapeChar, ih,
      pushBytes_none]
    rfl

theorem utf8_quoted (s : String) :
    utf8 (quoted s) = 0x22 :: (utf8 (s.toList.flatMap escapeChar) ++ [0x22]) := by
  rw [quoted, List.cons_append, utf8_cons, utf8_append]
  rfl

/-- **A text in quotes is read back as it was written.** -/
theorem string?_quoted (s : String) (rest : Bytes) :
    string? (utf8 (s.toList.flatMap escapeChar) ++ 0x22 :: rest) = some (some s, rest) := by
  rw [string?, stringBody_escaped, Option.map_some]
  show some ((some (utf8 s.toList)).bind textOfBytes?, rest) = some (some s, rest)
  rw [Option.bind_some, textOfBytes?_utf8]

end Agenda.Json

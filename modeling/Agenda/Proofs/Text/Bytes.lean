import Agenda.Text.Bytes
import Mathlib.Data.List.Basic

/-!
# What editing by bytes does to the characters

Where a byte is that of a number of characters, it never lies within a character
(`isValid_byteIndex`). Putting in a character there always works (`insertAt?_byteIndex`) and taking
one out works exactly if there is one (`removeAt?_byteIndex`), and both do what they do on the list
of characters.
-/

namespace Agenda.Text

variable {text : List Char} {chars : ℕ}

theorem byteIndex_eq (text : List Char) (chars : ℕ) :
    byteIndex text chars = (String.ofList (text.take chars)).rawEndPos := by
  have hsize : ∀ l : List Char, l.foldr (fun ch bytes => ch.utf8Size + bytes) 0
      = (String.ofList l).utf8ByteSize := by
    intro l
    induction l with
    | nil => rfl
    | cons c rest ih =>
      rw [List.foldr_cons, ih, String.ofList_cons, String.utf8ByteSize_append,
        String.utf8ByteSize_singleton]
  exact congrArg String.Pos.Raw.mk (hsize _)

theorem ofList_take_append_drop (text : List Char) (chars : ℕ) :
    String.ofList text = String.ofList (text.take chars) ++ String.ofList (text.drop chars) := by
  rw [← String.ofList_append, List.take_append_drop]

/-- **The byte of a number of characters does not lie within a character.** -/
theorem isValid_byteIndex (text : List Char) (chars : ℕ) :
    (byteIndex text chars).IsValid (String.ofList text) :=
  String.Pos.Raw.isValid_iff_exists_append.mpr
    ⟨_, _, ofList_take_append_drop text chars, byteIndex_eq text chars⟩

/-- The place at that byte is behind these characters. -/
theorem splits_byteIndex (h : (byteIndex text chars).IsValid (String.ofList text)) :
    ((String.ofList text).pos (byteIndex text chars) h).Splits
      (String.ofList (text.take chars)) (String.ofList (text.drop chars)) :=
  ⟨ofList_take_append_drop text chars, String.offset_pos.trans (byteIndex_eq text chars)⟩

/-- **A character is put in behind a number of characters.** -/
theorem insertAt?_byteIndex (text : List Char) (chars : ℕ) (ch : Char) :
    insertAt? (String.ofList text) (byteIndex text chars) ch
      = some (String.ofList (text.take chars ++ ch :: text.drop chars)) := by
  have hsplits := splits_byteIndex (isValid_byteIndex text chars)
  unfold insertAt?
  rw [dif_pos (isValid_byteIndex text chars)]
  dsimp only
  rw [hsplits.copy_sliceTo_eq, hsplits.copy_sliceFrom_eq, String.ofList_append, String.ofList_cons,
    String.append_assoc]

/-- **The character behind a number of characters is taken out, if there is one.** -/
theorem removeAt?_byteIndex (text : List Char) (chars : ℕ) :
    removeAt? (String.ofList text) (byteIndex text chars)
      = if chars < text.length then
          some (String.ofList (text.take chars ++ text.drop (chars + 1)))
        else none := by
  have hvalid := isValid_byteIndex text chars
  have hsplits := splits_byteIndex hvalid
  unfold removeAt?
  rw [dif_pos hvalid]
  dsimp only
  generalize (String.ofList text).pos (byteIndex text chars) hvalid = place at hsplits ⊢
  have hplace : place = (String.ofList text).endPos ↔ text.drop chars = [] := by
    rw [hsplits.eq_endPos_iff, ← String.toList_inj, String.toList_ofList]
    rfl
  split
  · rename_i hend
    rw [if_neg (Nat.not_lt.mpr (List.drop_eq_nil_iff.mp (hplace.mp hend)))]
  · rename_i hend
    have hlt : chars < text.length :=
      Nat.not_le.mp fun hle => hend (hplace.mpr (List.drop_eq_nil_iff.mpr hle))
    -- behind the place there are the character and what stays
    have hrest := hsplits.eq_right (place.splits_next_right hend)
    rw [List.drop_eq_getElem_cons hlt, String.ofList_cons, ← String.toList_inj,
      String.toList_append, String.toList_append, String.toList_singleton,
      String.toList_singleton] at hrest
    have hstays := String.toList_injective (List.cons.inj hrest).2
    rw [if_pos hlt, hsplits.copy_sliceTo_eq, ← hstays, String.ofList_append]

end Agenda.Text

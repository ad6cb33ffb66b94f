import Agenda.Proofs.Text.Words
import Agenda.Storage.Path

/-!
# Paths that end in a name

The name that ends a path has no slash in it (`noSlash_of_fileName?`), and a path joined from a
folder and a plain name ends in that name (`getLast?_parts_join`) and does not ask for a folder
(`asksForFolder_join`).
-/

namespace Agenda

namespace Path

/-! ### Plain names -/

/-- A text that stands between slashes and names something. -/
structure IsPlain (text : String) : Prop where
  noSlash : '/' ∉ text.toList
  ne_empty : text ≠ ""
  ne_here : text ≠ "."
  ne_up : text ≠ ".."

variable {text base path name : String}

theorem part?_of_isPlain (h : IsPlain text) : parts.part? text = some (.name text) := by
  unfold parts.part?
  split
  · exact absurd rfl h.ne_empty
  · exact absurd rfl h.ne_here
  · exact absurd rfl h.ne_up
  · rfl

theorem eq_of_part? (h : parts.part? text = some (.name name)) : text = name := by
  unfold parts.part? at h
  split at h
  · cases h
  · cases h
  · cases h
  · cases h
    rfl

theorem noSlash_of_mem_texts (h : text ∈ texts path) : '/' ∉ text.toList := by
  obtain ⟨field, hfield, rfl⟩ := List.mem_map.mp h
  intro hslash
  rw [String.toList_ofList] at hslash
  have := Text.not_isSeparator_of_mem_fields hfield '/' hslash
  simp at this

/-- The texts of a path that continues a folder by a plain name. -/
theorem exists_texts_join (base : String) (h : IsPlain text) :
    ∃ before, texts (join base text) = before ++ [text] := by
  have hfields : Text.fields (· == '/') text.toList = [text.toList] := by
    refine Text.fields_of_not_mem fun c hc => ?_
    rw [beq_eq_false_iff_ne]
    rintro rfl
    exact h.noSlash hc
  have habsolute : isAbsolute text = false := by
    unfold isAbsolute
    rw [beq_eq_false_iff_ne]
    intro hhead
    exact h.noSlash (List.mem_of_mem_head? hhead)
  unfold join texts
  rw [habsolute, if_neg Bool.false_ne_true]
  -- a slash is put between the two unless the first one is empty or ends in one
  split
  · rename_i hbase
    rw [Bool.or_eq_true, beq_iff_eq, String.isEmpty_iff] at hbase
    rcases hbase with rfl | hbase
    · exact ⟨[], by simp [hfields]⟩
    · obtain ⟨before, hbefore⟩ := List.getLast?_eq_some_iff.mp hbase
      refine ⟨(Text.fields (· == '/') before).map String.ofList, ?_⟩
      rw [String.toList_append, hbefore, List.append_assoc, List.singleton_append,
        Text.fields_append_cons (by rfl), hfields]
      simp
  · refine ⟨(Text.fields (· == '/') base.toList).map String.ofList, ?_⟩
    have hlist : (base ++ "/" ++ text).toList = base.toList ++ '/' :: text.toList := by
      simp
    rw [hlist, Text.fields_append_cons (by rfl), hfields]
    simp

theorem asksForFolder_join (h : IsPlain text) : asksForFolder (join base text) = false := by
  obtain ⟨before, hbefore⟩ := exists_texts_join base h
  unfold asksForFolder
  rw [hbefore, List.reverse_append, List.reverse_singleton, List.singleton_append]
  split
  · rename_i heq
    obtain ⟨rfl, -⟩ := List.cons.inj heq
    simp [h.ne_empty, h.ne_here]
  · rfl

/-- **A path joined from a folder and a plain name ends in the name.** -/
theorem getLast?_parts_join (h : IsPlain text) :
    (parts (join base text)).getLast? = some (.name text) := by
  obtain ⟨before, hbefore⟩ := exists_texts_join base h
  unfold parts
  rw [hbefore]
  -- only the first text of a path is read in a way of its own
  cases before with
  | nil =>
    rw [List.nil_append]
    split
    · rename_i heq
      cases heq
    · rename_i heq
      cases heq
      exact absurd rfl h.ne_here
    · rename_i heq
      cases heq
      simp [part?_of_isPlain h]
    · rename_i heq
      cases heq
  | cons first rest =>
    have hrest : ((first :: rest ++ [text]).drop 1).filterMap parts.part?
        = rest.filterMap parts.part? ++ [.name text] := by
      rw [List.cons_append, List.drop_one, List.tail_cons, List.filterMap_append]
      simp [part?_of_isPlain h]
    simp only [hrest]
    split
    · rw [List.getLast?_cons, List.getLast?_concat]
      rfl
    · rw [List.getLast?_cons, List.getLast?_concat]
      rfl
    · rw [← List.append_assoc, List.getLast?_concat]
    · rename_i heq
      cases heq

theorem getLast?_parts_of_fileName? (h : fileName? path = some name) :
    (parts path).getLast? = some (.name name) := by
  unfold fileName? at h
  split at h
  · rename_i heq
    cases h
    exact heq
  · cases h

/-- The file name of a path is one of its texts. -/
theorem mem_texts_of_fileName? (h : fileName? path = some name) : name ∈ texts path := by
  have hmem := List.mem_of_getLast? (getLast?_parts_of_fileName? h)
  have hdrop : ∀ part ∈ ((texts path).drop 1).filterMap parts.part?, part = .name name →
      name ∈ texts path := by
    rintro part hpart rfl
    obtain ⟨text, htext, hpart⟩ := List.mem_filterMap.mp hpart
    rw [← eq_of_part? hpart]
    exact List.mem_of_mem_drop htext
  unfold parts at hmem
  dsimp only at hmem
  -- the name is the first text or one of the others, however the first one is read
  split at hmem
  · rcases List.mem_cons.mp hmem with hmem | hmem
    · cases hmem
    · exact hdrop _ hmem rfl
  · rcases List.mem_cons.mp hmem with hmem | hmem
    · cases hmem
    · exact hdrop _ hmem rfl
  · rename_i first rest _ _ heq
    rcases List.mem_append.mp hmem with hmem | hmem
    · rw [heq, ← eq_of_part? (Option.mem_toList.mp hmem)]
      exact List.mem_cons_self ..
    · exact hdrop _ hmem rfl
  · cases hmem

theorem noSlash_of_fileName? (h : fileName? path = some name) : '/' ∉ name.toList :=
  noSlash_of_mem_texts (mem_texts_of_fileName? h)

end Path

end Agenda

import Agenda.Proofs.Text.CaseContext
import Agenda.Store.Basic

/-!
# Finding tasks by their descriptions

A text is looked for in the descriptions letter for letter, or case disregarded, that is in lower
case. Disregarding case finds more: whatever is found letter for letter is found in lower case as
well, for all texts but those whose lower case depends on what is around them
(`Store.finds_more_case_disregarded`). A text with such a loose sigma is still found where it is a
word of its own.
-/

namespace Agenda

open Text
open scoped List

/-! ### Texts within texts -/

namespace Text

/-- **A text occurs in another one exactly if it is a stretch of it.** -/
theorem occursIn_iff {text other : List Char} : occursIn text other = true ↔ text <:+: other := by
  induction other with
  | nil => rw [occursIn, List.isEmpty_iff, List.infix_nil]
  | cons c cs ih =>
    rw [occursIn, Bool.or_eq_true, List.isPrefixOf_iff_prefix, ih, List.infix_cons_iff]

theorem isWithin_true_iff {text other : String} :
    isWithin true text other = true ↔ text.toList <:+: other.toList := by
  rw [isWithin, if_pos rfl, occursIn_iff]

theorem isWithin_false_iff {text other : String} :
    isWithin false text other = true ↔ lower text.toList <:+: lower other.toList := by
  rw [isWithin, if_neg Bool.false_ne_true, occursIn_iff]

end Text

namespace Store

variable {s : Store} {t : Task} {keyword : String}

theorem mem_findText {caseSensitive : Bool} : t ∈ s.findText keyword caseSensitive ↔
    t ∈ s.tasks ∧ isWithin caseSensitive keyword t.description = true :=
  List.mem_filter

/-- What is found letter for letter is found in lower case if the keyword has no loose sigma. -/
theorem findText_sublist (h : ¬HasLooseSigma keyword.toList) (s : Store) :
    s.findText keyword true <+ s.findText keyword false := by
  refine List.monotone_filter_right _ fun t hfound => ?_
  exact isWithin_false_iff.mpr (lower_infix_iff.mpr h _ (isWithin_true_iff.mp hfound))

/-- **Disregarding case finds more, unless the keyword has a loose sigma.** The tasks found letter
for letter are among those found in lower case, in every list, exactly if no sigma of the keyword is
loose. A keyword that stands in the description of a task finds the task letter for letter; it finds
it in lower case if no sigma of the keyword is loose, or if no letter adjoins the keyword there. And
the whole description of a task finds it in both ways. -/
theorem finds_more_case_disregarded (keyword : String) :
    ((∀ s : Store, s.findText keyword true <+ s.findText keyword false) ↔
      ¬HasLooseSigma keyword.toList) ∧
    (∀ s : Store, ∀ t ∈ s.tasks, ∀ before after,
      t.description.toList = before ++ keyword.toList ++ after →
        t ∈ s.findText keyword true ∧
        (¬HasLooseSigma keyword.toList ∨
          meetsCased before.reverse = false ∧ meetsCased after = false →
            t ∈ s.findText keyword false)) ∧
    ∀ s : Store, ∀ t ∈ s.tasks, t.description = keyword →
      ∀ caseSensitive, t ∈ s.findText keyword caseSensitive := by
  refine ⟨⟨fun hmore hloose => ?_, findText_sublist⟩, ?_, ?_⟩
  · -- a list of one task that has the keyword in its description, but not in lower case
    obtain ⟨other, hpart, hnot⟩ := exists_not_infix_lower hloose
    let t : Task := { description := String.ofList other }
    let s : Store := { list := { tasks := [t] }, repository := .memory [] false }
    have hfound : t ∈ s.findText keyword true := by
      refine mem_findText.mpr ⟨List.mem_singleton_self t, isWithin_true_iff.mpr ?_⟩
      rwa [String.toList_ofList]
    obtain ⟨-, hwithin⟩ := mem_findText.mp ((hmore s).subset hfound)
    rw [isWithin_false_iff, String.toList_ofList] at hwithin
    exact hnot hwithin
  · intro s t ht before after hdescription
    constructor
    · refine mem_findText.mpr ⟨ht, isWithin_true_iff.mpr ?_⟩
      rw [hdescription]
      exact List.infix_append ..
    · intro hfixed
      refine mem_findText.mpr ⟨ht, isWithin_false_iff.mpr ?_⟩
      rw [hdescription]
      -- within the description, the keyword is put into lower case as it is by itself
      refine infix_lower_of_eq ?_
      rcases hfixed with hfixed | ⟨hbefore, hafter⟩
      · exact lowerWithin_of_not_hasLooseSigma hfixed _ _
      · exact lowerWithin_of_apart hbefore hafter _
  · rintro s t ht rfl caseSensitive
    refine mem_findText.mpr ⟨ht, ?_⟩
    cases caseSensitive with
    | true => exact isWithin_true_iff.mpr (List.infix_refl _)
    | false => exact isWithin_false_iff.mpr (List.infix_refl _)

/-- A road is found by the word for it where this stands by itself. -/
theorem road_found_as_word :
    let t : Task := { description := "Η ΟΔΟΣ ΜΑΣ" }
    let s : Store := { list := { tasks := [t] }, repository := .memory [] false }
    t ∈ s.findText "ΟΔΟΣ" true ∧ t ∈ s.findText "ΟΔΟΣ" false := by
  intro t s
  have hdescription :
      t.description.toList = ['Η', ' '] ++ "ΟΔΟΣ".toList ++ [' ', 'Μ', 'Α', 'Σ'] := by
    decide +kernel
  obtain ⟨hexact, hlower⟩ := (finds_more_case_disregarded "ΟΔΟΣ").2.1 s t
    (List.mem_singleton_self t) ['Η', ' '] [' ', 'Μ', 'Α', 'Σ'] hdescription
  exact ⟨hexact, hlower (Or.inr (by decide +kernel))⟩

/-- A word that goes on is not found by its beginning in lower case, if that ends with a sigma. -/
theorem roadway_not_found_by_road :
    let t : Task := { description := "ΟΔΟΣΤΡΩΜΑ" }
    let s : Store := { list := { tasks := [t] }, repository := .memory [] false }
    t ∈ s.findText "ΟΔΟΣ" true ∧ t ∉ s.findText "ΟΔΟΣ" false := by
  decide +kernel

end Store

end Agenda

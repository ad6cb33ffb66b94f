import Agenda.Proofs.Language.Command
import Agenda.Proofs.Language.Edit

/-!
# Edits of tags as operations on sets

An edit goes through the changes of tags that its body asks for twice, in their order: first it
takes names out of the set, then it puts names in, one by one, as long as there is room. What comes
of it does not depend on any of this. The tags are those that stay with those that are added
(`tagsAfter`), and the edit succeeds exactly if these names, all of them together, are not too many
(`exists_edited_iff`). An edit of several tasks is carried out for all of them or for none, since
the first task that would get too many tags has the whole line refused.

`edits_are_set_operations` puts this together.
-/

namespace Agenda

namespace Action

variable {tags tags' : TagSet} {changes changes' : List TagChange} {x : String}

/-! ### Tags after an edit -/

/-- The names that are left of a tag set and those that are added to them. -/
def tagsAfter (changes : List TagChange) (tags : TagSet) : Finset String :=
  (if .clear ∈ changes then ∅ else tags.toFinset \ removed changes) ∪ added changes

theorem tagsAfter_congr (h : ∀ change, change ∈ changes ↔ change ∈ changes') (tags : TagSet) :
    tagsAfter changes tags = tagsAfter changes' tags := by
  have hadded : added changes = added changes' := by
    ext x
    rw [mem_added, mem_added, h]
  have hremoved : removed changes = removed changes' := by
    ext x
    rw [mem_removed, mem_removed, h]
  simp only [tagsAfter, hadded, hremoved, h]

theorem toFinset_loseTags (tags : TagSet) (changes : List TagChange) :
    (loseTags tags changes).toFinset =
      if .clear ∈ changes then ∅ else tags.toFinset \ removed changes := by
  ext x
  rw [TagSet.mem_toFinset, mem_loseTags]
  split
  · simp_all
  · simp_all [mem_removed]

/-! ### Edited tasks -/

variable {t after : Task} {body : Body} {period : Option Period}

/-- **What an edit makes of a task.** -/
theorem edited_eq_ok_iff : edited t body period = .ok after ↔
    after.tags.toFinset = tagsAfter body.tags t.tags ∧
      after.description = (if body.description = "" then t.description else body.description) ∧
      after.starts = period.elim (if body.dropsTime then none else t.starts) Period.starts ∧
      after.ends = period.elim (if body.dropsTime then none else t.ends)
        (fun period => some period.ends) ∧
      after.done = t.done := by
  rw [tagsAfter, ← toFinset_loseTags, ← gainTags_eq_ok_iff]
  constructor
  · intro h
    have hedited := edited_spec h
    exact ⟨hedited.tags, hedited.description, hedited.starts, hedited.ends, hedited.done⟩
  · rintro ⟨htags, hdescription, hstarts, hends, hdone⟩
    exact edited_of_spec ⟨hdescription, htags, hstarts, hends, hdone⟩

/-- **An edit succeeds** exactly if there are not too many tags in the end. -/
theorem exists_edited_iff : (∃ after, edited t body period = .ok after) ↔
    (tagsAfter body.tags t.tags).card ≤ maximumTags := by
  rw [tagsAfter, ← toFinset_loseTags, ← exists_gainTags_iff]
  constructor
  · rintro ⟨after, hafter⟩
    exact ⟨after.tags, (edited_spec hafter).tags⟩
  · rintro ⟨tags, htags⟩
    unfold edited
    rw [htags]
    exact ⟨_, rfl⟩

theorem edited_of_error {cause : Refusal} (h : edited t body period = .error cause) :
    cause = .tooManyTags := by
  unfold edited at h
  cases htags : gainTags (loseTags t.tags body.tags) body.tags with
  | ok tags =>
    rw [htags] at h
    cases h
  | error other =>
    rw [htags] at h
    cases h
    exact gainTags_of_error htags

/-- **The order of changes and their repetition make no difference.** -/
theorem edited_congr (h : ∀ change, change ∈ changes ↔ change ∈ body.tags) :
    edited t { body with tags := changes } period = edited t body period := by
  have hset := tagsAfter_congr h t.tags
  have hok : ∀ after, edited t { body with tags := changes } period = .ok after ↔
      edited t body period = .ok after := by
    intro after
    rw [edited_eq_ok_iff, edited_eq_ok_iff, hset]
  cases hedited : edited t body period with
  | ok after => exact (hok after).mpr hedited
  | error cause =>
    cases hother : edited t { body with tags := changes } period with
    | ok after =>
      rw [(hok after).mp hother] at hedited
      cases hedited
    -- both fail, and there is only one cause that an edit can fail for
    | error other => rw [edited_of_error hedited, edited_of_error hother]

/-! ### Edits of several tasks -/

variable {targets : List Target} {revisions : List Revision}

/-- The edits of targets are those of each of them. -/
theorem edits_eq_ok_iff : edits body period targets = .ok revisions ↔
    List.Forall₂ (fun (target : Target) (r : Revision) =>
      r.position = target.position ∧ r.before = target.task ∧
        edited target.task body period = .ok r.after) targets revisions := by
  refine ⟨edits_spec, fun h => ?_⟩
  induction h with
  | nil => rfl
  | @cons target r _ _ hr _ ih =>
    obtain ⟨hposition, hbefore, hafter⟩ := hr
    rw [edits, hafter, ih, ← hposition, ← hbefore]

/-- **Several tasks are edited** exactly if each of them can be. -/
theorem exists_edits_iff : (∃ revisions, edits body period targets = .ok revisions) ↔
    ∀ target ∈ targets, ∃ after, edited target.task body period = .ok after := by
  constructor
  · rintro ⟨revisions, hrevisions⟩ target htarget
    have hall := edits_spec hrevisions
    clear hrevisions
    -- along the targets and their revisions side by side
    induction hall with
    | nil => cases htarget
    | @cons first r _ _ hr _ ih =>
      rcases List.mem_cons.mp htarget with rfl | htarget
      · exact ⟨r.after, hr.2.2⟩
      · exact ih htarget
  · intro h
    induction targets with
    | nil => exact ⟨[], rfl⟩
    | cons target rest ih =>
      obtain ⟨⟨after, hafter⟩, hrest⟩ := List.forall_mem_cons.mp h
      obtain ⟨revisions, hrevisions⟩ := ih hrest
      refine ⟨⟨target.position, target.task, after⟩ :: revisions, ?_⟩
      rw [edits, hafter, hrevisions]

theorem edits_of_error {cause : Refusal} (h : edits body period targets = .error cause) :
    cause = .tooManyTags := by
  induction targets with
  | nil => cases h
  | cons target rest ih =>
    unfold edits at h
    split at h
    · rename_i hedited
      cases h
      exact edited_of_error hedited
    · split at h
      · rename_i hrest
        cases h
        exact ih hrest
      · cases h

variable {l : TaskList} {text : String} {now : DateTime}

theorem edit_eq_read_iff {c : Command} (h : AsksForEdit l text now targets body period) :
    edit l text now = .read c ↔
      ∃ revisions, c = .edit revisions ∧ edits body period targets = .ok revisions := by
  rw [edit_of_asksForEdit h, Reading.ofExcept_eq_read_iff]
  cases edits body period targets with
  | ok revisions => simp [Except.map, eq_comm]
  | error cause => simp [Except.map]

/-- **An edit is refused as a whole** if it cannot be carried out for all tasks. -/
theorem edit_eq_refused_iff (h : AsksForEdit l text now targets body period) :
    edit l text now = .refused .tooManyTags ↔
      ¬ ∃ revisions, edits body period targets = .ok revisions := by
  rw [edit_of_asksForEdit h]
  cases hedits : edits body period targets with
  | ok revisions => simp [Except.map, Reading.ofExcept]
  | error cause => simp [Except.map, Reading.ofExcept, edits_of_error hedits]

/-- **Edits are operations on sets of tags, for all tasks or for none.** An edit of a task succeeds
exactly if the tags that it leaves are not too many all together, and these are the tags then,
whatever the order and the repetition of the changes; the description, the times and the mark are
those of the body and the period as far as these have any. Commands to edit come of texts that ask
for an edit only, and such a text is read as a command exactly if the edit succeeds for each of the
tasks that it names. Otherwise it is refused as a whole. -/
theorem edits_are_set_operations :
    (∀ (t after : Task) (body : Body) (period : Option Period),
      edited t body period = .ok after ↔
        after.tags.toFinset = tagsAfter body.tags t.tags ∧
        after.description = (if body.description = "" then t.description else body.description) ∧
        after.starts = period.elim (if body.dropsTime then none else t.starts) Period.starts ∧
        after.ends = period.elim (if body.dropsTime then none else t.ends)
          (fun period => some period.ends) ∧
        after.done = t.done) ∧
    (∀ (t : Task) (body : Body) (period : Option Period),
      (∃ after, edited t body period = .ok after) ↔
        (tagsAfter body.tags t.tags).card ≤ maximumTags) ∧
    (∀ (t : Task) (body : Body) (period : Option Period) (changes : List TagChange),
      (∀ change, change ∈ changes ↔ change ∈ body.tags) →
        edited t { body with tags := changes } period = edited t body period) ∧
    (∀ (l : TaskList) (text : String) (now : DateTime) (c : Command), edit l text now = .read c →
      ∃ targets body period, AsksForEdit l text now targets body period) ∧
    ∀ (l : TaskList) (text : String) (now : DateTime) (targets : List Target) (body : Body)
      (period : Option Period), AsksForEdit l text now targets body period →
      (∀ c, edit l text now = .read c ↔ ∃ revisions, c = .edit revisions ∧
        List.Forall₂ (fun (target : Target) (r : Revision) =>
          r.position = target.position ∧ r.before = target.task ∧
            edited target.task body period = .ok r.after) targets revisions) ∧
      ((∃ c, edit l text now = .read c) ↔
        ∀ target ∈ targets, ∃ after, edited target.task body period = .ok after) ∧
      (edit l text now = .refused .tooManyTags ↔
        ∃ target ∈ targets, maximumTags < (tagsAfter body.tags target.task.tags).card) := by
  refine ⟨fun _ _ _ _ => edited_eq_ok_iff, fun _ _ _ => exists_edited_iff,
    fun _ _ _ _ => edited_congr, ?_, ?_⟩
  · intro l text now c h
    obtain ⟨targets, body, period, -, hasks, -, -⟩ := exists_of_edit h
    exact ⟨targets, body, period, hasks⟩
  intro l text now targets body period hasks
  refine ⟨fun c => ?_, ?_, ?_⟩
  · simp only [← edits_eq_ok_iff, edit_eq_read_iff hasks]
  · simp only [← exists_edits_iff, edit_eq_read_iff hasks]
    constructor
    · rintro ⟨_, revisions, -, hrevisions⟩
      exact ⟨revisions, hrevisions⟩
    · rintro ⟨revisions, hrevisions⟩
      exact ⟨_, revisions, rfl, hrevisions⟩
  · rw [edit_eq_refused_iff hasks, exists_edits_iff]
    simp only [exists_edited_iff, not_forall, not_le, exists_prop]

/-- With one task that has ten tags and one that has none, a tag for both of them takes the place of
one that the first task loses, and there is no place for it otherwise. -/
theorem eleventh_tag_needs_a_place :
    let full : Task :=
      { description := "tea"
        tags := ⟨["a", "b", "c", "d", "e", "f", "g", "h", "i", "j"], by decide, by decide⟩ }
    let plain : Task := { description := "milk" }
    let l : TaskList := { tasks := [full, plain] }
    let now : DateTime := ⟨⟨20000, by decide, by decide⟩, .midnight⟩
    let targets : List Target := [⟨0, full⟩, ⟨1, plain⟩]
    AsksForEdit l "1-2 #k #-a #k" now targets { tags := [.add "k", .remove "a", .add "k"] } none ∧
    (∃ c, edit l "1-2 #k #-a #k" now = .read c) ∧
    AsksForEdit l "1-2 #k" now targets { tags := [.add "k"] } none ∧
    edit l "1-2 #k" now = .refused .tooManyTags := by
  intro full plain l now targets
  have hnamed : l.Named (String.ofList ['1', '-', '2']) targets := by
    refine ⟨⟨by decide, ?_⟩, by decide +kernel⟩
    exact List.forall_mem_cons.mpr ⟨rfl, List.forall_mem_singleton.mpr rfl⟩
  have hplace : AsksForEdit l "1-2 #k #-a #k" now targets
      { tags := [.add "k", .remove "a", .add "k"] } none :=
    ⟨['1', '-', '2'], by decide +kernel, hnamed, by decide +kernel, rfl, rfl⟩
  have hnoPlace : AsksForEdit l "1-2 #k" now targets { tags := [.add "k"] } none :=
    ⟨['1', '-', '2'], by decide +kernel, hnamed, by decide +kernel, rfl, rfl⟩
  obtain ⟨-, hedited, -, -, hedit⟩ := edits_are_set_operations
  refine ⟨hplace, ?_, hnoPlace, ?_⟩
  · refine (hedit _ _ _ _ _ _ hplace).2.1.mpr ?_
    -- `#k` takes the place of `#a`
    simp only [hedited]
    decide +kernel
  · -- the first task would have eleven tags
    refine (hedit _ _ _ _ _ _ hnoPlace).2.2.mpr ?_
    decide +kernel

end Action

end Agenda

import Agenda.Language.Action
import Agenda.Proofs.Task.TagSet

/-!
# What additions and edits make of tags

An edited task keeps the tags that it does not lose and gets those that the body adds
(`mem_loseTags`, `mem_gainTags`). Names are put in one by one, as long as there is room, but on the
way they only make up subsets of what they are in the end, so it is the end that counts
(`gainTags_eq_ok_iff`). The tags of a new task are gained in the same way (`newTags_eq_ok_iff`). An
edit carried out once more changes nothing (`edited_idem`).
-/

namespace Agenda

namespace Action

variable {tags tags' all : TagSet} {changes : List TagChange} {x : String}

/-! ### The names that changes are about -/

/-- The names that changes of tags add. -/
def added (changes : List TagChange) : Finset String :=
  (changes.filterMap fun
    | .add name => some name
    | _ => none).toFinset

/-- The names that changes of tags remove. -/
def removed (changes : List TagChange) : Finset String :=
  (changes.filterMap fun
    | .remove name => some name
    | _ => none).toFinset

/-- Names are picked from the changes that ask for something. -/
theorem mem_toFinset_filterMap {name? : TagChange → Option String} {ask : String → TagChange}
    (h : ∀ change, name? change = some x ↔ change = ask x) :
    x ∈ (changes.filterMap name?).toFinset ↔ ask x ∈ changes := by
  rw [List.mem_toFinset, List.mem_filterMap]
  simp only [h, exists_eq_right]

theorem mem_added : x ∈ added changes ↔ .add x ∈ changes := by
  apply mem_toFinset_filterMap
  intro change
  cases change <;> simp

theorem mem_removed : x ∈ removed changes ↔ .remove x ∈ changes := by
  apply mem_toFinset_filterMap
  intro change
  cases change <;> simp

/-! ### Losing and gaining tags -/

theorem mem_loseTags : x ∈ loseTags tags changes ↔
    x ∈ tags ∧ .clear ∉ changes ∧ .remove x ∉ changes := by
  unfold loseTags
  induction changes generalizing tags with
  | nil => simp
  | cons change rest ih =>
    rw [List.foldl_cons, ih]
    cases change with
    | add name => simp
    | remove name =>
      simp only [TagSet.mem_erase, List.mem_cons, TagChange.remove.injEq, reduceCtorEq]
      tauto
    | clear => simp

theorem mem_gainTags (h : gainTags tags changes = .ok tags') :
    x ∈ tags' ↔ x ∈ tags ∨ .add x ∈ changes := by
  induction changes generalizing tags with
  | nil =>
    cases h
    simp
  | cons change rest ih =>
    cases change with
    | add name =>
      unfold gainTags at h
      split at h
      · rename_i more hmore
        rw [ih h, TagSet.mem_insert? hmore, List.mem_cons, TagChange.add.injEq]
        tauto
      · cases h
    | remove name =>
      rw [ih h]
      simp
    | clear =>
      rw [ih h]
      simp

theorem toFinset_gainTags (h : gainTags tags changes = .ok tags') :
    tags'.toFinset = tags.toFinset ∪ added changes := by
  ext x
  rw [TagSet.mem_toFinset, mem_gainTags h, Finset.mem_union, TagSet.mem_toFinset, mem_added]

theorem union_added_cons (name : String) (rest : List TagChange) (tags : TagSet) :
    tags.toFinset ∪ added (.add name :: rest) = insert name tags.toFinset ∪ added rest := by
  ext x
  simp only [Finset.mem_union, Finset.mem_insert, mem_added, List.mem_cons, TagChange.add.injEq]
  tauto

/-- Names that are not too many all together can be put in one by one. -/
theorem exists_gainTags (h : (tags.toFinset ∪ added changes).card ≤ maximumTags) :
    ∃ tags', gainTags tags changes = .ok tags' := by
  induction changes generalizing tags with
  | nil => exact ⟨tags, rfl⟩
  | cons change rest ih =>
    cases change with
    | add name =>
      rw [union_added_cons] at h
      -- no names but those of the union are put in on the way, so there is a place for each
      have hinsert : (insert name tags.toFinset).card ≤ maximumTags :=
        (Finset.card_le_card Finset.subset_union_left).trans h
      obtain ⟨more, hmore⟩ := TagSet.exists_insert?_iff.mpr hinsert
      rw [← TagSet.toFinset_insert? hmore] at h
      obtain ⟨tags', htags'⟩ := ih h
      refine ⟨tags', ?_⟩
      rw [gainTags, hmore]
      exact htags'
    | remove name => exact ih h
    | clear => exact ih h

/-- **Tags are gained all together**, whatever the order in which they are put in. -/
theorem gainTags_eq_ok_iff :
    gainTags tags changes = .ok tags' ↔ tags'.toFinset = tags.toFinset ∪ added changes := by
  refine ⟨toFinset_gainTags, fun h => ?_⟩
  have hcard := tags'.card_toFinset_le
  rw [h] at hcard
  -- the names fit into a tag set, and a tag set is known by its names
  obtain ⟨more, hmore⟩ := exists_gainTags hcard
  have hsame : more = tags' := TagSet.toFinset_inj.mp ((toFinset_gainTags hmore).trans h.symm)
  rw [hmore, hsame]

theorem exists_gainTags_iff : (∃ tags', gainTags tags changes = .ok tags') ↔
    (tags.toFinset ∪ added changes).card ≤ maximumTags := by
  refine ⟨?_, exists_gainTags⟩
  rintro ⟨tags', htags'⟩
  rw [← toFinset_gainTags htags']
  exact tags'.card_toFinset_le

/-- Too many tags are the only reason not to gain them. -/
theorem gainTags_of_error {cause : Refusal} (h : gainTags tags changes = .error cause) :
    cause = .tooManyTags := by
  induction changes generalizing tags with
  | nil => cases h
  | cons change rest ih =>
    cases change with
    | add name =>
      unfold gainTags at h
      split at h
      · exact ih h
      · cases h
        rfl
    | remove name => exact ih h
    | clear => exact ih h

/-! ### New tasks -/

/-- A new task gains its tags as an edited one does, but its body can only add tags. -/
theorem newTags_eq_ok_iff : newTags tags changes = .ok tags' ↔
    (∀ change ∈ changes, ∃ name, change = .add name) ∧ gainTags tags changes = .ok tags' := by
  induction changes generalizing tags with
  | nil => simp [newTags, gainTags]
  | cons change rest ih =>
    cases change with
    | add name =>
      rw [newTags, gainTags]
      cases tags.insert? name with
      | some more => simp [ih]
      | none => simp
    | remove name => simp [newTags]
    | clear => simp [newTags]

theorem mem_newTags (h : newTags tags changes = .ok tags') :
    x ∈ tags' ↔ x ∈ tags ∨ .add x ∈ changes :=
  mem_gainTags (newTags_eq_ok_iff.mp h).2

/-- **A new task with the names of a tag set has just these tags.** -/
theorem newTags_eq {names : List String} (h : ∀ x, x ∈ names ↔ x ∈ all) :
    newTags ∅ (names.map .add) = .ok all := by
  have hadds : ∀ change ∈ names.map TagChange.add, ∃ name, change = .add name :=
    List.forall_mem_map.mpr fun name _ => ⟨name, rfl⟩
  have hgain : gainTags ∅ (names.map .add) = .ok all := by
    rw [gainTags_eq_ok_iff]
    ext x
    simp [mem_added, h]
  exact newTags_eq_ok_iff.mpr ⟨hadds, hgain⟩

theorem newTask_spec {body : Body} {t : Task} (h : newTask body = .ok t) :
    body.description ≠ "" ∧ ∃ tags, newTags ∅ body.tags = .ok tags ∧
      t = { description := body.description, tags } := by
  unfold newTask at h
  simp only [bind, Except.bind, pure, Except.pure, throw, throwThe, MonadExceptOf.throw] at h
  split at h
  · cases h
  split at h
  · cases h
  rename_i hdescription
  split at h
  · cases h
  rename_i tags htags
  cases h
  exact ⟨hdescription, tags, htags, rfl⟩

/-! ### Edited tasks -/

variable {t after again : Task} {body : Body} {period : Option Period}

theorem description_withPeriod : (withPeriod t period).description = t.description := by
  cases period <;> rfl

theorem tags_withPeriod : (withPeriod t period).tags = t.tags := by
  cases period <;> rfl

theorem starts_withPeriod : (withPeriod t period).starts = period.elim t.starts Period.starts := by
  cases period <;> rfl

theorem ends_withPeriod :
    (withPeriod t period).ends = period.elim t.ends fun period => some period.ends := by
  cases period <;> rfl

theorem done_withPeriod : (withPeriod t period).done = t.done := by
  cases period <;> rfl

/-- What an edit has made of the parts of a task. -/
structure Edited (t : Task) (body : Body) (period : Option Period) (after : Task) : Prop where
  description : after.description =
    if body.description = "" then t.description else body.description
  tags : gainTags (loseTags t.tags body.tags) body.tags = .ok after.tags
  starts : after.starts =
    period.elim (if body.dropsTime then none else t.starts) Period.starts
  ends : after.ends =
    period.elim (if body.dropsTime then none else t.ends) fun period => some period.ends
  done : after.done = t.done

theorem edited_spec (h : edited t body period = .ok after) : Edited t body period after := by
  unfold edited at h
  cases htags : gainTags (loseTags t.tags body.tags) body.tags with
  | error cause =>
    rw [htags] at h
    cases h
  | ok tags =>
    rw [htags] at h
    cases h
    refine ⟨rfl, htags, ?_, ?_, ?_⟩
    · show (withPeriod _ period).starts = _
      rw [starts_withPeriod, apply_ite Task.starts]
    · show (withPeriod _ period).ends = _
      rw [ends_withPeriod, apply_ite Task.ends]
    · show (withPeriod _ period).done = _
      rw [done_withPeriod, apply_ite Task.done, ite_self]

theorem edited_of_spec (h : Edited t body period after) : edited t body period = .ok after := by
  obtain ⟨other, hother⟩ : ∃ other, edited t body period = .ok other := by
    unfold edited
    rw [h.tags]
    exact ⟨_, rfl⟩
  have h' := edited_spec hother
  -- all parts of the task are given
  have htags : other.tags = after.tags := Except.ok.inj (h'.tags.symm.trans h.tags)
  have hsame : other = after := by
    cases other
    cases after
    simp only [Task.mk.injEq]
    exact ⟨h'.description.trans h.description.symm, htags, h'.starts.trans h.starts.symm,
      h'.ends.trans h.ends.symm, h'.done.trans h.done.symm⟩
  rw [hother, hsame]

/-- Tags that an edit has changed are left as they are by the same edit. -/
theorem gainTags_idem {once twice : TagSet}
    (honce : gainTags (loseTags tags changes) changes = .ok once)
    (htwice : gainTags (loseTags once changes) changes = .ok twice) : twice = once := by
  refine TagSet.ext_mem fun x => ?_
  rw [mem_gainTags htwice, mem_loseTags, mem_gainTags honce, mem_loseTags]
  tauto

/-- **An edit carried out once more changes nothing.** -/
theorem edited_idem (honce : edited t body period = .ok after)
    (htwice : edited after body period = .ok again) : again = after := by
  have h₁ := edited_spec honce
  have h₂ := edited_spec htwice
  have hdescription : again.description = after.description := by
    rw [h₂.description]
    by_cases hempty : body.description = ""
    · rw [if_pos hempty]
    · rw [if_neg hempty, h₁.description, if_neg hempty]
  have htags : again.tags = after.tags := gainTags_idem h₁.tags h₂.tags
  have hstarts : again.starts = after.starts := by
    rw [h₂.starts, h₁.starts]
    cases period <;> cases body.dropsTime <;> rfl
  have hends : again.ends = after.ends := by
    rw [h₂.ends, h₁.ends]
    cases period <;> cases body.dropsTime <;> rfl
  have hdone : again.done = after.done := h₂.done
  cases again
  cases after
  simp only [Task.mk.injEq]
  exact ⟨hdescription, htags, hstarts, hends, hdone⟩

end Action

end Agenda

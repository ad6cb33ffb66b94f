import Agenda.Task.TagSet
import Mathlib.Data.Finset.Card
import Mathlib.Data.List.Sort
import Mathlib.Data.List.TakeWhile

/-!
# Tag sets as sets

A tag set is known by its members (`TagSet.ext_mem`), since the names stand in one order only. What
the operations do is said by membership (`mem_insert?` and `mem_erase`), or of the finite set of the
names (`toFinset`). A set takes a new name as long as there are not too many then
(`exists_insert?_iff`).

A set that is made of a list of names has the first ten different ones of them
(`mem_ofList_iff`).
-/

namespace Agenda

namespace TagSet

variable {tags tags' : TagSet} {name x : String} {names : List String}

/-- **Tag sets with the same members are equal.** -/
theorem ext_mem (h : ∀ x, x ∈ tags ↔ x ∈ tags') : tags = tags' := by
  have hnames : tags.names = tags'.names := tags.sorted.eq_of_mem_iff tags'.sorted h
  obtain ⟨names, sorted, length_le⟩ := tags
  obtain ⟨names', sorted', length_le'⟩ := tags'
  simp only [mk.injEq]
  exact hnames

@[simp] theorem notMem_empty : x ∉ (∅ : TagSet) :=
  List.not_mem_nil

theorem mem_insert? (h : tags.insert? name = some tags') : x ∈ tags' ↔ x = name ∨ x ∈ tags := by
  unfold insert? at h
  split at h
  · cases h
    exact mem_insertName
  · cases h

@[simp] theorem mem_erase : x ∈ tags.erase name ↔ x ∈ tags ∧ x ≠ name := by
  show x ∈ tags.names.filter (· ≠ name) ↔ x ∈ tags.names ∧ x ≠ name
  rw [List.mem_filter, decide_eq_true_iff]

/-! ### The finite set of the names -/

/-- The names of a tag set as a finite set. -/
def toFinset (tags : TagSet) : Finset String :=
  tags.names.toFinset

@[simp] theorem mem_toFinset : x ∈ tags.toFinset ↔ x ∈ tags :=
  List.mem_toFinset

theorem toFinset_inj : tags.toFinset = tags'.toFinset ↔ tags = tags' := by
  constructor
  · intro h
    apply ext_mem
    intro x
    rw [← mem_toFinset, h, mem_toFinset]
  · exact congrArg toFinset

theorem card_toFinset_le (tags : TagSet) : tags.toFinset.card ≤ maximumTags :=
  (List.toFinset_card_le _).trans tags.length_le

/-- The names with one more among them are as many as the finite set of them has members. -/
theorem length_insertName (tags : TagSet) (name : String) :
    (insertName name tags.names).length = (insert name tags.toFinset).card := by
  have hset : (insertName name tags.names).toFinset = insert name tags.toFinset := by
    ext x
    rw [List.mem_toFinset, mem_insertName, Finset.mem_insert, mem_toFinset]
    rfl
  rw [← hset, List.toFinset_card_of_nodup (pairwise_insertName tags.sorted).nodup]

/-- **A set takes a name** exactly if there are not too many names then. -/
theorem exists_insert?_iff :
    (∃ more, tags.insert? name = some more) ↔ (insert name tags.toFinset).card ≤ maximumTags := by
  rw [← length_insertName]
  unfold insert?
  constructor
  · rintro ⟨more, hmore⟩
    split at hmore
    · assumption
    · cases hmore
  · intro hlength
    exact ⟨_, dif_pos hlength⟩

theorem toFinset_insert? (h : tags.insert? name = some tags') :
    tags'.toFinset = insert name tags.toFinset := by
  ext x
  rw [mem_toFinset, mem_insert? h, Finset.mem_insert, mem_toFinset]

/-! ### Sets made of lists -/

/-- What is in a set after as many of the names as fit have been put in: a name that was there
before, or one that came while there was room. -/
theorem mem_foldl_insert?_iff :
    x ∈ names.foldl (fun tags name => (tags.insert? name).getD tags) tags ↔
      x ∈ tags ∨ x ∈ names ∧
        (tags.toFinset ∪ (names.takeWhile (· ≠ x)).toFinset).card < maximumTags := by
  induction names generalizing tags with
  | nil => simp
  | cons name rest ih =>
    rw [List.foldl_cons, ih]
    by_cases hroom : (insert name tags.toFinset).card ≤ maximumTags
    · obtain ⟨more, hmore⟩ := exists_insert?_iff.mpr hroom
      rw [hmore, Option.getD_some, toFinset_insert? hmore, mem_insert? hmore]
      by_cases hx : x = name
      · -- the name has either been there before or taken one of the free places
        have hfree : name ∉ tags → tags.toFinset.card < maximumTags := by
          intro hname
          rw [Finset.card_insert_of_notMem (mem_toFinset.not.mpr hname)] at hroom
          exact hroom
        subst hx
        by_cases hmem : x ∈ tags
        · simp [hmem]
        · simp [hmem, hfree hmem]
      · have hne : name ≠ x := Ne.symm hx
        simp [hx, hne]
    · have hnone : tags.insert? name = none := by
        rw [Option.eq_none_iff_forall_ne_some]
        exact fun more hmore => hroom (exists_insert?_iff.mp ⟨more, hmore⟩)
      -- a set that refuses a name is full, so no other name comes in later
      have hfull : maximumTags ≤ tags.toFinset.card := by
        have hinsert := Finset.card_insert_le name tags.toFinset
        omega
      have hnoRoom : ∀ others : Finset String,
          ¬ (tags.toFinset ∪ others).card < maximumTags := by
        intro others
        have hsubset : tags.toFinset ⊆ tags.toFinset ∪ others := Finset.subset_union_left
        have hunion := Finset.card_le_card hsubset
        omega
      rw [hnone, Option.getD_none]
      simp only [hnoRoom, and_false]

/-- **A set made of a list has the first ten different names of it**: a name is in the set if fewer
than ten different names come before it. -/
theorem mem_ofList_iff : x ∈ ofList names ↔
    x ∈ names ∧ (names.takeWhile (· ≠ x)).toFinset.card < maximumTags := by
  have hempty : (∅ : TagSet).toFinset = ∅ := rfl
  unfold ofList
  rw [mem_foldl_insert?_iff, hempty, Finset.empty_union]
  simp

/-- **A set is made again of its names.** -/
theorem ofList_names (tags : TagSet) : ofList tags.names = tags := by
  apply ext_mem
  intro x
  rw [mem_ofList_iff]
  constructor
  · exact And.left
  · intro hx
    refine ⟨hx, ?_⟩
    -- the names before `x` are not all of them
    have hfront : tags.names.takeWhile (· ≠ x) <+: tags.names := List.takeWhile_prefix _
    have hshorter : (tags.names.takeWhile (· ≠ x)).length < tags.names.length := by
      refine lt_of_le_of_ne hfront.length_le fun heq => ?_
      have hall := List.takeWhile_eq_self_iff.mp (hfront.eq_of_length heq)
      exact of_decide_eq_true (hall x hx) rfl
    have hcard := List.toFinset_card_le (tags.names.takeWhile (· ≠ x))
    have hlength := tags.length_le
    omega

end TagSet

end Agenda

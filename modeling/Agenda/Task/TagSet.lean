/-!
# Tag sets

A task carries at most ten tags. The names are kept strictly ascending, so a set has one
representation and equality of sets is equality of lists; both rules are part of the type.
-/

namespace Agenda

/-- A name put into its place of an ascending list; a name that is there already stays once. -/
def insertName (name : String) : List String → List String
  | [] => [name]
  | other :: rest =>
    if name < other then name :: other :: rest
    else if name = other then other :: rest
    else other :: insertName name rest

theorem mem_insertName {x name : String} {names : List String} :
    x ∈ insertName name names ↔ x = name ∨ x ∈ names := by
  induction names with
  | nil => simp [insertName]
  | cons other rest ih =>
    unfold insertName
    split
    · simp
    · split
      · next h => subst h; simp
      · simp [ih]; grind

theorem pairwise_insertName {name : String} {names : List String}
    (sorted : names.Pairwise (· < ·)) : (insertName name names).Pairwise (· < ·) := by
  induction names with
  | nil => simp [insertName]
  | cons other rest ih =>
    have hs := List.pairwise_cons.1 sorted
    unfold insertName
    split
    · next hlt =>
      refine List.pairwise_cons.2 ⟨fun x hx => ?_, sorted⟩
      rcases List.mem_cons.1 hx with rfl | hm
      · exact hlt
      · exact String.lt_trans hlt (hs.1 _ hm)
    · split
      · exact sorted
      · next hnlt hne =>
        refine List.pairwise_cons.2 ⟨fun x hx => ?_, ih hs.2⟩
        rcases mem_insertName.1 hx with rfl | hm
        · rcases Decidable.em (other < x) with h | h
          · exact h
          · exact absurd (String.le_antisymm h hnlt) hne
        · exact hs.1 _ hm

/-- The most tags that a task can carry. -/
def maximumTags : Nat := 10

/-- At most ten tag names, strictly ascending. -/
structure TagSet where
  names : List String
  sorted : names.Pairwise (· < ·)
  length_le : names.length ≤ maximumTags
  deriving DecidableEq

namespace TagSet

/-- The set without tags. -/
def empty : TagSet := ⟨[], List.Pairwise.nil, Nat.zero_le _⟩

instance : EmptyCollection TagSet := ⟨empty⟩
instance : Inhabited TagSet := ⟨empty⟩

instance : Membership String TagSet := ⟨fun tags name => name ∈ tags.names⟩
instance (name : String) (tags : TagSet) : Decidable (name ∈ tags) :=
  inferInstanceAs (Decidable (name ∈ tags.names))

/-- The number of tags. -/
def size (tags : TagSet) : Nat :=
  tags.names.length

/-- The set with one name more, or nothing when it is full. A name that the set already has is
always accepted. -/
def insert? (tags : TagSet) (name : String) : Option TagSet :=
  if h : (insertName name tags.names).length ≤ maximumTags then
    some ⟨insertName name tags.names, pairwise_insertName tags.sorted, h⟩
  else none

/-- The set without a name. -/
def erase (tags : TagSet) (name : String) : TagSet :=
  ⟨tags.names.filter (· ≠ name), tags.sorted.filter _,
    Nat.le_trans (List.length_filter_le _ _) tags.length_le⟩

/-- The set of as many of the names as fit, first come, first served. -/
def ofList (names : List String) : TagSet :=
  names.foldl (fun tags name => (tags.insert? name).getD tags) ∅

end TagSet

end Agenda

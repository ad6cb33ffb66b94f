import Agenda.Proofs.Storage.Path
import Agenda.Storage.Disk

/-!
# Disks with the same folders

Where a path leads depends on the folders of a disk only. Creating, filling, moving and removing
files keeps the folders (`SameFolders`), so a path that has led to a place still leads there
afterwards (`locate_of_sameFolders`). This is what makes it possible to undo a file that was put
onto a disk, if the disk lets it be removed (`sweep_put`); and if not, the disk differs from what
it was in this one place only (`AgreeOff`).
-/

namespace Agenda.Disk

variable {disk disk' disk'' : Disk} {place other target : Place} {node : Node} {path text : String}
  {parts : List PathPart} {bytes : Json.Bytes}

/-! ### Nodes -/

@[simp] theorem node?_nil : disk.node? [] = some .folder := rfl

theorem node?_of_ne_nil (h : place ≠ []) : disk.node? place = disk.nodes.lookup place := by
  unfold node?
  rw [if_neg]
  simpa using h

theorem lookup_filter_ne {nodes : List (Place × Node)} (h : other ≠ place) :
    (nodes.filter (·.1 ≠ place)).lookup other = nodes.lookup other := by
  induction nodes with
  | nil => rfl
  | cons entry rest ih =>
    obtain ⟨key, value⟩ := entry
    by_cases hkey : key = place
    · have hne : (other == key) = false := by
        rw [beq_eq_false_iff_ne, hkey]
        exact h
      rw [List.filter_cons_of_neg (by simpa using hkey), ih, List.lookup_cons, hne]
    · rw [List.filter_cons_of_pos (by simpa using hkey), List.lookup_cons, List.lookup_cons, ih]

theorem lookup_filter_self {nodes : List (Place × Node)} :
    (nodes.filter (·.1 ≠ place)).lookup place = none := by
  rw [List.lookup_eq_none_iff]
  intro entry hentry
  have hne := of_decide_eq_true (List.mem_filter.mp hentry).2
  exact bne_iff_ne.mpr hne.symm

theorem node?_remove_self (h : place ≠ []) : (disk.remove place).node? place = none := by
  rw [node?_of_ne_nil h, remove, lookup_filter_self]

theorem node?_remove_of_ne (h : other ≠ place) :
    (disk.remove place).node? other = disk.node? other := by
  by_cases hnil : other = []
  · rw [hnil, node?_nil, node?_nil]
  · rw [node?_of_ne_nil hnil, node?_of_ne_nil hnil, remove, lookup_filter_ne h]

theorem node?_put_self (disk : Disk) (node : Node) (h : place ≠ []) :
    (disk.put place node).node? place = some node := by
  rw [node?_of_ne_nil h, put, List.lookup_cons_self]

theorem node?_put_of_ne (h : other ≠ place) :
    (disk.put place node).node? other = disk.node? other := by
  have hremove : (disk.remove place).node? other = disk.node? other := node?_remove_of_ne h
  rw [← hremove]
  by_cases hnil : other = []
  · rw [hnil, node?_nil, node?_nil]
  · have hne : (other == place) = false := beq_eq_false_iff_ne.mpr h
    rw [node?_of_ne_nil hnil, node?_of_ne_nil hnil, put, List.lookup_cons, hne]

theorem remove_put : (disk.put place node).remove place = disk.remove place := by
  simp [remove, put]

theorem put_put (node' : Node) : (disk.put place node).put place node' = disk.put place node' := by
  rw [put, remove_put]
  rfl

theorem remove_of_node?_eq_none (h : disk.node? place = none) : disk.remove place = disk := by
  have hnil : place ≠ [] := by
    rintro rfl
    cases h
  rw [node?_of_ne_nil hnil, List.lookup_eq_none_iff] at h
  have hfilter : disk.nodes.filter (·.1 ≠ place) = disk.nodes := by
    rw [List.filter_eq_self]
    intro entry hentry
    exact decide_eq_true (bne_iff_ne.mp (h entry hentry)).symm
  rw [remove, hfilter]

theorem ne_nil_of_node? (h : disk.node? place ≠ some .folder) : place ≠ [] := by
  rintro rfl
  exact h node?_nil

/-! ### Folders -/

/-- Disks with the same folders, on which relative paths begin at the same place. -/
structure SameFolders (disk disk' : Disk) : Prop where
  working : disk.working = disk'.working
  folder : ∀ place, disk.node? place = some .folder ↔ disk'.node? place = some .folder

namespace SameFolders

theorem refl (disk : Disk) : SameFolders disk disk :=
  ⟨rfl, fun _ => Iff.rfl⟩

theorem symm (h : SameFolders disk disk') : SameFolders disk' disk :=
  ⟨h.working.symm, fun place => (h.folder place).symm⟩

theorem trans (h : SameFolders disk disk') (h' : SameFolders disk' disk'') :
    SameFolders disk disk'' :=
  ⟨h.working.trans h'.working, fun place => (h.folder place).trans (h'.folder place)⟩

end SameFolders

theorem sameFolders_put (bytes : Json.Bytes) (h : disk.node? place ≠ some .folder) :
    SameFolders disk (disk.put place (.file bytes)) := by
  refine ⟨rfl, fun other => ?_⟩
  by_cases heq : other = place
  · rw [heq, node?_put_self disk _ (ne_nil_of_node? h)]
    simp [h]
  · rw [node?_put_of_ne heq]

theorem sameFolders_remove (h : disk.node? place ≠ some .folder) :
    SameFolders disk (disk.remove place) := by
  refine ⟨rfl, fun other => ?_⟩
  by_cases heq : other = place
  · rw [heq, node?_remove_self (ne_nil_of_node? h)]
    simp [h]
  · rw [node?_remove_of_ne heq]

/-- A walk goes through folders only. -/
theorem walk_of_sameFolders (h : SameFolders disk disk')
    (hwalk : disk.walk place parts = .ok target) :
    disk'.walk place parts = .ok target := by
  induction parts generalizing place with
  | nil => exact hwalk
  | cons part rest ih =>
    -- a walk that succeeds stands on a folder at each step, and the other disk has it too
    cases hnode : disk.node? place with
    | none =>
      unfold walk at hwalk
      rw [hnode] at hwalk
      cases hwalk
    | some found =>
      cases found with
      | file contents =>
        unfold walk at hwalk
        rw [hnode] at hwalk
        cases hwalk
      | folder =>
        unfold walk at hwalk ⊢
        rw [hnode] at hwalk
        rw [(h.folder place).mp hnode]
        cases part with
        | root => exact ih hwalk
        | here => exact ih hwalk
        | up => exact ih hwalk
        | name text =>
          dsimp only at hwalk ⊢
          split
          · rename_i hlong
            rw [if_pos hlong] at hwalk
            cases hwalk
          · rename_i hshort
            rw [if_neg hshort] at hwalk
            exact ih hwalk

/-- **Where a path leads depends on the folders only.** -/
theorem locate_of_sameFolders (h : SameFolders disk disk')
    (hlocate : disk.locate path = .ok place) :
    disk'.locate path = .ok place := by
  unfold locate at hlocate ⊢
  split at hlocate
  · cases hlocate
  split at hlocate
  · cases hlocate
  rename_i hnul hlong
  rw [if_neg hnul, if_neg hlong, ← h.working]
  exact walk_of_sameFolders h hlocate

/-- A walk that ends in a name leads to a place with that name. -/
theorem getLast?_of_walk (hparts : parts.getLast? = some (.name text))
    (hwalk : disk.walk place parts = .ok target) : target.getLast? = some text := by
  induction parts generalizing place with
  | nil => cases hparts
  | cons part rest ih =>
    unfold walk at hwalk
    split at hwalk
    · cases hwalk
    · cases hwalk
    cases rest with
    | nil =>
      -- the last part is the name, which the walk puts at the end of the place
      cases hparts
      dsimp only at hwalk
      split at hwalk
      · cases hwalk
      · cases hwalk
        exact List.getLast?_concat
    | cons next more =>
      rw [List.getLast?_cons_cons] at hparts
      cases part with
      | root => exact ih hparts hwalk
      | here => exact ih hparts hwalk
      | up => exact ih hparts hwalk
      | name other =>
        dsimp only at hwalk
        split at hwalk
        · cases hwalk
        · exact ih hparts hwalk

theorem getLast?_of_locate (hparts : (Path.parts path).getLast? = some (.name text))
    (hlocate : disk.locate path = .ok place) : place.getLast? = some text := by
  unfold locate at hlocate
  split at hlocate
  · cases hlocate
  split at hlocate
  · cases hlocate
  exact getLast?_of_walk hparts hlocate

/-! ### Files -/

theorem placeForFile_eq_ok_iff :
    disk.placeForFile path = .ok place ↔
      disk.locate path = .ok place ∧ disk.node? place ≠ some .folder := by
  unfold placeForFile
  cases disk.locate path with
  | error error => simp
  | ok found =>
    dsimp only
    constructor
    · intro h
      split at h
      · cases h
      · rename_i hfolder
        cases h
        exact ⟨rfl, hfolder⟩
    · rintro ⟨heq, hfolder⟩
      cases heq
      split
      · rename_i hnode
        exact absurd hnode hfolder
      · rfl

theorem placeForRename_eq_ok_iff :
    disk.placeForRename path = .ok place ↔ disk.placeForFile path = .ok place ∧
      Path.endsInDot path = false ∧ Path.asksForFolder path = false := by
  unfold placeForRename
  cases hlocate : disk.locate path with
  | error error => simp [placeForFile, hlocate]
  | ok found =>
    dsimp only
    cases hdot : Path.endsInDot path with
    | true =>
      rw [if_pos rfl]
      split <;> simp
    | false =>
      cases hasks : Path.asksForFolder path <;> simp

/-! ### Creating, filling and moving files -/

theorem create_of_error {error : DiskError} (h : disk.placeForFile path = .error error) :
    (create path).run disk = .error error disk := by
  unfold EStateM.run create
  rw [h]

theorem create_of_placeForFile (h : disk.placeForFile path = .ok place) :
    (create path).run disk = .ok place (disk.put place (.file [])) := by
  unfold EStateM.run create
  rw [h]

/-- On a full or damaged disk a file keeps what has got through. -/
theorem fill_of_fault {fault : FillFault} (node : Node) (h : disk.fault = some fault) :
    (fill place bytes).run (disk.put place node)
      = .error fault.error (disk.put place (.file (bytes.take fault.filled))) := by
  have hfault : (disk.put place node).fault = some fault := h
  unfold EStateM.run fill
  rw [hfault]
  dsimp only
  rw [put_put]

theorem fill_of_no_fault (node : Node) (h : disk.fault = none) :
    (fill place bytes).run (disk.put place node) = .ok () (disk.put place (.file bytes)) := by
  have hfault : (disk.put place node).fault = none := h
  unfold EStateM.run fill
  rw [hfault]
  dsimp only
  rw [put_put]

theorem moveTo_of_error {error : DiskError} (hplace : place ≠ [])
    (h : (disk.put place node).placeForRename path = .error error) :
    (moveTo place path).run (disk.put place node) = .error error (disk.put place node) := by
  unfold EStateM.run moveTo
  rw [node?_put_self disk node hplace, h]

/-- A file that has been put onto a disk is gone from its place once it has been moved. -/
theorem moveTo_of_placeForRename (hplace : place ≠ [])
    (h : (disk.put place node).placeForRename path = .ok target) :
    (moveTo place path).run (disk.put place node)
      = .ok () ((disk.remove place).put target node) := by
  unfold EStateM.run moveTo
  rw [node?_put_self disk node hplace, h]
  dsimp only
  rw [remove_put]

/-! ### Finding and sweeping files -/

theorem find?_of_locate (hlocate : disk.locate path = .ok place)
    (hasks : Path.asksForFolder path = false) : disk.find? path = disk.node? place := by
  unfold find?
  rw [hlocate]
  dsimp only
  split
  · rename_i heq
    rw [hasks, if_neg Bool.false_ne_true, heq]
  · rfl

/-- Where no file can be created, none is found. -/
theorem find?_of_placeForFile_error {error : DiskError} (h : disk.placeForFile path = .error error)
    (bytes : Json.Bytes) : disk.find? path ≠ some (.file bytes) := by
  unfold placeForFile at h
  unfold find?
  cases hlocate : disk.locate path with
  | error error => simp
  | ok place =>
    simp only [hlocate] at h
    split at h
    · rename_i hfolder
      simp [hfolder]
    · cases h

theorem placeForFile_of_sameFolders (h : SameFolders disk disk')
    (hplace : disk.placeForFile path = .ok place) : disk'.placeForFile path = .ok place := by
  obtain ⟨hlocate, hfolder⟩ := placeForFile_eq_ok_iff.mp hplace
  rw [placeForFile_eq_ok_iff, Ne, ← h.folder]
  exact ⟨locate_of_sameFolders h hlocate, hfolder⟩

theorem placeForRename_of_sameFolders (h : SameFolders disk disk')
    (hplace : disk.placeForRename path = .ok place) : disk'.placeForRename path = .ok place := by
  obtain ⟨hfile, hdot, hasks⟩ := placeForRename_eq_ok_iff.mp hplace
  exact placeForRename_eq_ok_iff.mpr ⟨placeForFile_of_sameFolders h hfile, hdot, hasks⟩

/-- A file that has been put onto a disk is found. -/
theorem find?_put (h : disk.placeForFile path = .ok place)
    (hasks : Path.asksForFolder path = false) :
    (disk.put place (.file bytes)).find? path = some (.file bytes) := by
  have hfolder := (placeForFile_eq_ok_iff.mp h).2
  have hput := placeForFile_of_sameFolders (sameFolders_put bytes hfolder) h
  rw [find?_of_locate (placeForFile_eq_ok_iff.mp hput).1 hasks,
    node?_put_self _ _ (ne_nil_of_node? hfolder)]

theorem find?_remove (h : disk.placeForFile path = .ok place)
    (hasks : Path.asksForFolder path = false) : (disk.remove place).find? path = none := by
  have hfolder := (placeForFile_eq_ok_iff.mp h).2
  have hremove := placeForFile_of_sameFolders (sameFolders_remove hfolder) h
  rw [find?_of_locate (placeForFile_eq_ok_iff.mp hremove).1 hasks,
    node?_remove_self (ne_nil_of_node? hfolder)]

theorem unlink_put (h : disk.placeForFile path = .ok place)
    (hasks : Path.asksForFolder path = false) :
    (unlink path).run (disk.put place (.file bytes)) =
      match disk.removalFault with
      | some error => .error error (disk.put place (.file bytes))
      | none => .ok () (disk.remove place) := by
  have hfolder := (placeForFile_eq_ok_iff.mp h).2
  have hput := placeForFile_of_sameFolders (sameFolders_put bytes hfolder) h
  have hfault : (disk.put place (.file bytes)).removalFault = disk.removalFault := rfl
  unfold EStateM.run unlink
  cases hremoval : disk.removalFault <;>
    simp only [(placeForFile_eq_ok_iff.mp hput).1, node?_put_self _ _ (ne_nil_of_node? hfolder),
      hasks, Bool.false_eq_true, if_false, hfault, hremoval, remove_put]

/-- **A file put onto a disk is swept away again**, together with the one that it replaced, unless
it cannot be removed. -/
theorem sweep_put (h : disk.placeForFile path = .ok place)
    (hasks : Path.asksForFolder path = false) :
    (sweep path).run (disk.put place (.file bytes)) =
      match disk.removalFault with
      | some error => .error error (disk.put place (.file bytes))
      | none => .ok () (disk.remove place) := by
  rw [← unlink_put h hasks]
  unfold EStateM.run sweep
  rw [find?_put h hasks]

/-- Sweeping changes nothing where no file can be created. -/
theorem sweep_of_placeForFile_error {error : DiskError}
    (h : disk.placeForFile path = .error error) :
    (sweep path).run disk = .ok () disk ∨
      ∃ error, (sweep path).run disk = .error error disk := by
  unfold placeForFile at h
  unfold EStateM.run sweep find?
  cases hlocate : disk.locate path with
  | error error => exact Or.inl rfl
  | ok place =>
    simp only [hlocate] at h
    split at h
    · -- a folder is found there, and folders are not removed like files
      rename_i hfolder
      refine Or.inr ⟨.isADirectory, ?_⟩
      simp only [hfolder, unlink, hlocate]
    · cases h

/-! ### Names -/

variable {folder : Place} {name : String}

theorem mem_names : name ∈ disk.names folder ↔ ∃ node, (folder ++ [name], node) ∈ disk.nodes := by
  unfold names
  rw [List.mem_filterMap]
  constructor
  · rintro ⟨⟨place, node⟩, hmem, hname⟩
    dsimp only at hname
    split at hname
    · rename_i last hlast
      split at hname
      · rename_i hfolder
        cases hname
        refine ⟨node, ?_⟩
        rw [← hfolder, List.dropLast_append_getLast? _ hlast]
        exact hmem
      · cases hname
    · cases hname
  · rintro ⟨node, hmem⟩
    exact ⟨_, hmem, by simp⟩

theorem mem_names_remove (h : folder ++ [name] ≠ place) :
    name ∈ (disk.remove place).names folder ↔ name ∈ disk.names folder := by
  simp [mem_names, remove, h]

theorem mem_names_put (h : folder ++ [name] ≠ place) :
    name ∈ (disk.put place node).names folder ↔ name ∈ disk.names folder := by
  simp [mem_names, put, remove, h]

/-! ### Disks that differ in one place -/

/-- Disks with the same folders and names, and the same at all places but one. -/
structure AgreeOff (place : Place) (disk disk' : Disk) : Prop where
  sameFolders : disk.SameFolders disk'
  node : ∀ other, other ≠ place → disk'.node? other = disk.node? other
  names : ∀ folder name, folder ++ [name] ≠ place →
    (name ∈ disk'.names folder ↔ name ∈ disk.names folder)

theorem agreeOff_put (bytes : Json.Bytes) (h : disk.node? place ≠ some .folder) :
    AgreeOff place disk (disk.put place (.file bytes)) :=
  ⟨sameFolders_put bytes h, fun _ hne => node?_put_of_ne hne, fun _ _ hne => mem_names_put hne⟩

theorem agreeOff_remove (h : disk.node? place ≠ some .folder) :
    AgreeOff place disk (disk.remove place) :=
  ⟨sameFolders_remove h, fun _ hne => node?_remove_of_ne hne, fun _ _ hne => mem_names_remove hne⟩

/-- A path finds the same on disks with the same folders if the same stands where it leads. -/
theorem find?_of_sameFolders (h : SameFolders disk disk')
    (hnode : ∀ target, disk.locate path = .ok target → disk'.node? target = disk.node? target) :
    disk'.find? path = disk.find? path := by
  unfold find?
  cases hlocate : disk.locate path with
  | ok target =>
    rw [locate_of_sameFolders h hlocate]
    dsimp only
    rw [hnode target hlocate]
  | error error =>
    -- a path that leads to a place on the second disk would do so on the first one
    cases hlocate' : disk'.locate path with
    | error error' => rfl
    | ok target =>
      rw [locate_of_sameFolders h.symm hlocate'] at hlocate
      cases hlocate

/-! ### Making folders -/

theorem node?_put_folder (h : disk.node? other = some .folder) :
    (disk.put place .folder).node? other = some .folder := by
  by_cases heq : other = place
  · by_cases hnil : place = []
    · rw [heq, hnil, node?_nil]
    · rw [heq, node?_put_self _ _ hnil]
  · rw [node?_put_of_ne heq, h]

/-- Making folders takes none away. -/
theorem folder_of_makeFolders (h : disk.makeFolders place parts = .ok disk')
    (hfolder : disk.node? other = some .folder) : disk'.node? other = some .folder := by
  induction parts generalizing disk place with
  | nil =>
    cases h
    exact hfolder
  | cons part rest ih =>
    cases part with
    | root => exact ih h hfolder
    | here => exact ih h hfolder
    | up => exact ih h hfolder
    | name text =>
      unfold makeFolders at h
      dsimp only at h
      split at h
      · exact ih h (node?_put_folder hfolder)
      · exact ih h hfolder
      · cases h

theorem working_of_makeFolders (h : disk.makeFolders place parts = .ok disk') :
    disk'.working = disk.working := by
  induction parts generalizing disk place with
  | nil =>
    cases h
    rfl
  | cons part rest ih =>
    cases part with
    | root => exact ih h
    | here => exact ih h
    | up => exact ih h
    | name text =>
      unfold makeFolders at h
      dsimp only at h
      split at h
      · have hput : disk'.working = (disk.put (place ++ [text]) .folder).working := ih h
        exact hput
      · exact ih h
      · cases h

/-- Where the folders have been made, there is nothing left to make. -/
theorem makeFolders_eq_self (h : disk.makeFolders place parts = .ok disk')
    (hfolder : ∀ other, disk'.node? other = some .folder → disk''.node? other = some .folder) :
    disk''.makeFolders place parts = .ok disk'' := by
  induction parts generalizing disk place with
  | nil => rfl
  | cons part rest ih =>
    cases part with
    | root => exact ih h
    | here => exact ih h
    | up => exact ih h
    | name text =>
      unfold makeFolders at h ⊢
      dsimp only at h ⊢
      -- the folder of this part was made or found the first time
      have hmade : disk'.node? (place ++ [text]) = some .folder := by
        split at h
        · exact folder_of_makeFolders h (node?_put_self _ _ (by simp))
        · rename_i hnode
          exact folder_of_makeFolders h hnode
        · cases h
      rw [hfolder _ hmade]
      dsimp only
      split at h
      · exact ih h
      · exact ih h
      · cases h

/-- **A folder that has been made stays made** while the folders stay the same. -/
theorem makeFolder_of_sameFolders (h : disk.makeFolder path = .ok disk')
    (hsame : SameFolders disk' disk'') : disk''.makeFolder path = .ok disk'' := by
  have hworking : disk''.working = disk.working :=
    hsame.working.symm.trans (working_of_makeFolders h)
  unfold makeFolder at h ⊢
  rw [hworking]
  exact makeFolders_eq_self h fun other => (hsame.folder other).mp

end Agenda.Disk

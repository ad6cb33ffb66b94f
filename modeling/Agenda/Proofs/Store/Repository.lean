import Agenda.Proofs.Storage.Disk
import Agenda.Store.Repository

/-!
# What saving does to a repository

Saving into a file goes through a temporary file. `FileLocation.Replaced` lists the ways in which
that can end, halfway or at the end, and `Repository.Saved` those in which saving does, whatever the
repository.

A save that fails leaves everything as it was but for the temporary file (`FileLocation.Left`): what
was written there is removed, and with it a file that has been there before; or else it cannot be
removed and stays. `FileLocation.Kept` says what a user can rely on all the same. On a disk without
a file at the temporary path that lets files be removed (`IsTidy`), nothing changes at all, and
`isTidy_of_save` says that a save that works leaves no temporary file behind either.

Whether a save works does not depend on the list: after one that has worked, any list can be saved
(`Repository.works_of_save`), and on a full disk none (`exists_of_save_of_fault`).
-/

namespace Agenda

namespace FileLocation

variable {l l' : FileLocation} {temporary reason : String} {disk : Disk} {tasks : List Task}

/-! ### Replacing a file -/

/-- The ways in which replacing a file ends, each with its result. -/
inductive Replaced (path temporary : String) (contents : Json.Bytes) (disk : Disk) :
    EStateM.Result String Disk Unit → Prop
  /-- The temporary file could not be created. -/
  | uncreated {error : DiskError} (reason : String)
    (hplace : disk.placeForFile temporary = .error error) :
    Replaced path temporary contents disk (.error reason disk)
  /-- The temporary file was created, but it could not be filled or not be moved. -/
  | unfinished {place : Place} {bytes : Json.Bytes} (reason : String)
    (hplace : disk.placeForFile temporary = .ok place) :
    Replaced path temporary contents disk (.error reason (disk.put place (.file bytes)))
  /-- The temporary file has taken the place of the file. -/
  | replaced {place target : Place} (hfault : disk.fault = none)
    (hplace : disk.placeForFile temporary = .ok place)
    (htarget : disk.placeForRename path = .ok target) :
    Replaced path temporary contents disk
      (.ok () ((disk.remove place).put target (.file contents)))

/-- **Replacing a file ends in one of the three ways.** -/
theorem replaced_replaceFile (path temporary : String) (contents : Json.Bytes) (disk : Disk) :
    Replaced path temporary contents disk ((replaceFile path temporary contents).run disk) := by
  unfold replaceFile
  simp only [EStateM.run_bind, EStateM.run_adaptExcept]
  cases hplace : disk.placeForFile temporary with
  | error error =>
    rw [Disk.create_of_error hplace]
    exact .uncreated _ hplace
  | ok place =>
    have hfolder := (Disk.placeForFile_eq_ok_iff.mp hplace).2
    have hne := Disk.ne_nil_of_node? hfolder
    rw [Disk.create_of_placeForFile hplace]
    cases hfault : disk.fault with
    | some fault =>
      simp only [Disk.fill_of_fault _ hfault]
      exact .unfinished _ hplace
    | none =>
      simp only [Disk.fill_of_no_fault _ hfault]
      cases htarget : (disk.put place (.file contents)).placeForRename path with
      | error error =>
        simp only [Disk.moveTo_of_error hne htarget]
        exact .unfinished _ hplace
      | ok target =>
        simp only [Disk.moveTo_of_placeForRename hne htarget]
        -- the target was found beside the temporary file, but its place does not depend on it
        have hsame := Disk.sameFolders_put contents hfolder
        exact .replaced hfault hplace (Disk.placeForRename_of_sameFolders hsame.symm htarget)

variable {disk' : Disk} {path : String} {bytes : Json.Bytes}

/-- What replacing a file leaves behind: the new contents under the path, nothing in the place of
the temporary file, and otherwise the disk as it was. -/
theorem exists_of_replaceFile (h : (replaceFile path temporary bytes).run disk = .ok () disk') :
    ∃ place target, disk.fault = none ∧ disk.placeForFile temporary = .ok place ∧
      disk.placeForRename path = .ok target ∧
      disk' = (disk.remove place).put target (.file bytes) := by
  have hreplaced := replaced_replaceFile path temporary bytes disk
  rw [h] at hreplaced
  cases hreplaced with
  | replaced hfault hplace htarget => exact ⟨_, _, hfault, hplace, htarget, rfl⟩

/-- The folders after a file has been replaced are those before it. -/
theorem sameFolders_of_replaceFile
    (h : (replaceFile path temporary bytes).run disk = .ok () disk') :
    disk.SameFolders disk' := by
  obtain ⟨place, target, -, hplace, htarget, rfl⟩ := exists_of_replaceFile h
  have hremove := Disk.sameFolders_remove (Disk.placeForFile_eq_ok_iff.mp hplace).2
  have htarget' := Disk.placeForFile_of_sameFolders hremove
    (Disk.placeForRename_eq_ok_iff.mp htarget).1
  exact hremove.trans (Disk.sameFolders_put _ (Disk.placeForFile_eq_ok_iff.mp htarget').2)

/-- **A file that has been replaced holds the new contents.** -/
theorem find?_of_replaceFile (h : (replaceFile path temporary bytes).run disk = .ok () disk') :
    disk'.find? path = some (.file bytes) := by
  have hsame := sameFolders_of_replaceFile h
  obtain ⟨place, target, -, -, hrename, rfl⟩ := exists_of_replaceFile h
  obtain ⟨htarget, -, hasks⟩ := Disk.placeForRename_eq_ok_iff.mp hrename
  obtain ⟨hlocate, hfolder⟩ := Disk.placeForFile_eq_ok_iff.mp htarget
  rw [Disk.find?_of_locate (Disk.locate_of_sameFolders hsame hlocate) hasks,
    Disk.node?_put_self _ _ (Disk.ne_nil_of_node? hfolder)]

/-! ### The temporary file -/

theorem isPlain_temporaryName {name : String} (h : '/' ∉ name.toList) (writer : Writer) :
    Path.IsPlain ("." ++ name ++ ".tmp." ++ writer.text) := by
  have hlist : ("." ++ name ++ ".tmp." ++ writer.text).toList
      = '.' :: name.toList ++ ['.', 't', 'm', 'p', '.'] ++ writer.text.toList := by
    simp
  have hlength : 6 ≤ ("." ++ name ++ ".tmp." ++ writer.text).toList.length := by
    rw [hlist]
    simp
    omega
  refine ⟨?_, ?_, ?_, ?_⟩
  · have hwriter := writer.noSlash
    rw [hlist]
    simp [h, hwriter]
  all_goals
    intro heq
    rw [heq] at hlength
    revert hlength
    decide

theorem exists_of_temporary (h : l.temporary = .ok temporary) :
    ∃ parent name, Path.fileName? l.path = some name ∧
      temporary = Path.join parent ("." ++ name ++ ".tmp." ++ l.writer.text) := by
  unfold FileLocation.temporary at h
  split at h
  · cases h
  · cases h
  · rename_i parent name _ hname
    cases h
    exact ⟨parent, name, hname, rfl⟩

theorem asksForFolder_temporary (h : l.temporary = .ok temporary) :
    Path.asksForFolder temporary = false := by
  obtain ⟨parent, name, hname, rfl⟩ := exists_of_temporary h
  exact Path.asksForFolder_join (isPlain_temporaryName (Path.noSlash_of_fileName? hname) l.writer)

/-- The temporary file is not the file that it is to replace. -/
theorem place_temporary_ne {place target : Place} (h : l.temporary = .ok temporary)
    (hplace : disk.locate temporary = .ok place) (htarget : disk.locate l.path = .ok target) :
    place ≠ target := by
  obtain ⟨parent, name, hname, rfl⟩ := exists_of_temporary h
  have hplain := isPlain_temporaryName (Path.noSlash_of_fileName? hname) l.writer
  have hlast := Disk.getLast?_of_locate (Path.getLast?_parts_join hplain) hplace
  have hlast' := Disk.getLast?_of_locate (Path.getLast?_parts_of_fileName? hname) htarget
  rintro rfl
  rw [hlast, Option.some.injEq] at hlast'
  have hlength := congrArg (fun text => text.toList.length) hlast'
  simp at hlength
  omega

/-! ### Saves that fail -/

/-- No file stands at the temporary path. -/
def IsFree (l : FileLocation) : Prop :=
  ∀ temporary, l.temporary = .ok temporary →
    ∀ contents, l.disk.find? temporary ≠ some (.file contents)

/-- The temporary path is the same whatever is on the disk. -/
theorem isFree_of_find? (h : l.temporary = .ok temporary)
    (hfind : ∀ contents, disk.find? temporary ≠ some (.file contents)) :
    ({ l with disk } : FileLocation).IsFree := by
  intro other hother
  have hsame : l.temporary = .ok other := hother
  rw [h] at hsame
  cases hsame
  exact hfind

/-- What a save that fails can leave behind. -/
inductive Left (l : FileLocation) : FileLocation → Prop
  /-- No temporary file could be created. -/
  | untouched (hfree : l.IsFree) : Left l l
  /-- What was written is removed again, and with it a file that was there before. -/
  | swept {temporary : String} {place : Place} (htemporary : l.temporary = .ok temporary)
    (hplace : l.disk.placeForFile temporary = .ok place) :
    Left l { l with disk := l.disk.remove place }
  /-- What was written cannot be removed. -/
  | stuck {temporary : String} {place : Place} {error : DiskError} {bytes : Json.Bytes}
    (htemporary : l.temporary = .ok temporary)
    (hplace : l.disk.placeForFile temporary = .ok place)
    (hremoval : l.disk.removalFault = some error) :
    Left l { l with disk := l.disk.put place (.file bytes) }

/-- **A save that fails leaves one of the three.** -/
theorem left_of_save (h : (save tasks).run l = .error reason l') : l.Left l' := by
  unfold EStateM.run save at h
  split at h
  · rename_i htemporary
    cases h
    refine .untouched fun temporary hok => ?_
    rw [htemporary] at hok
    cases hok
  · rename_i temporary htemporary
    have hreplaced := replaced_replaceFile l.path temporary (FileLocation.contents tasks) l.disk
    split at h
    · cases h
    · rename_i disk hrun
      rw [hrun] at hreplaced
      cases hreplaced with
      | uncreated _ hplace =>
        have hfree : l.IsFree :=
          isFree_of_find? htemporary (Disk.find?_of_placeForFile_error hplace)
        -- where no file could be created there is none to remove, whether or not that is an error
        rcases Disk.sweep_of_placeForFile_error hplace with hsweep | ⟨error, hsweep⟩
        all_goals
          simp only [hsweep] at h
          cases h
          exact .untouched hfree
      | unfinished _ hplace =>
        rw [Disk.sweep_put hplace (asksForFolder_temporary htemporary)] at h
        cases hremoval : l.disk.removalFault with
        | none =>
          simp only [hremoval] at h
          cases h
          exact .swept htemporary hplace
        | some error =>
          simp only [hremoval] at h
          cases h
          exact .stuck htemporary hplace hremoval

/-- No file stands at the temporary path, and none would have to stay there. -/
structure IsTidy (l : FileLocation) : Prop where
  free : l.IsFree
  removal : l.disk.removalFault = none

/-- The place that the temporary path leads to. -/
def temporaryPlace? (l : FileLocation) : Option Place :=
  match l.temporary with
  | .ok temporary => (l.disk.locate temporary).toOption
  | .error _ => none

/-- Two locations that differ in the temporary file at most. -/
structure Kept (l l' : FileLocation) : Prop where
  path : l'.path = l.path
  writer : l'.writer = l.writer
  sameFolders : l.disk.SameFolders l'.disk
  /-- The task file has its contents. -/
  contents : l'.disk.find? l.path = l.disk.find? l.path
  /-- So has every other place. -/
  elsewhere : ∀ place, l.temporaryPlace? ≠ some place → l'.disk.node? place = l.disk.node? place
  /-- No other name has come to a folder, and none is gone. -/
  names : ∀ folder name, l.temporaryPlace? ≠ some (folder ++ [name]) →
    (name ∈ l'.disk.names folder ↔ name ∈ l.disk.names folder)
  /-- Where files can be removed, no temporary file has been left behind. -/
  removed : l.disk.removalFault = none → l' = l ∨ l'.IsFree
  /-- Where there was none either, nothing has changed. -/
  tidy : l.IsTidy → l' = l

namespace Kept

theorem refl (l : FileLocation) : l.Kept l where
  path := rfl
  writer := rfl
  sameFolders := .refl l.disk
  contents := rfl
  elsewhere _ _ := rfl
  names _ _ _ := Iff.rfl
  removed _ := Or.inl rfl
  tidy _ := rfl

/-- A disk that agrees with the first one off the temporary file keeps all the rest. -/
theorem of_agreeOff {place : Place} (htemporary : l.temporary = .ok temporary)
    (hplace : l.disk.locate temporary = .ok place) (h : l.disk.AgreeOff place disk)
    (hremoved : l.disk.removalFault = none →
      ({ l with disk } : FileLocation) = l ∨ ({ l with disk } : FileLocation).IsFree)
    (htidy : l.IsTidy → ({ l with disk } : FileLocation) = l) :
    l.Kept { l with disk } := by
  have htemporaryPlace : l.temporaryPlace? = some place := by
    unfold temporaryPlace?
    simp only [htemporary, hplace]
    rfl
  refine ⟨rfl, rfl, h.sameFolders, ?_, ?_, ?_, hremoved, htidy⟩
  · exact Disk.find?_of_sameFolders h.sameFolders fun target htarget =>
      h.node target (place_temporary_ne htemporary hplace htarget).symm
  · intro other hne
    rw [htemporaryPlace, Ne, Option.some.injEq] at hne
    exact h.node other (Ne.symm hne)
  · intro folder name hne
    rw [htemporaryPlace, Ne, Option.some.injEq] at hne
    exact h.names folder name (Ne.symm hne)

end Kept

/-- **A save that fails keeps all but the temporary file.** -/
theorem kept_of_left (h : l.Left l') : l.Kept l' := by
  cases h with
  | untouched => exact .refl l
  | @swept temporary place htemporary hplace =>
    obtain ⟨hlocate, hfolder⟩ := Disk.placeForFile_eq_ok_iff.mp hplace
    have hasks := asksForFolder_temporary htemporary
    refine .of_agreeOff htemporary hlocate (Disk.agreeOff_remove hfolder) (fun _ => ?_)
      fun htidy => ?_
    · refine Or.inr (isFree_of_find? htemporary fun bytes => ?_)
      rw [Disk.find?_remove hplace hasks]
      exact nofun
    · -- where there was no file, there is nothing to remove
      have hnode : l.disk.node? place = none := by
        cases hnode : l.disk.node? place with
        | none => rfl
        | some node =>
          cases node with
          | folder => exact absurd hnode hfolder
          | file bytes =>
            have hfind := htidy.free temporary htemporary bytes
            rw [Disk.find?_of_locate hlocate hasks] at hfind
            exact absurd hnode hfind
      rw [Disk.remove_of_node?_eq_none hnode]
  | @stuck temporary place error bytes htemporary hplace hremoval =>
    obtain ⟨hlocate, hfolder⟩ := Disk.placeForFile_eq_ok_iff.mp hplace
    have hne : l.disk.removalFault ≠ none := by
      rw [hremoval]
      exact nofun
    exact .of_agreeOff htemporary hlocate (Disk.agreeOff_put bytes hfolder)
      (fun hnone => absurd hnone hne) fun htidy => absurd htidy.removal hne

/-! ### Saves that work -/

/-- A successful save has replaced the file. -/
theorem exists_of_save (h : (save tasks).run l = .ok () l') :
    ∃ temporary disk, l.temporary = .ok temporary ∧
      (replaceFile l.path temporary (contents tasks)).run l.disk = .ok () disk ∧
      l' = { l with disk } := by
  unfold EStateM.run save at h
  split at h
  · cases h
  · rename_i temporary htemporary
    split at h
    · rename_i disk hrun
      cases h
      exact ⟨temporary, disk, htemporary, hrun, rfl⟩
    · split at h <;> cases h

/-- The folders after a successful save are those before it. -/
theorem sameFolders_of_save (h : (save tasks).run l = .ok () l') :
    l.disk.SameFolders l'.disk := by
  obtain ⟨_, _, -, hrun, rfl⟩ := exists_of_save h
  exact sameFolders_of_replaceFile hrun

/-- **After a successful save the file holds the tasks.** -/
theorem find?_of_save (h : (save tasks).run l = .ok () l') :
    l'.disk.find? l'.path = some (.file (contents tasks)) := by
  obtain ⟨_, _, -, hrun, rfl⟩ := exists_of_save h
  exact find?_of_replaceFile hrun

/-- A successful save leaves no temporary file behind. -/
theorem isTidy_of_save (h : (save tasks).run l = .ok () l')
    (hremoval : l.disk.removalFault = none) : l'.IsTidy := by
  have hsame := sameFolders_of_save h
  obtain ⟨temporary, disk, htemporary, hrun, rfl⟩ := exists_of_save h
  obtain ⟨place, target, -, hplace, hrename, rfl⟩ := exists_of_replaceFile hrun
  obtain ⟨hlocate, hfolder⟩ := Disk.placeForFile_eq_ok_iff.mp hplace
  have htarget := (Disk.placeForRename_eq_ok_iff.mp hrename).1
  have hne := place_temporary_ne htemporary hlocate (Disk.placeForFile_eq_ok_iff.mp htarget).1
  refine ⟨isFree_of_find? htemporary fun bytes => ?_, hremoval⟩
  rw [Disk.find?_of_locate (Disk.locate_of_sameFolders hsame hlocate)
    (asksForFolder_temporary htemporary), Disk.node?_put_of_ne hne,
    Disk.node?_remove_self (Disk.ne_nil_of_node? hfolder)]
  exact nofun

/-- The temporary file can be created and filled, and it can take the place of the task file. -/
structure IsWritable (l : FileLocation) : Prop where
  fault : l.disk.fault = none
  temporary : ∃ temporary place, l.temporary = .ok temporary ∧
    l.disk.placeForFile temporary = .ok place
  target : ∃ target, l.disk.placeForRename l.path = .ok target

theorem isWritable_of_save (h : (save tasks).run l = .ok () l') : l.IsWritable := by
  obtain ⟨temporary, _, htemporary, hrun, -⟩ := exists_of_save h
  obtain ⟨place, target, hfault, hplace, htarget, -⟩ := exists_of_replaceFile hrun
  exact ⟨hfault, ⟨temporary, place, htemporary, hplace⟩, ⟨target, htarget⟩⟩

/-- Any list can be saved where one can. -/
theorem exists_save_of_isWritable (h : l.IsWritable) (tasks : List Task) :
    ∃ l', (save tasks).run l = .ok () l' := by
  obtain ⟨hfault, ⟨temporary, place, htemporary, hplace⟩, ⟨target, htarget⟩⟩ := h
  have hfolder := (Disk.placeForFile_eq_ok_iff.mp hplace).2
  -- the temporary file does not stand in the way of its own move
  have htarget' := Disk.placeForRename_of_sameFolders
    (Disk.sameFolders_put (contents tasks) hfolder) htarget
  have hrun : (replaceFile l.path temporary (contents tasks)).run l.disk
      = .ok () ((l.disk.remove place).put target (.file (contents tasks))) := by
    unfold replaceFile
    simp only [EStateM.run_bind, EStateM.run_adaptExcept, Disk.create_of_placeForFile hplace,
      Disk.fill_of_no_fault _ hfault,
      Disk.moveTo_of_placeForRename (Disk.ne_nil_of_node? hfolder) htarget']
  unfold EStateM.run save
  rw [htemporary]
  dsimp only
  rw [hrun]
  exact ⟨_, rfl⟩

/-- After a successful save the file can be saved again. -/
theorem isWritable_after_save (h : (save tasks).run l = .ok () l') : l'.IsWritable := by
  obtain ⟨hfault, ⟨temporary, place, htemporary, hplace⟩, ⟨target, htarget⟩⟩ := isWritable_of_save h
  have hsame := sameFolders_of_save h
  obtain ⟨_, disk, -, hrun, rfl⟩ := exists_of_save h
  have hfault' : disk.fault = none := by
    obtain ⟨_, _, -, -, -, rfl⟩ := exists_of_replaceFile hrun
    exact hfault
  exact ⟨hfault', ⟨temporary, place, htemporary, Disk.placeForFile_of_sameFolders hsame hplace⟩,
    ⟨target, Disk.placeForRename_of_sameFolders hsame htarget⟩⟩

/-- **On a full or damaged disk no list can be saved.** -/
theorem exists_of_save_of_fault {fault : FillFault} (h : l.disk.fault = some fault)
    (tasks : List Task) : ∃ reason l', (save tasks).run l = .error reason l' := by
  cases hsave : (save tasks).run l with
  | error reason l' => exact ⟨reason, l', rfl⟩
  | ok _ l' =>
    have hnone := (isWritable_of_save hsave).fault
    rw [h] at hnone
    cases hnone

/-! ### Opening a file again -/

/-- Two locations of one file. Their disks have the same folders, and only there is the file found
again; what the files hold is left open. -/
structure SameFile (l l' : FileLocation) : Prop where
  path : l.path = l'.path
  sameFolders : l.disk.SameFolders l'.disk

theorem SameFile.refl (l : FileLocation) : l.SameFile l :=
  ⟨rfl, .refl l.disk⟩

theorem SameFile.trans {l'' : FileLocation} (h : l.SameFile l') (h' : l'.SameFile l'') :
    l.SameFile l'' :=
  ⟨h.path.trans h'.path, h.sameFolders.trans h'.sameFolders⟩

theorem Kept.sameFile (h : l.Kept l') : l.SameFile l' :=
  ⟨h.path.symm, h.sameFolders⟩

theorem sameFile_of_save (h : (save tasks).run l = .ok () l') : l.SameFile l' := by
  have hsame := sameFolders_of_save h
  obtain ⟨_, _, -, -, rfl⟩ := exists_of_save h
  exact ⟨rfl, hsame⟩

/-- **A file that has been opened can be opened again.** -/
theorem open?_of_sameFile {folder name : String} {writer : Writer}
    (hopen : open? disk folder name writer = .ok l) (hsame : l.SameFile l') (writer' : Writer) :
    open? l'.disk folder name writer' = .ok { l' with writer := writer' } := by
  unfold open? at hopen ⊢
  split at hopen
  · rename_i disk' hmake
    cases hopen
    have hpath : Path.join folder name = l'.path := hsame.path
    rw [Disk.makeFolder_of_sameFolders hmake hsame.sameFolders, hpath]
  · cases hopen

end FileLocation

namespace Repository

variable {r r' : Repository} {tasks : List Task} {error : StoreError}

/-! ### Any repository -/

/-- Two repositories that differ in a temporary file at most. -/
inductive Kept : Repository → Repository → Prop
  | memory (saved : List Task) (failing : Bool) : Kept (memory saved failing) (memory saved failing)
  | file {l l' : FileLocation} (h : l.Kept l') : Kept (file l) (file l')

/-- No file stands at the temporary path, and none would have to stay there. -/
inductive IsTidy : Repository → Prop
  | memory (saved : List Task) (failing : Bool) : IsTidy (memory saved failing)
  | file {l : FileLocation} (h : l.IsTidy) : IsTidy (file l)

theorem Kept.refl (r : Repository) : r.Kept r := by
  cases r with
  | memory saved failing => exact .memory saved failing
  | file l => exact .file (.refl l)

theorem Kept.eq_of_isTidy (h : r.Kept r') (htidy : r.IsTidy) : r' = r := by
  cases h with
  | memory => rfl
  | file h =>
    obtain _ | ⟨htidy⟩ := htidy
    exact congrArg Repository.file (h.tidy htidy)

theorem Kept.exists_file {l : FileLocation} (h : (Repository.file l).Kept r') :
    ∃ l', r' = .file l' ∧ l.Kept l' := by
  cases h with
  | file h => exact ⟨_, rfl, h⟩

/-- The ways in which saving ends, each with its result. -/
inductive Saved (tasks : List Task) :
    Repository → EStateM.Result StoreError Repository Unit → Prop
  | memory (saved : List Task) : Saved tasks (memory saved false) (.ok () (memory tasks false))
  | failing (saved : List Task) :
    Saved tasks (memory saved true) (.error (.writeFailed "disk full") (memory saved true))
  /-- The list stands in the file. -/
  | file {l l' : FileLocation} (hsave : (FileLocation.save tasks).run l = .ok () l') :
    Saved tasks (file l) (.ok () (file l'))
  /-- The file could not be replaced. -/
  | unsaved {l l' : FileLocation} {reason : String}
    (hsave : (FileLocation.save tasks).run l = .error reason l') :
    Saved tasks (file l) (.error (.writeFailed reason) (file l'))

/-- **Saving ends in one of the four ways.** -/
theorem saved_save (tasks : List Task) (r : Repository) :
    Saved tasks r ((Repository.save tasks).run r) := by
  unfold EStateM.run Repository.save
  cases r with
  | memory saved failing =>
    cases failing with
    | true => exact .failing saved
    | false => exact .memory saved
  | file l =>
    dsimp only
    cases hsave : (FileLocation.save tasks).run l with
    | ok _ l' => exact .file hsave
    | error reason l' => exact .unsaved hsave

theorem saved_of_save {result : EStateM.Result StoreError Repository Unit}
    (h : (Repository.save tasks).run r = result) : Saved tasks r result :=
  h ▸ saved_save tasks r

/-- **A save that fails keeps all but the temporary file.** -/
theorem kept_of_save (h : (Repository.save tasks).run r = .error error r') : r.Kept r' := by
  cases saved_of_save h with
  | failing saved => exact .memory saved true
  | unsaved hsave => exact .file (FileLocation.kept_of_left (FileLocation.left_of_save hsave))

theorem isTidy_of_save (h : (Repository.save tasks).run r = .ok () r') (htidy : r.IsTidy) :
    r'.IsTidy := by
  cases saved_of_save h with
  | memory => exact .memory tasks false
  | file hsave =>
    obtain _ | ⟨htidy⟩ := htidy
    exact .file (FileLocation.isTidy_of_save hsave htidy.removal)

/-- Any list can be saved. -/
def Works (r : Repository) : Prop :=
  ∀ tasks, ∃ r', (Repository.save tasks).run r = .ok () r'

theorem works_memory (saved : List Task) : (memory saved false).Works :=
  fun tasks => ⟨memory tasks false, rfl⟩

theorem works_file {l : FileLocation} (h : l.IsWritable) : (file l).Works := by
  intro tasks
  obtain ⟨l', hsave⟩ := FileLocation.exists_save_of_isWritable h tasks
  refine ⟨file l', ?_⟩
  unfold EStateM.run Repository.save
  dsimp only
  rw [hsave]

/-- **Where a list has been saved, any list can be saved next.** -/
theorem works_of_save (h : (Repository.save tasks).run r = .ok () r') : r'.Works := by
  cases saved_of_save h with
  | memory => exact works_memory tasks
  | file hsave => exact works_file (FileLocation.isWritable_after_save hsave)

theorem memory_of_save {saved : List Task} {failing : Bool}
    (h : (Repository.save tasks).run (memory saved failing) = .ok () r) :
    r = memory tasks false := by
  cases saved_of_save h with
  | memory => rfl

/-- Saving into a file keeps the list in a file. -/
theorem exists_file_of_save {l : FileLocation}
    (h : (Repository.save tasks).run (file l) = .ok () r) :
    ∃ l', (FileLocation.save tasks).run l = .ok () l' ∧ r = file l' := by
  cases saved_of_save h with
  | file hsave => exact ⟨_, hsave, rfl⟩

/-- Saving fails only for a reason that the repository gives. -/
theorem error_of_save (h : (Repository.save tasks).run r = .error error r') :
    ∃ reason, error = .writeFailed reason := by
  cases saved_of_save h with
  | failing => exact ⟨_, rfl⟩
  | unsaved => exact ⟨_, rfl⟩

end Repository

end Agenda

import SkaleAdmin.Library.PyNumerals
import SkaleAdmin.Library.PyPath
import SkaleAdmin.Library.Transition
import Mathlib.Data.List.AList

/-! The logs of removed containers and the names that they are saved under. -/

namespace SkaleAdmin.Docker

open PyText

/-- Docker allows no slash in the name of a container. -/
structure ContainerName where
  text : Text
  plain : '/' ∉ text

abbrev LogsFolder (Logs : Type) := AList fun _ : Text => Logs

namespace LogsFolder

variable {Logs : Type} (folder : LogsFolder Logs) (name : ContainerName)

/-- `sum(1 for f in listdir if f.startswith(name-))`. -/
def containerIndex : Nat :=
  folder.keys.countP fun file => (name.text ++ ['-']).isPrefixOf file

end LogsFolder

def logFileName (name : ContainerName) (index : Nat) : Text :=
  name.text ++ '-' :: (str index ++ ".log".toList)

namespace LogsFolder

variable {Logs : Type} (folder : LogsFolder Logs) (name : ContainerName)

def getLogsBackupFilepath : Text :=
  logFileName name (folder.containerIndex name)

/-- `backup_container_logs`: what is under the path is replaced. -/
def backupContainerLogs (logs : Logs) : LogsFolder Logs :=
  folder.insert (folder.getLogsBackupFilepath name) logs

end LogsFolder

/-- A container that exists is removed by `safe_rm`, or an old file is deleted. -/
inductive LogsAction (Logs : Type) where
  | safeRm (name : ContainerName) (logs : Logs)
  | delete (file : Text)

namespace LogsFolder

variable {Logs : Type}

def step (folder : LogsFolder Logs) : LogsAction Logs → Option (LogsFolder Logs)
  | .safeRm name logs => some (folder.backupContainerLogs name logs)
  | .delete file => if file ∈ folder then some (folder.erase file) else none

/-- The path of the backup does not exist, so that every file there is keeps its logs. -/
def Fresh (folder : LogsFolder Logs) : LogsAction Logs → Prop
  | .safeRm name logs => folder.getLogsBackupFilepath name ∉ folder ∧
      ∀ file ∈ folder, (folder.backupContainerLogs name logs).lookup file = folder.lookup file
  | .delete _ => True

/-- Every log of a container has an index below the number of the files with its prefix. -/
def Numbered (folder : LogsFolder Logs) : Prop :=
  ∀ (name : ContainerName) (index : Nat), logFileName name index ∈ folder →
    index < folder.containerIndex name

/-- The action leaves the logs numbered: what is deleted is not an older log than another
one with its prefix. -/
def SparesNumbers (folder : LogsFolder Logs) : LogsAction Logs → Prop
  | .safeRm _ _ => True
  | .delete file => Numbered (folder.erase file)

end LogsFolder

/-! ### The names of the logs -/

theorem notMem_suffix (index : Nat) : '-' ∉ str index ++ ".log".toList := by
  have suffix : '-' ∉ ".log".toList := by decide
  intro member
  rcases List.mem_append.mp member with digit | last
  · have isDigit := isDigit_of_mem_str_natCast digit
    exact absurd isDigit (by decide)
  · exact suffix last

/-- The name and the index of a log are read back from its file. -/
theorem logFileName_inj {name other : ContainerName} {index otherIndex : Nat}
    (same : logFileName name index = logFileName other otherIndex) :
    name.text = other.text ∧ index = otherIndex := by
  have first : rfind '-' (logFileName name index) = name.text.length :=
    rfind_append (notMem_suffix index)
  have second : rfind '-' (logFileName other otherIndex) = other.text.length :=
    rfind_append (notMem_suffix otherIndex)
  rw [same, second] at first
  obtain ⟨texts, rest⟩ := List.append_inj same (Int.ofNat.inj first).symm
  refine ⟨texts, ?_⟩
  have numerals : str (index : Int) = str (otherIndex : Int) :=
    List.append_cancel_right (List.cons.inj rest).2
  have read := parseInt_str index
  rw [numerals, parseInt_str] at read
  exact (Int.ofNat.inj (Option.some.inj read)).symm

theorem isPrefixOf_logFileName (name : ContainerName) (index : Nat) :
    (name.text ++ ['-']).isPrefixOf (logFileName name index) = true := by
  rw [List.isPrefixOf_iff_prefix]
  exact ⟨str index ++ ".log".toList, by simp [logFileName]⟩

namespace LogsFolder

variable {Logs : Type} {folder : LogsFolder Logs} {name : ContainerName} {logs : Logs}

theorem containerIndex_insert {file : Text} (absent : file ∉ folder) :
    LogsFolder.containerIndex (folder.insert file logs) name =
      folder.containerIndex name + if (name.text ++ ['-']).isPrefixOf file then 1 else 0 := by
  have keys : (folder.insert file logs).keys = file :: folder.keys := by
    unfold AList.keys
    rw [AList.entries_insert_of_notMem absent]
    rfl
  unfold containerIndex
  rw [keys, List.countP_cons]

theorem fresh_of_notMem (absent : folder.getLogsBackupFilepath name ∉ folder) :
    folder.Fresh (.safeRm name logs) := by
  refine ⟨absent, ?_⟩
  intro file member
  apply AList.lookup_insert_ne
  rintro rfl
  exact absent member

theorem Numbered.notMem (numbered : folder.Numbered) (name : ContainerName) :
    folder.getLogsBackupFilepath name ∉ folder := by
  intro member
  exact absurd (numbered name _ member) (Nat.lt_irrefl _)

theorem Numbered.backup (numbered : folder.Numbered) (name : ContainerName) (logs : Logs) :
    (folder.backupContainerLogs name logs).Numbered := by
  have absent := numbered.notMem name
  intro other index member
  unfold backupContainerLogs at *
  rw [containerIndex_insert absent]
  rcases (AList.mem_insert _).mp member with same | earlier
  · obtain ⟨texts, rfl⟩ := logFileName_inj same
    have own : folder.containerIndex other = folder.containerIndex name := by
      unfold containerIndex
      rw [texts]
    rw [own, getLogsBackupFilepath, texts, if_pos (isPrefixOf_logFileName name _)]
    omega
  · have below := numbered other index earlier
    omega

theorem step_numbered {folder' : LogsFolder Logs} {action : LogsAction Logs}
    (numbered : folder.Numbered) (spares : folder.SparesNumbers action)
    (taken : folder.step action = some folder') : folder'.Numbered := by
  cases action with
  | safeRm name logs =>
      cases taken
      exact numbered.backup name logs
  | delete file =>
      rw [step] at taken
      split at taken
      · cases taken
        exact spares
      · cases taken

/-- In a run from numbered logs whose deletions leave them numbered, no backup replaces
another one. -/
theorem eachStep_fresh {actions : List (LogsAction Logs)} (numbered : folder.Numbered)
    (spares : Transition.EachStep step SparesNumbers folder actions) :
    Transition.EachStep step Fresh folder actions := by
  induction actions generalizing folder with
  | nil => trivial
  | cons action actions ih =>
      intro folder' taken
      obtain ⟨here, later⟩ := spares folder' taken
      refine ⟨?_, ih (step_numbered numbered here taken) later⟩
      cases action with
      | safeRm name logs => exact fresh_of_notMem (numbered.notMem name)
      | delete file => trivial

def removals (containers : List (ContainerName × Logs)) : List (LogsAction Logs) :=
  containers.map fun container => .safeRm container.1 container.2

theorem lt_containerIndex_of_fresh {index : Nat} (logs : Logs)
    (fresh : ∀ containers, Transition.EachStep step Fresh folder (removals containers))
    (member : logFileName name index ∈ folder) : index < folder.containerIndex name := by
  by_contra above
  obtain ⟨distance, reaches⟩ := Nat.exists_eq_add_of_le (Nat.not_lt.mp above)
  induction distance generalizing folder with
  | zero =>
      obtain ⟨⟨absent, _⟩, _⟩ := fresh [(name, logs)] _ rfl
      rw [reaches] at member
      exact absent member
  | succ distance ih =>
      obtain ⟨⟨absent, _⟩, _⟩ := fresh [(name, logs)] _ rfl
      have counted : (folder.backupContainerLogs name logs).containerIndex name =
          folder.containerIndex name + 1 := by
        unfold backupContainerLogs
        rw [containerIndex_insert absent]
        exact congrArg _ (if_pos (isPrefixOf_logFileName name _))
      have reachesNext : index =
          (folder.backupContainerLogs name logs).containerIndex name + distance := by
        omega
      apply @ih (folder.backupContainerLogs name logs)
      · intro containers
        exact (fresh ((name, logs) :: containers) _ rfl).2
      · exact (AList.mem_insert _).mpr (.inr member)
      · omega
      · exact reachesNext

/-- The logs have to be numbered for this to hold of the removals from then on. -/
theorem numbered_iff_fresh :
    folder.Numbered ↔
      ∀ containers, Transition.EachStep step Fresh folder (removals containers) := by
  constructor
  · intro numbered containers
    apply eachStep_fresh numbered
    apply Transition.eachStep_of_mem
    intro _ action listed
    obtain ⟨container, _, rfl⟩ := List.mem_map.mp listed
    trivial
  · intro fresh name index member
    obtain ⟨logs, _⟩ := Option.isSome_iff_exists.mp (AList.lookup_isSome.mpr member)
    exact lt_containerIndex_of_fresh logs fresh member

/-- No backup replaces another one in a run from numbered logs whose deletions leave them
numbered; from other logs some removals do. -/
theorem backups_fresh (folder : LogsFolder Logs) :
    (folder.Numbered → ∀ actions, Transition.EachStep step SparesNumbers folder actions →
      Transition.EachStep step Fresh folder actions) ∧
    (folder.Numbered ↔
      ∀ containers, Transition.EachStep step Fresh folder (removals containers)) :=
  ⟨fun numbered _ => eachStep_fresh numbered, numbered_iff_fresh⟩

theorem numbered_of_logs {count : Nat} (counted : folder.containerIndex name = count)
    (logsOf : ∀ file ∈ folder, ∃ index < count, file = logFileName name index) :
    folder.Numbered := by
  intro other index member
  obtain ⟨known, below, same⟩ := logsOf _ member
  obtain ⟨texts, rfl⟩ := logFileName_inj same
  have own : folder.containerIndex other = folder.containerIndex name := by
    unfold containerIndex
    rw [texts]
  rw [own, counted]
  exact below

/-! ### The last or the first of two logs is deleted -/

def sampleName : ContainerName where
  text := "skale_schain_a".toList
  plain := by decide

def oneLog : LogsFolder Nat :=
  AList.insert (logFileName sampleName 0) 10 ∅

theorem oneLog_numbered : oneLog.Numbered := by
  apply numbered_of_logs (show oneLog.containerIndex sampleName = 1 by decide)
  intro file member
  rcases (AList.mem_insert _).mp member with same | none
  · exact ⟨0, Nat.one_pos, same⟩
  · exact absurd none (AList.notMem_empty _)

def newestDeleted : List (LogsAction Nat) :=
  [.safeRm sampleName 11, .delete (logFileName sampleName 1), .safeRm sampleName 12]

theorem newestDeleted_fresh : Transition.EachStep step Fresh oneLog newestDeleted := by
  refine (backups_fresh oneLog).1 oneLog_numbered newestDeleted ?_
  have saved : oneLog.backupContainerLogs sampleName 11 =
      oneLog.insert (logFileName sampleName 1) 11 := by
    unfold backupContainerLogs getLogsBackupFilepath
    rw [show oneLog.containerIndex sampleName = 1 by decide]
  have erased : Numbered ((oneLog.insert (logFileName sampleName 1) 11).erase
      (logFileName sampleName 1)) := by
    have counted : containerIndex ((oneLog.insert (logFileName sampleName 1) 11).erase
        (logFileName sampleName 1)) sampleName = 1 := by
      decide
    apply numbered_of_logs counted
    intro file member
    obtain ⟨apart, inside⟩ := AList.mem_erase.mp member
    rcases (AList.mem_insert _).mp inside with same | earlier
    · exact absurd same apart
    · rcases (AList.mem_insert _).mp earlier with same | none
      · exact ⟨0, Nat.one_pos, same⟩
      · exact absurd none (AList.notMem_empty _)
  rintro _ ⟨⟩
  refine ⟨trivial, ?_⟩
  intro folder taken
  rw [saved] at taken
  refine ⟨?_, ?_⟩
  · rw [saved]
    exact erased
  · intro _ _
    exact ⟨trivial, trivial⟩

def twoLogs : LogsFolder Nat :=
  (AList.insert (logFileName sampleName 1) 11 ∅).insert (logFileName sampleName 0) 10

def afterDeletion : List (LogsAction Nat) :=
  [.delete (logFileName sampleName 0), .safeRm sampleName 12]

theorem afterDeletion_overwrites :
    ¬ ∀ actions, Transition.EachStep step Fresh twoLogs actions := by
  intro claimed
  have deleted : twoLogs.step (.delete (logFileName sampleName 0)) =
      some (twoLogs.erase (logFileName sampleName 0)) := by
    rw [step, if_pos]
    decide
  obtain ⟨_, later⟩ := claimed afterDeletion _ deleted
  obtain ⟨⟨absent, _⟩, _⟩ := later _ rfl
  exact absent (by decide)

end LogsFolder

end SkaleAdmin.Docker

import SettingsStore.Proofs.Disk.Replace

/-!
# Databases that are opened again

A name stands either for a private database, which is a new one each time, or for a file. A database
that was opened in a file is found there when the file is opened again, also if it was made by the
first opening.
-/

namespace SettingsStore

namespace Disk

variable {d d' : Disk} {path : String} {handle : Nat} {loc : Location}

def databaseLocation (path : String) (d : Disk) : Location :=
  spelled (if Path.isAbsolute path then [] else d.locationOfHome) (Path.pieces path)

/-- What a name stands for does not depend on the disk. -/
theorem openNamed_cases (name : String) :
    (∀ d : Disk, d.openNamed name = none) ∨ (∀ d : Disk, d.openNamed name = some d.newDatabase) ∨
      ∃ path, ∀ d : Disk, d.openNamed name = d.openFile path := by
  unfold openNamed
  split
  · exact Or.inl fun _ => rfl
  · dsimp only
    split
    · exact Or.inl fun _ => rfl
    · next path _ =>
        by_cases hmemory : path = memoryName ∨ path = ""
        · exact Or.inr (Or.inl fun _ => if_pos hmemory)
        · exact Or.inr (Or.inr ⟨path, fun _ => if_neg hmemory⟩)

theorem find?_of_createDatabase {y : Node} (h : d.root.find? loc = some y) :
    (d.createDatabase loc).2.root.find? loc = some (.database (d.createDatabase loc).1) :=
  Node.find?_put_of_find? h

theorem find?_of_createDatabase_of_hasRoom (h : d.hasRoom loc = true) :
    (d.createDatabase loc).2.root.find? loc = some (.database (d.createDatabase loc).1) := by
  unfold hasRoom at h
  simp only [Bool.and_eq_true, decide_eq_true_eq] at h
  obtain ⟨⟨hne, _⟩, habove⟩ := h
  have hput := Node.find?_put_self (x := .database d.databases.length) habove (loc.getLast hne)
  rwa [List.dropLast_concat_getLast hne] at hput

theorem find?_of_openFile (h : d.openFile path = some (handle, d')) :
    d'.home = d.home ∧ d'.root.find? (d.databaseLocation path) = some (.database handle) := by
  unfold openFile at h
  rw [← databaseLocation] at h
  dsimp only at h
  split at h
  · next hfound =>
      cases h
      exact ⟨rfl, hfound⟩
  · cases h
  · next hfound =>
      split at h
      · cases h
        exact ⟨rfl, find?_of_createDatabase hfound⟩
      · cases h
  · split at h
    · next hroom =>
        cases h
        exact ⟨rfl, find?_of_createDatabase_of_hasRoom hroom⟩
    · cases h

theorem openFile_of_find? (h : d.root.find? (d.databaseLocation path) = some (.database handle)) :
    d.openFile path = some (handle, d) := by
  unfold openFile
  rw [← databaseLocation]
  simp only [h]

/-- Whatever became of a database in a file, it is the one that is opened there again. -/
theorem openFile_setDatabase (h : d.openFile path = some (handle, d')) (db : Database) :
    (d'.setDatabase handle db).openFile path = some (handle, d'.setDatabase handle db) := by
  obtain ⟨hhome, hfind⟩ := find?_of_openFile h
  apply openFile_of_find?
  unfold databaseLocation locationOfHome at hfind ⊢
  rw [show (d'.setDatabase handle db).home = d.home from hhome]
  exact hfind

end Disk

end SettingsStore

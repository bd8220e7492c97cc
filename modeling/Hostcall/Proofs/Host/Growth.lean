import Hostcall.Proofs.Host.Handles
import Mathlib.Data.List.Count
import Mathlib.Data.List.Perm.Basic
import Mathlib.Data.List.Nodup

/-!
# How the host's files grow

Between two calls of a host the tree only gains files: names stay, directories stay, and every file is
numbered among those that were created at its place (`Sound`, `Grows`). Where a path leads is a matter of
the directories (`place?_congr`), and what opening it gives is a matter of what stands there
(`openPath_toOption`).
-/

namespace Hostcall.Disk

/-- All files there are, those without a name included. -/
def files (d : Disk) : List FileId :=
  d.bodies.map (·.1)

/-- How many files were created at a place. -/
def births (d : Disk) (place : Location) : Nat :=
  (d.bodies.filter (·.1.birth = place)).length

/-- The file that is created next at a place. -/
def nextFile (d : Disk) (place : Location) : FileId :=
  ⟨place, d.births place⟩

/-- Every file is there once, numbered below the files still to come, and names lead to files that are
there. -/
structure Sound (d : Disk) : Prop where
  once : d.files.Nodup
  numbered {id : FileId} : id ∈ d.files → id.generation < d.births id.birth
  named {p : Location} {id : FileId} : d.node? p = some (.file id) → id ∈ d.files

/-- The births at a place count the files that were created there. -/
lemma births_eq_countP (d : Disk) (p : Location) : d.births p = d.files.countP (·.birth = p) := by
  rw [births, files, List.countP_map, List.countP_eq_length_filter]
  rfl

/-! ## Rewriting a file -/

/-- A file that is rewritten comes first. -/
lemma files_setBody (d : Disk) (id : FileId) (bytes : List UInt8) :
    (d.setBody id bytes).files = id :: d.files.filter (· ≠ id) := by
  simp only [files, setBody, List.map_cons, List.filter_map]
  rfl

/-- Rewriting a file that is there makes no file. -/
lemma mem_files_setBody {d : Disk} {id other : FileId} (h : id ∈ d.files) (bytes : List UInt8) :
    other ∈ (d.setBody id bytes).files ↔ other ∈ d.files := by
  by_cases ho : other = id <;> simp [files_setBody, ho, h]

/-- Rewriting a file that is there only moves it in the list. -/
lemma Sound.files_setBody_perm {d : Disk} (sound : d.Sound) {id : FileId} (h : id ∈ d.files)
    (bytes : List UInt8) : (d.setBody id bytes).files.Perm d.files := by
  have herase : d.files.filter (· ≠ id) = d.files.erase id := by
    rw [sound.once.erase_eq_filter]
    exact List.filter_congr fun other _ => by by_cases h : other = id <;> simp [h]
  rw [files_setBody, herase]
  exact (List.perm_cons_erase h).symm

/-- Rewriting a file is no birth. -/
lemma Sound.births_setBody {d : Disk} (sound : d.Sound) {id : FileId} (h : id ∈ d.files)
    (bytes : List UInt8) (p : Location) : (d.setBody id bytes).births p = d.births p := by
  rw [births_eq_countP, births_eq_countP, (sound.files_setBody_perm h bytes).countP_eq]

/-- Rewriting a file keeps a disk sound. -/
lemma Sound.setBody {d : Disk} (sound : d.Sound) {id : FileId} (h : id ∈ d.files)
    (bytes : List UInt8) : (d.setBody id bytes).Sound where
  once := (sound.files_setBody_perm h bytes).nodup_iff.mpr sound.once
  numbered hid := by
    rw [sound.births_setBody h]
    exact sound.numbered ((mem_files_setBody h bytes).mp hid)
  named hp := (mem_files_setBody h bytes).mpr (sound.named hp)

/-! ## Creating a file -/

/-- A new file comes first. -/
lemma files_addFile (d : Disk) (p : Location) :
    (d.addFile p).1.files = d.nextFile p :: d.files := rfl

/-- A new file stands at its place. -/
lemma node?_addFile_self (d : Disk) (p : Location) :
    (d.addFile p).1.node? p = some (.file (d.nextFile p)) := by
  simp [node?, addFile, nextFile, births]

/-- All other places are as they were. -/
lemma node?_addFile_of_ne (d : Disk) {p q : Location} (h : q ≠ p) :
    (d.addFile p).1.node? q = d.node? q := by
  have hq : (q == p) = false := by simpa using h
  simp [node?, addFile, List.lookup_cons, hq]

/-- A new file is no birth at any other place. -/
lemma births_addFile_of_ne (d : Disk) {p q : Location} (h : q ≠ p) :
    (d.addFile p).1.births q = d.births q := by
  simp [births, addFile, h.symm]

/-- A new file is one more birth at its place. -/
lemma births_addFile_self (d : Disk) (p : Location) :
    (d.addFile p).1.births p = d.births p + 1 := by
  simp [births, addFile]

/-- A new file is empty. -/
@[simp] lemma body_addFile_self (d : Disk) (p : Location) :
    (d.addFile p).1.body (d.nextFile p) = [] := by
  simp [body, addFile, nextFile, births]

/-- All other files keep their content. -/
lemma body_addFile_of_ne (d : Disk) {p : Location} {id : FileId} (h : id ≠ d.nextFile p) :
    (d.addFile p).1.body id = d.body id := by
  have hid : (id == d.nextFile p) = false := by simpa using h
  simp only [body, addFile, List.lookup_cons]
  rw [show (id == (⟨p, (d.bodies.filter (·.1.birth = p)).length⟩ : FileId)) = false from hid]

/-- The next file at a place is not there yet. -/
lemma Sound.nextFile_notMem {d : Disk} (sound : d.Sound) (p : Location) : d.nextFile p ∉ d.files :=
  fun h => Nat.lt_irrefl _ (sound.numbered h)

/-- Creating a file changes no content; one that is not there yet has none. -/
lemma Sound.body_addFile {d : Disk} (sound : d.Sound) (p : Location) (id : FileId) :
    (d.addFile p).1.body id = d.body id := by
  by_cases hid : id = d.nextFile p
  · have hnone : d.bodies.lookup id = none := by
      rw [List.lookup_eq_none_iff]
      rintro ⟨other, content⟩ he
      have hne : id ≠ other := fun h => sound.nextFile_notMem p (hid ▸ h ▸ List.mem_map_of_mem he)
      simpa using hne
    rw [hid, body_addFile_self, ← hid, body, hnone, Option.getD_none]
  · exact body_addFile_of_ne d hid

/-- Creating a file keeps a disk sound. -/
lemma Sound.addFile {d : Disk} (sound : d.Sound) (p : Location) : (d.addFile p).1.Sound where
  once := by
    rw [files_addFile, List.nodup_cons]
    exact ⟨sound.nextFile_notMem p, sound.once⟩
  numbered {id} hid := by
    obtain rfl | hid := List.mem_cons.mp (files_addFile d p ▸ hid)
    · rw [show (d.nextFile p).birth = p from rfl, births_addFile_self]
      exact Nat.lt_succ_self _
    · have hlt := sound.numbered hid
      by_cases hp : id.birth = p
      · rw [hp] at hlt ⊢
        rw [births_addFile_self]
        exact Nat.lt_succ_of_lt hlt
      · rwa [births_addFile_of_ne d hp]
  named {q id} hq := by
    rw [files_addFile]
    by_cases hqp : q = p
    · subst hqp
      rw [node?_addFile_self] at hq
      cases hq
      exact .head _
    · rw [node?_addFile_of_ne d hqp] at hq
      exact .tail _ (sound.named hq)

/-- A new file is empty as it is. -/
lemma Sound.setBody_addFile {d : Disk} (sound : d.Sound) (p : Location) :
    (d.addFile p).1.setBody (d.nextFile p) [] = (d.addFile p).1 := by
  have hkept : d.bodies.filter (·.1 ≠ d.nextFile p) = d.bodies := by
    refine List.filter_eq_self.mpr fun e he => ?_
    have hne : e.1 ≠ d.nextFile p := fun h => sound.nextFile_notMem p (h ▸ List.mem_map_of_mem he)
    simpa using hne
  have hnew : (d.addFile p).1.bodies = (d.nextFile p, []) :: d.bodies := rfl
  have hfilter : (d.addFile p).1.bodies.filter (·.1 ≠ d.nextFile p) = d.bodies := by
    rw [hnew, List.filter_cons_of_neg (by simp), hkept]
  simp only [Disk.setBody, hfilter]
  rfl

/-! ## Where paths lead -/

/-- The place of a file; a path that ends at a directory or in a separator names none. -/
def Destination.file? : Destination → Option Location
  | .entry place name false =>
    if nameLimit < (Utf8.encode name).length then none else some (enter place name)
  | _ => none

/-- The place of the file that a path names, whether or not one is there. -/
def place? (d : Disk) (path : String) : Option Location :=
  (d.destination path).toOption.bind Destination.file?

/-- What opening gives where a path leads to a place. -/
def openAt (d : Disk) (p : Location) (access : Access) : Option (Disk × OpenFile) :=
  match d.node? p with
  | some node =>
    node.backing?.map fun backing =>
      (if access = .write then d.truncate backing else d, { backing, access })
  | none =>
    if access ≠ .read ∧ d.admits p.dropLast then
      let (e, id) := d.addFile p
      some (if access = .write then e.truncate (.regular id) else e, { backing := .regular id, access })
    else none

/-- The last name of a path that leads into a directory is a name of its own. -/
lemma name_of_destination {d : Disk} {path name : String} {place : Location} {separated : Bool}
    (h : d.destination path = .ok (.entry place name separated)) : name ≠ "." ∧ name ≠ ".." := by
  simp only [destination] at h
  split at h
  · cases h
  split at h
  · cases h
  split at h
  · cases h
  split at h
  · cases h
  · next last _ =>
    split at h
    · cases hw : d.walk (if Path.isAbsolute path = true then [] else d.home) (Path.names path) <;>
        rw [hw] at h <;> cases h
    · next hlast =>
      cases hw : d.walk (if Path.isAbsolute path = true then [] else d.home)
          (Path.names path).dropLast <;> rw [hw] at h <;> cases h
      exact not_or.mp hlast

/-- A name of its own is put behind the names of its directory. -/
lemma enter_of_name {place : Location} {name : String} (h : name ≠ "." ∧ name ≠ "..") :
    enter place name = place ++ [name] := by
  rw [enter, if_neg h.1, if_neg h.2]

/-- Opening a path is opening what stands at its place. -/
lemma openPath_toOption (d : Disk) (path : String) (access : Access) :
    (d.openPath path access).toOption = (d.place? path).bind (d.openAt · access) := by
  cases hd : d.destination path with
  | error cause => cases access <;> simp [openPath, lookup, lookupOrCreate, place?, hd, Except.toOption]
  | ok destination =>
    cases destination with
    | directory =>
      cases access <;>
        simp [openPath, lookup, lookupOrCreate, place?, hd, Except.toOption, Destination.file?,
          Node.backing?]
    | entry place name separated =>
      have hname : enter place name = place ++ [name] := enter_of_name (name_of_destination hd)
      by_cases hlong : nameLimit < (Utf8.encode name).length
      · have hfind : d.find place name = .error .nameTooLong := by simp [find, hlong]
        cases separated <;> cases access <;>
          simp [openPath, lookup, lookupOrCreate, place?, hd, hfind, Except.toOption, Destination.file?, hlong]
      cases hn : d.node? (enter place name) with
      | none =>
        have hfind : d.find place name = .error .notFound := by simp [find, hlong, hn]
        have hdir : (enter place name).dropLast = place := by simp [hname]
        by_cases hadmits : d.admits place <;> cases separated <;> cases access <;>
          simp [openPath, lookup, lookupOrCreate, place?, hd, hfind, Except.toOption, Destination.file?,
            hlong, openAt, hn, hdir, hadmits, Node.backing?]
      | some node =>
        have hfind : d.find place name = .ok node := by simp [find, hlong, hn]
        cases node <;> cases separated <;> cases access <;>
          simp [openPath, lookup, lookupOrCreate, place?, hd, hfind, Except.toOption, Destination.file?,
            hlong, openAt, hn, Node.backing?]

/-- Going down from a name that is no directory leads nowhere. -/
lemma walk_cons_of_ne {d : Disk} {place : Location} {name : String} (names : List String)
    (h : d.find place name ≠ .ok .directory) : (d.walk place (name :: names)).toOption = none := by
  simp only [walk]
  split
  · rfl
  · next hf => exact absurd hf h
  · rfl

/-- A name leads to a directory if it is not too long and one stands there. -/
lemma find_eq_directory_iff {d : Disk} {place : Location} {name : String} :
    d.find place name = .ok .directory ↔
      (Utf8.encode name).length ≤ nameLimit ∧ d.node? (enter place name) = some .directory := by
  simp only [find]
  split
  · next h => simp [Nat.not_le.mpr h]
  · next h =>
    cases d.node? (enter place name) <;> simp [Nat.not_lt.mp h]

/-- Walking down is a matter of the directories. -/
lemma walk_congr {d e : Disk} (h : ∀ p, e.node? p = some .directory ↔ d.node? p = some .directory)
    (place : Location) (names : List String) :
    (e.walk place names).toOption = (d.walk place names).toOption := by
  induction names generalizing place with
  | nil => rfl
  | cons name names ih =>
    have hfind : e.find place name = .ok .directory ↔ d.find place name = .ok .directory := by
      rw [find_eq_directory_iff, find_eq_directory_iff, h]
    by_cases hf : d.find place name = .ok .directory
    · simp only [walk, hf, hfind.mpr hf]
      exact ih _
    · rw [walk_cons_of_ne names hf, walk_cons_of_ne names (mt hfind.mp hf)]

/-- Where a path leads is a matter of the directories. -/
lemma place?_congr {d e : Disk} (hhome : e.home = d.home)
    (h : ∀ p, e.node? p = some .directory ↔ d.node? p = some .directory) (path : String) :
    e.place? path = d.place? path := by
  have hmap {α : Type} (start : Location) (names : List String) (f : Location → α) :
      ((e.walk start names).map f).toOption = ((d.walk start names).map f).toOption := by
    have hw := walk_congr h start names
    cases he : e.walk start names <;> cases hd : d.walk start names <;>
      simp_all [Except.toOption, Except.map]
  have hdest : (e.destination path).toOption = (d.destination path).toOption := by
    simp only [destination, hhome]
    repeat' split
    all_goals first | rfl | exact hmap _ _ _
  rw [place?, place?, hdest]

/-- The regular file that a path leads to. -/
def fileAt? (d : Disk) (path : String) : Option FileId :=
  match d.lookup path with
  | .ok (.file id) => some id
  | _ => none

/-- A path leads to the file that stands at its place. -/
lemma fileAt?_of_place? {d : Disk} {path : String} {p : Location} {id : FileId}
    (hp : d.place? path = some p) (hn : d.node? p = some (.file id)) : d.fileAt? path = some id := by
  simp only [place?] at hp
  cases hd : d.destination path with
  | error cause => simp [hd, Except.toOption] at hp
  | ok destination =>
    rw [hd] at hp
    cases destination with
    | directory => cases hp
    | entry place name separated =>
      cases separated with
      | true => cases hp
      | false =>
        simp only [Except.toOption, Option.bind_some, Destination.file?] at hp
        split at hp
        · cases hp
        · next hlong =>
          cases hp
          simp [fileAt?, lookup, hd, find, hlong, hn]

/-! ## Growth -/

/-- Whatever was there is still there, and all that is new are files. -/
structure Grows (d e : Disk) : Prop where
  home : e.home = d.home
  grounds : e.grounds = d.grounds
  kept {p : Location} {node : Node} : d.node? p = some node → e.node? p = some node
  gained {p : Location} {node : Node} : e.node? p = some node → d.node? p = none → ∃ id, node = .file id
  files {id : FileId} : id ∈ d.files → id ∈ e.files

/-- A disk that stays as it is grows. -/
lemma Grows.refl (d : Disk) : d.Grows d :=
  ⟨rfl, rfl, id, fun hn hnone => absurd (hnone.symm.trans hn) nofun, id⟩

/-- Growing further is growing. -/
lemma Grows.trans {c d e : Disk} (h : c.Grows d) (g : d.Grows e) : c.Grows e where
  home := g.home.trans h.home
  grounds := g.grounds.trans h.grounds
  kept hn := g.kept (h.kept hn)
  gained {p node} hn hnone := by
    cases hd : d.node? p with
    | none => exact g.gained hn hd
    | some n =>
      obtain ⟨id, rfl⟩ := h.gained hd hnone
      exact ⟨id, Option.some.inj (hn.symm.trans (g.kept hd))⟩
  files hid := g.files (h.files hid)

/-- Rewriting a file that is there only changes what is in it. -/
lemma Grows.setBody {d : Disk} {id : FileId} (h : id ∈ d.files) (bytes : List UInt8) :
    d.Grows (d.setBody id bytes) where
  home := rfl
  grounds := rfl
  kept hn := hn
  gained hn hnone := absurd (hnone.symm.trans hn) nofun
  files := (mem_files_setBody h bytes).mpr

/-- A file that is created where there is nothing takes nothing away. -/
lemma Grows.addFile {d : Disk} {p : Location} (h : d.node? p = none) : d.Grows (d.addFile p).1 where
  home := rfl
  grounds := rfl
  kept {q node} hn := by
    have hq : q ≠ p := by
      rintro rfl
      rw [h] at hn
      cases hn
    rw [node?_addFile_of_ne d hq, hn]
  gained {q node} hn hnone := by
    by_cases hq : q = p
    · rw [hq, node?_addFile_self] at hn
      exact ⟨_, (Option.some.inj hn).symm⟩
    · rw [node?_addFile_of_ne d hq, hnone] at hn
      cases hn
  files := List.mem_cons_of_mem _

/-- Directories neither come nor go. -/
lemma Grows.directories {d e : Disk} (h : d.Grows e) (p : Location) :
    e.node? p = some .directory ↔ d.node? p = some .directory := by
  refine ⟨fun he => ?_, h.kept⟩
  cases hd : d.node? p with
  | none =>
    obtain ⟨id, hid⟩ := h.gained he hd
    cases hid
  | some node => exact (h.kept hd).symm.trans he

/-- Paths go on leading where they led. -/
lemma Grows.place? {d e : Disk} (h : d.Grows e) (path : String) : e.place? path = d.place? path :=
  place?_congr h.home h.directories path

end Hostcall.Disk

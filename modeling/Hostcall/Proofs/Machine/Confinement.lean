import Hostcall.Proofs.Host.Regions
import Hostcall.Proofs.Machine.Intake
import Hostcall.Proofs.Machine.Opening
import Hostcall.Proofs.World.Runs

/-!
# What a guest's calls reach

Only opening and writing change the host's files (`World.confined_of_usesDisk`). What a call does to them lies
in any region that takes in the files which the active state has open and the places of the paths it opens
(`Confined`, `World.confined_call`).
-/

namespace Hostcall

open Pane

/-- The regular file behind an open file. -/
def OpenFile.file? (f : OpenFile) : Option FileId :=
  match f.backing with
  | .regular id => some id
  | _ => none

/-- The regular file behind an open file is the one that backs it. -/
lemma OpenFile.file?_eq_some_iff {f : OpenFile} {id : FileId} :
    f.file? = some id ↔ f.backing = .regular id := by
  rw [file?]
  cases f.backing <;> simp

namespace Table

/-- The regular file that a slot leads to. -/
def fileAt? (t : Table) (i : Fin tableSize) : Option FileId :=
  (t.slotAt i).bind fun s => s.stream.bind fun
    | .file f => f.file?
    | .standard _ => none

/-- The regular files that are open. -/
def files (t : Table) : List FileId :=
  (List.finRange tableSize).filterMap t.fileAt?

variable {t u : Table} {id : FileId}

/-- A file is open if some slot leads to it. -/
lemma mem_files_iff : id ∈ t.files ↔ ∃ i, t.fileAt? i = some id := by
  simp [files]

/-- Slots that lead to a file lead to one that is open. -/
lemma mem_files_of_slotAt {i : Fin tableSize} {s : Slot} {f : OpenFile} (hs : t.slotAt i = some s)
    (hf : s.stream = some (.file f)) (hid : f.backing = .regular id) : id ∈ t.files :=
  mem_files_iff.mpr ⟨i, by simp [fileAt?, hs, hf, OpenFile.file?_eq_some_iff.mpr hid]⟩

/-- Descriptors that lead to a file lead to one that is open. -/
lemma mem_files_of_stream? {fd : Int} {f : OpenFile} (h : t.stream? fd = some (.file f))
    (hid : f.backing = .regular id) : id ∈ t.files := by
  simp only [stream?, slot?, Option.bind_eq_some_iff] at h
  obtain ⟨s, ⟨i, -, hs⟩, hf⟩ := h
  exact mem_files_of_slotAt hs hf hid

/-- Filling a slot with a file opens no other. -/
lemma mem_files_of_setSlot {i : Fin tableSize} {s : Slot} {f : OpenFile}
    (hf : s.stream = some (.file f)) (h : id ∈ (t.setSlot i (some s)).files) :
    f.backing = .regular id ∨ id ∈ t.files := by
  obtain ⟨j, hj⟩ := mem_files_iff.mp h
  by_cases hij : i = j
  · subst hij
    simp only [fileAt?, slotAt_setSlot_self, Option.bind_some, hf] at hj
    exact .inl (OpenFile.file?_eq_some_iff.mp hj)
  · rw [fileAt?, slotAt_setSlot_of_ne _ _ hij] at hj
    exact .inr (mem_files_iff.mpr ⟨j, hj⟩)

/-- Putting a file back behind its descriptor opens no other. -/
lemma mem_files_of_bind {fd : Int} {f g : OpenFile} (hf : t.stream? fd = some (.file f))
    (same : f.SameHandle g) (h : id ∈ (t.bind fd (.file g)).2.files) : id ∈ t.files := by
  have hstream := hf
  simp only [stream?, slot?, Option.bind_eq_some_iff] at hf
  obtain ⟨s, ⟨i, hi, hs⟩, -⟩ := hf
  obtain rfl := index?_eq_some_iff.mp hi
  rw [bind_fdOf hs] at h
  obtain hid | hid := mem_files_of_setSlot rfl h
  · exact mem_files_of_stream? hstream (same.1.symm.trans hid)
  · exact hid

/-- Releasing a descriptor opens no file. -/
lemma mem_files_of_close {fd : Int} (h : id ∈ (t.close fd).files) : id ∈ t.files := by
  obtain ⟨j, hj⟩ := mem_files_iff.mp h
  rw [fileAt?, slotAt_close] at hj
  split at hj
  · cases hj
  · exact mem_files_iff.mpr ⟨j, hj⟩

/-- A call on a descriptor opens no file. -/
lemma Touch.files {fd : Int} (touch : t.Touch fd u) (h : id ∈ u.files) : id ∈ t.files := by
  cases touch with
  | same => exact h
  | moved hf same => exact mem_files_of_bind hf same h
  | closed => exact mem_files_of_close h

/-- No file is open at first. -/
lemma files_initial : initial.files = [] := by
  decide +kernel

end Table

namespace Machine

/-- What a machine has from its host: the files and the settings. -/
def host (m : Machine) : Disk × Settings :=
  (m.disk, m.settings)

/-- What touches neither files nor settings leaves the host alone. -/
lemma Touches.host {m n : Machine} {a : List Part} (h : m.Touches a n)
    (hp : [.disk, .settings].any a.contains = false) : n.host = m.host := by
  have hparts := h.parts hp
  exact congrArg₂ Prod.mk (hparts .disk (by decide)) (hparts .settings (by decide))

/-! ## What a call does within a region -/

/-- What a call did to the host's files lies in a region, and so do the files that it opened; it left the
settings alone. -/
structure Confined (R : Region) (m n : Machine) : Prop where
  disk : m.disk.Change R n.disk
  files {id : FileId} : id ∈ n.state.table.files →
    id ∈ m.state.table.files ∨ id ∈ R.files ∧ id ∈ n.disk.files
  settings : n.settings = m.settings

/-- The disk is sound, and the files that are open are there and lie in a region. -/
structure Within (R : Region) (m : Machine) : Prop where
  sound : m.disk.Sound
  files {id : FileId} : id ∈ m.state.table.files → id ∈ R.files ∧ id ∈ m.disk.files

variable {R : Region} {m n : Machine}

/-- What leaves the host alone and opens no file is confined to any region. -/
lemma Confined.of_host (hh : n.host = m.host)
    (hfiles : ∀ id, id ∈ n.state.table.files → id ∈ m.state.table.files) : m.Confined R n where
  disk := by
    rw [show n.disk = m.disk from congrArg Prod.fst hh]
    exact .same
  files hid := .inl (hfiles _ hid)
  settings := congrArg Prod.snd hh

/-- What leaves both the host and the table alone is confined to any region. -/
lemma Confined.of_table (hh : n.host = m.host) (ht : n.state.table = m.state.table) :
    m.Confined R n :=
  .of_host hh fun _ hid => ht ▸ hid

/-- A call that is confined leaves a machine within the region. -/
lemma Within.confined (h : m.Within R) (c : m.Confined R n) : n.Within R where
  sound := c.disk.sound h.sound
  files hid := by
    obtain hid | hid := c.files hid
    · exact ⟨(h.files hid).1, c.disk.grows.files (h.files hid).2⟩
    · exact hid

/-- What only touches the accounts behind a call stays confined. -/
lemma Confined.then {l : Machine} (c : m.Confined R n) (hh : l.host = n.host)
    (ht : l.state.table = n.state.table) : m.Confined R l where
  disk := by
    rw [show l.disk = n.disk from congrArg Prod.fst hh]
    exact c.disk
  files hid := by
    rw [show l.disk = n.disk from congrArg Prod.fst hh]
    exact c.files (ht ▸ hid)
  settings := (congrArg Prod.snd hh).trans c.settings

/-- Opening a path that leads into a region is confined to it. -/
lemma confined_tryOpen (h : m.Within R) {name : String} {flags : OpenFlags}
    (hplace : ∀ p, m.disk.place? (m.settings.resolve name) = some p → p ∈ R.places)
    (spans : R.Spans m.disk (m.tryOpen name flags).2.disk) :
    m.Confined R (m.tryOpen name flags).2 := by
  cases ho : m.tryOpen name flags with
  | mk result n =>
    rw [ho] at spans
    cases result with
    | error fault =>
      obtain ⟨-, es, rfl⟩ := tryOpen_error ho
      exact .of_table rfl rfl
    | ok fd =>
      obtain ⟨i, mode, disk, f, es, -, -, hopen, -, rfl⟩ := tryOpen_ok ho
      obtain ⟨hdisk, hf⟩ := Disk.openPath_change h.sound hplace spans hopen
      refine ⟨hdisk, fun {id} hid => ?_, rfl⟩
      obtain hid | hid := Table.mem_files_of_setSlot rfl hid
      · exact .inr (hf id hid)
      · exact .inl hid

/-- Opening a file tells its result, and is otherwise confined as the attempt is. -/
lemma confined_openFile (h : m.Within R) {name : String} {flags : OpenFlags}
    (hplace : ∀ p, m.disk.place? (m.settings.resolve name) = some p → p ∈ R.places)
    (spans : R.Spans m.disk (m.openFile name flags).2.disk) :
    m.Confined R (m.openFile name flags).2 := by
  have c := @confined_tryOpen R m h name flags hplace
  simp only [openFile] at spans ⊢
  split at spans <;> rename_i ho <;> rw [ho] at c <;> exact (c spans).then rfl rfl

/-- Writing through a stream rewrites at most the file behind it. -/
lemma confined_writeStream (h : m.Within R) {fd : Int} {bytes : List UInt8}
    {outcome : Except HostError Unit} (hw : m.writeStream fd bytes = some (outcome, n)) :
    m.Confined R n := by
  simp only [writeStream] at hw
  split at hw
  · cases hw
  · cases hw
    exact .of_table rfl rfl
  · next f hf =>
    split at hw
    · cases hw
      exact .of_table rfl rfl
    · next disk g hwrite =>
      cases hw
      have hchange := Disk.write_change
        (fun id hid => h.files (Table.mem_files_of_stream? hf hid)) hwrite
      exact ⟨hchange, fun hid => .inl (Table.mem_files_of_bind hf (Disk.write_keeps hwrite) hid), rfl⟩

/-- A write is confined to any region that its machine is within. -/
lemma confined_writeTo (h : m.Within R) (fd : Int) (bytes : List UInt8) :
    m.Confined R (m.writeTo fd bytes).2 := by
  have hstandard (channel : StdChannel) :
      let result := m.writeStandard channel bytes
      m.Confined R (result.2.endWrite fd bytes result.1).2 := by
    intro result
    have hend := (m.touches_writeStandard channel bytes).append (touches_endWrite _ fd bytes result.1)
    exact .of_table (hend.host rfl) (hend.table rfl)
  simp only [writeTo]
  split
  · exact .of_table rfl rfl
  · split
    · exact hstandard .output
    · split
      · exact hstandard .error
      · split
        · exact .of_table rfl rfl
        · next n hw =>
          have hend := n.touches_endWrite fd bytes
          exact (confined_writeStream h hw).then ((hend _).host rfl) ((hend _).table rfl)

/-- A reset leaves no file open. -/
lemma confined_resetFiles : m.Confined R m.resetFiles := by
  refine .of_host (m.touches_resetFiles.host rfl) fun id hid => ?_
  rw [resetFiles_table, Table.files_initial] at hid
  cases hid

end Machine

/-- Whether the paths that a call opens lead into a region. -/
def Call.StaysIn (R : Region) (d : Disk) (settings : Settings) : Call → Prop
  | .openFile name _ => ∀ p, d.place? (settings.resolve name) = some p → p ∈ R.places
  | _ => True

/-- Every path leads to somewhere. -/
lemma Call.staysIn_whole (c : Call) (d : Disk) (settings : Settings) : c.StaysIn .whole d settings := by
  cases c with
  | openFile => exact fun _ _ => trivial
  | _ => trivial

/-- Paths go on leading into a region while the disk grows. -/
lemma Call.StaysIn.grows {R : Region} {c : Call} {d e : Disk} {settings : Settings}
    (h : c.StaysIn R d settings) (hg : d.Grows e) : c.StaysIn R e settings := by
  cases c with
  | openFile name flags => exact fun p hp => h p ((hg.place? _).symm.trans hp)
  | _ => trivial

/-- Whether a call can do anything to the host's files. -/
def Call.usesDisk : Call → Bool
  | .openFile .. | .writeTo .. => true
  | _ => false

/-- Whether a call works on the active state and takes the settings as they are. -/
def Call.keepsState : Call → Bool
  | .swap _ | .parkNew _ | .setSettings _ => false
  | _ => true

namespace World

variable {R : Region} {w : World}

/-- A call that does not use the host's files is confined to any region. -/
lemma confined_of_usesDisk {c : Call} (hc : c.keepsState = true) (hdisk : c.usesDisk = false) :
    w.machine.Confined R (w.call c).2.machine := by
  cases c with
  | readFrom | seek | closeFile => exact .of_host ((w.touches_call _).host rfl) fun _ => (touch_call rfl).files
  | resetFiles => exact Machine.confined_resetFiles
  | openFile | writeTo => cases hdisk
  | swap | parkNew | setSettings => cases hc
  | _ => exact .of_table ((w.touches_call _).host rfl) (table_call rfl)

/-- A call is confined to any region that the active state is within and its paths lead into. -/
lemma confined_call (h : w.machine.Within R) {c : Call} (hc : c.keepsState = true)
    (stays : c.StaysIn R w.machine.disk w.machine.settings)
    (spans : R.Spans w.machine.disk (w.call c).2.machine.disk) :
    w.machine.Confined R (w.call c).2.machine := by
  cases c with
  | openFile name flags => exact Machine.confined_openFile h stays spans
  | writeTo fd bytes => exact Machine.confined_writeTo h fd bytes
  | _ => exact confined_of_usesDisk hc rfl

/-- A call that does not use the host's files leaves them alone. -/
lemma disk_call {c : Call} (hdisk : c.usesDisk = false) :
    (w.call c).2.machine.disk = w.machine.disk := by
  refine (w.touches_call c).disk ?_
  cases c <;> first | rfl | cases hdisk

end World

end Hostcall

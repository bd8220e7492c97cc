import Hostcall.Proofs.Machine.Confinement
import Hostcall.Proofs.Pane.Screen
import Mathlib.Tactic.SplitIfs

/-!
# Machines that a guest cannot tell apart

Two machines without a front end are twins in a region if they have one state and one setting of paths and
their disks agree on the region (`Twin`). A guest's call that stays in the region gives the same answer on
both and leaves the same state behind (`Alike`, `World.alike_call`).
-/

namespace Hostcall

/-- Whether a call is one that a guest makes of the active state and the host's files. -/
def Call.byGuest : Call → Bool
  | .flush _ | .attachNew _ | .attach _ | .adjustFront .. | .takeHandle | .flushThrough .. | .parkNew _
  | .swap _ | .setSettings _ => false
  | _ => true

/-- No guest exchanges states or sets anything. -/
lemma Call.keepsState_of_byGuest {c : Call} (h : c.byGuest = true) : c.keepsState = true := by
  cases c <;> first | rfl | cases h

namespace Machine

/-! ## Twins -/

/-- As far as a guest that stays in a region can tell, both machines are the same. -/
structure Twin (R : Region) (m n : Machine) : Prop where
  detached : m.attached? = none
  apart : n.attached? = none
  state : n.state = m.state
  settings : n.settings = m.settings
  disk : m.disk.Agree R n.disk

/-- Both calls gave the same answer, left the same state behind, and left the disks alike. -/
structure Alike {α : Type} (R : Region) (a b : α × Machine) : Prop where
  reply : b.1 = a.1
  state : b.2.state = a.2.state
  disk : a.2.disk.Agree R b.2.disk

variable {R : Region} {m n : Machine}

/-- Answers that are made of the same answers are the same. -/
lemma Alike.map {α β : Type} {a b : α × Machine} (h : Alike R a b) (f : α → β) :
    Alike R (f a.1, a.2) (f b.1, b.2) :=
  ⟨congrArg f h.reply, h.state, h.disk⟩

/-- What leaves both disks alone leaves them alike. -/
lemma Twin.alike {α : Type} (h : m.Twin R n) {a b : α × Machine} (hreply : b.1 = a.1)
    (hstate : b.2.state = a.2.state) (ha : a.2.disk = m.disk) (hb : b.2.disk = n.disk) :
    Alike R a b :=
  ⟨hreply, hstate, by rw [ha, hb]; exact h.disk⟩

/-- Only the table and the channels of a state are ever set. -/
lemma setTable_state (m : Machine) (t : Table) :
    (m.setTable t).state = { m.state with table := t } := rfl

/-- Setting the channels leaves the table of the state alone. -/
lemma setChannels_state (m : Machine) (c : Console.Channels) :
    (m.setChannels c).state = { m.state with channels := c } := rfl

/-- Channels that are set on both are the same, whatever they are. -/
lemma Twin.setChannels {α : Type} (h : m.Twin R n) (result : α) (c : Console.Channels) :
    Alike R (result, m.setChannels c) (result, n.setChannels c) :=
  h.alike rfl (by rw [setChannels_state, setChannels_state, h.state]) rfl rfl

/-- A table that is set on both is the same, whatever it is. -/
lemma Twin.setTable {α : Type} (h : m.Twin R n) (result : α) (t : Table) :
    Alike R (result, m.setTable t) (result, n.setTable t) :=
  h.alike rfl (by rw [setTable_state, setTable_state, h.state]) rfl rfl

/-- Logging leaves alike what was alike. -/
lemma Alike.log {α : Type} {a b : α × Machine} (h : Alike R a b) (es : List LogEntry) :
    Alike R (a.1, a.2.log es) (b.1, b.2.log es) :=
  ⟨h.reply, h.state, h.disk⟩

/-! ## Console -/

/-- Twins have one console, and so one next line. -/
lemma Twin.readConsoleLine (h : m.Twin R n) (standIn : String) :
    Alike R (m.readConsoleLine standIn) (n.readConsoleLine standIn) := by
  simp only [Machine.readConsoleLine, h.state]
  split
  · exact h.setChannels _ _
  · exact (h.setChannels _ _).log _

/-- Twins have one next byte. -/
lemma Twin.readConsoleByte (h : m.Twin R n) : Alike R m.readConsoleByte n.readConsoleByte := by
  simp only [Machine.readConsoleByte, h.state]
  split
  · exact h.setChannels _ _
  · exact (h.setChannels _ _).log _

/-- With no front end a line comes from the console. -/
lemma Twin.obtainLine (h : m.Twin R n) (standIn prompt : String) (limit : Int) :
    Alike R (m.obtainLine standIn prompt limit) (n.obtainLine standIn prompt limit) := by
  rw [obtainLine_of_detached h.detached, obtainLine_of_detached h.apart]
  exact (h.readConsoleLine standIn).map Except.ok

/-- With no front end a byte comes from the console. -/
lemma Twin.obtainByte (h : m.Twin R n) (prompt : String) :
    Alike R (m.obtainByte prompt) (n.obtainByte prompt) := by
  rw [obtainByte_of_detached h.detached, obtainByte_of_detached h.apart]
  exact h.readConsoleByte.map Except.ok

/-- Twins read the same character. -/
lemma Twin.readChar (h : m.Twin R n) (service : Nat) : Alike R (m.readChar service) (n.readChar service) :=
  (h.obtainByte _).map (Except.map charCode)

/-- Twins read the same string. -/
lemma Twin.readString (h : m.Twin R n) (service : Nat) (limit : Int) :
    Alike R (m.readString service limit) (n.readString service limit) :=
  (h.obtainLine _ _ _).map (Except.map (cutLineTo limit))

/-- Twins read the same value, or fail to for the same reason. -/
lemma Twin.readValue {α ε : Type} (h : m.Twin R n) (what : String) (service : Nat)
    (parse : String → Except ε α) (message : ε → String) :
    Alike R (m.readValue what service parse message) (n.readValue what service parse message) := by
  have hline := h.obtainLine "0" s!"Enter {what} (syscall {service})" (-1)
  simp only [Machine.readValue, hline.reply]
  split
  · exact ⟨rfl, hline.state, hline.disk⟩
  · split <;> exact ⟨rfl, hline.state, hline.disk⟩

/-- Twins print to the same outlet. -/
lemma Twin.print (h : m.Twin R n) (text : String) :
    Alike R ((), m.print text) ((), n.print text) := by
  simp only [Machine.print, h.detached, h.apart, h.state]
  split
  · exact h.setChannels _ _
  · exact (h.setChannels _ _).log _

/-! ## Files -/

/-- The end of a read gives what was read, and the state as it is. -/
lemma Alike.endRead {a b : Except HostError Transfer × Machine} (h : Alike R a b) (fd : Int)
    (buffer : List UInt8) : Alike R (a.2.endRead fd buffer a.1) (b.2.endRead fd buffer b.1) := by
  obtain ⟨outcome, m⟩ := a
  obtain ⟨other, n⟩ := b
  obtain rfl : other = outcome := h.reply
  cases other <;> exact ⟨rfl, h.state, h.disk⟩

/-- The end of a write gives the number of bytes, and the state as it is. -/
lemma Alike.endWrite {a b : Except HostError Unit × Machine} (h : Alike R a b) (fd : Int)
    (bytes : List UInt8) : Alike R (a.2.endWrite fd bytes a.1) (b.2.endWrite fd bytes b.1) := by
  obtain ⟨outcome, m⟩ := a
  obtain ⟨other, n⟩ := b
  obtain rfl : other = outcome := h.reply
  cases other <;> exact ⟨rfl, h.state, h.disk⟩

/-- Reading through a stream is the same on both. -/
lemma Twin.readStream (h : m.Twin R n) (wm : m.Within R) (fd : Int) (count : Nat) :
    Option.Rel (Alike R) (m.readStream fd count) (n.readStream fd count) := by
  simp only [Machine.readStream, h.state]
  split
  · exact .none
  · exact .some (h.setChannels _ _)
  · exact .some (h.alike rfl h.state rfl rfl)
  · next f hf =>
    rw [h.disk.read fun id hid => (wm.files (Table.mem_files_of_stream? hf hid)).1]
    split
    · exact .some (h.alike rfl h.state rfl rfl)
    · exact .some (h.setTable _ _)

/-- Writing through a stream is the same on both. -/
lemma Twin.writeStream (h : m.Twin R n) (wm : m.Within R) (wn : n.Within R) (fd : Int)
    (bytes : List UInt8) :
    Option.Rel (Alike R) (m.writeStream fd bytes) (n.writeStream fd bytes) := by
  simp only [Machine.writeStream, h.state]
  split
  · exact .none
  · exact .some (h.setChannels _ _)
  · next f hf =>
    have hfile {id} (hid : f.backing = .regular id) :
        id ∈ R.files ∧ id ∈ m.disk.files ∧ id ∈ n.disk.files := by
      obtain ⟨hR, hm⟩ := wm.files (Table.mem_files_of_stream? hf hid)
      obtain ⟨-, hn⟩ := wn.files (Table.mem_files_of_stream? (h.state ▸ hf) hid)
      exact ⟨hR, hm, hn⟩
    obtain ⟨cause, hm, hn⟩ | ⟨d, e, g, hm, hn, hagree⟩ :=
      h.disk.write wm.sound wn.sound (fun _ => hfile) bytes
    · rw [hm, hn]
      exact .some (h.alike rfl h.state rfl rfl)
    · rw [hm, hn]
      refine .some ⟨rfl, ?_, hagree⟩
      simp only [setTable_state]

/-- Twins give the same bytes. -/
lemma Twin.readFrom (h : m.Twin R n) (wm : m.Within R) (fd : Int) (buffer : List UInt8) :
    Alike R (m.readFrom fd buffer) (n.readFrom fd buffer) := by
  have hstream := h.readStream wm fd buffer.length
  simp only [Machine.readFrom, h.state, obtainBytes_of_detached h.detached,
    obtainBytes_of_detached h.apart]
  split
  · exact h.alike rfl h.state rfl rfl
  · split
    · exact (h.setChannels _ _).endRead fd buffer
    · generalize m.readStream fd buffer.length = a at hstream
      generalize n.readStream fd buffer.length = b at hstream
      cases hstream with
      | none => exact h.alike rfl h.state rfl rfl
      | some halike => exact (halike.map (Except.map fun bytes => ({ bytes } : Transfer))).endRead fd buffer

/-- Twins take the same bytes. -/
lemma Twin.writeTo (h : m.Twin R n) (wm : m.Within R) (wn : n.Within R) (fd : Int)
    (bytes : List UInt8) : Alike R (m.writeTo fd bytes) (n.writeTo fd bytes) := by
  have hstream := h.writeStream wm wn fd bytes
  simp only [Machine.writeTo, h.state, writeStandard_of_detached h.detached,
    writeStandard_of_detached h.apart]
  split
  · exact h.alike rfl h.state rfl rfl
  · split
    · exact (h.setChannels _ _).endWrite fd bytes
    · split
      · exact (h.setChannels _ _).endWrite fd bytes
      · generalize m.writeStream fd bytes = a at hstream
        generalize n.writeStream fd bytes = b at hstream
        cases hstream with
        | none => exact h.alike rfl h.state rfl rfl
        | some halike => exact halike.endWrite fd bytes

/-- Moving a file either fails for one fault on both or comes to one position on both. -/
lemma Twin.trySeek (h : m.Twin R n) (wm : m.Within R) (fd offset whence : Int) :
    (∃ fault, m.trySeek fd offset whence = .error fault ∧ n.trySeek fd offset whence = .error fault) ∨
      ∃ a b, m.trySeek fd offset whence = .ok a ∧ n.trySeek fd offset whence = .ok b ∧
        Alike R a b := by
  simp only [Machine.trySeek, h.state]
  split
  · exact .inl ⟨_, rfl, rfl⟩
  split
  · exact .inl ⟨_, rfl, rfl⟩
  split
  · exact .inl ⟨_, rfl, rfl⟩
  · exact .inl ⟨_, rfl, rfl⟩
  · next f hf =>
    rw [h.disk.size fun id hid => (wm.files (Table.mem_files_of_stream? hf hid)).1]
    split <;> split_ifs
    all_goals first
      | exact .inl ⟨_, rfl, rfl⟩
      | exact .inr ⟨_, _, rfl, rfl, h.setTable _ _⟩

/-- Twins come to the same position. -/
lemma Twin.seek (h : m.Twin R n) (wm : m.Within R) (fd offset whence : Int) :
    Alike R (m.seek fd offset whence) (n.seek fd offset whence) := by
  obtain ⟨fault, hm, hn⟩ | ⟨a, b, hm, hn, halike⟩ := h.trySeek wm fd offset whence
  · simp only [Machine.seek, hm, hn]
    exact h.alike rfl h.state rfl rfl
  · simp only [Machine.seek, hm, hn]
    exact ⟨halike.reply, halike.state, halike.disk⟩

/-- Opening a file gives the same descriptor on both, or fails on both. -/
lemma Twin.openFile (h : m.Twin R n) (wm : m.Within R) (wn : n.Within R) {name : String}
    {flags : OpenFlags} (hplace : ∀ p, m.disk.place? (m.settings.resolve name) = some p → p ∈ R.places)
    (spans : R.Spans m.disk (m.openFile name flags).2.disk) :
    Alike R (m.openFile name flags) (n.openFile name flags) := by
  cases hr : m.state.table.reserve name flags with
  | error fault =>
    simp only [Machine.openFile, tryOpen, h.state, hr]
    exact h.alike rfl h.state rfl rfl
  | ok reserved =>
    obtain ⟨fd, t⟩ := reserved
    have hopened d f (hopen : m.disk.openPath (m.settings.resolve name) flags.access = .ok (d, f)) :
        R.Spans m.disk d := by
      simp only [Machine.openFile, tryOpen, hr, log_disk, log_settings, hopen] at spans
      exact spans
    obtain ⟨cause, other, hm, hn⟩ | ⟨d, e, f, hm, hn, hagree⟩ :=
      h.disk.openPath wm.sound wn.sound hplace hopened
    · simp only [Machine.openFile, tryOpen, h.state, log_disk, log_settings, h.settings, hr, hm, hn]
      refine h.alike rfl ?_ rfl rfl
      simp only [fail, trace_state, log_state, setTable_state, h.state]
    · simp only [Machine.openFile, tryOpen, h.state, log_disk, log_settings, h.settings, hr, hm, hn]
      refine ⟨rfl, ?_, hagree⟩
      simp only [trace_state, setTable_state, log_state, h.state]

/-- Twins release the same slot. -/
lemma Twin.closeFile (h : m.Twin R n) (fd : Int) : Alike R ((), m.closeFile fd) ((), n.closeFile fd) := by
  refine h.alike rfl ?_ rfl rfl
  simp only [Machine.closeFile, setTable_state, log_state, trace_state, h.state]

/-- Twins are reset to the same state. -/
lemma Twin.resetFiles (h : m.Twin R n) : Alike R ((), m.resetFiles) ((), n.resetFiles) := by
  refine h.alike rfl ?_ (m.touches_resetFiles.disk rfl) (n.touches_resetFiles.disk rfl)
  have hstate := touches_endSession
  simp only [Machine.resetFiles, (hstate _).state rfl, log_state, setChannels_state, setTable_state, h.state]

end Machine

namespace World

variable {R : Region} {w v : World}

/-- A guest's call attaches nothing. -/
lemma detached_call (h : w.machine.attached? = none) {c : Call} (hc : c.byGuest = true) :
    (w.call c).2.machine.attached? = none := by
  refine (w.touches_call c).detached ?_ h
  cases c <;> first | rfl | cases hc

open Machine in
/-- A guest's call is the same on twins. -/
lemma alike_call (h : w.machine.Twin R v.machine) (wm : w.machine.Within R) (wn : v.machine.Within R)
    {c : Call} (hc : c.byGuest = true) (stays : c.StaysIn R w.machine.disk w.machine.settings)
    (spans : R.Spans w.machine.disk (w.call c).2.machine.disk) :
    Alike R ((w.call c).1, (w.call c).2.machine) ((v.call c).1, (v.call c).2.machine) := by
  cases c with
  | openFile name flags => exact (h.openFile wm wn stays spans).map Reply.code
  | readFrom fd buffer => exact (h.readFrom wm fd buffer).map Reply.read
  | writeTo fd bytes => exact (h.writeTo wm wn fd bytes).map Reply.code
  | seek fd offset whence => exact (h.seek wm fd offset whence).map Reply.code
  | closeFile fd => exact (h.closeFile fd).map fun _ => Reply.done
  | print text => exact (h.print text).map fun _ => Reply.done
  | readChar service => exact (h.readChar service).map Reply.char
  | readString service limit => exact (h.readString service limit).map Reply.text
  | readInteger service =>
    exact (h.readValue "an integer value" service (Numeral.readInteger .word) (·.message)).map Reply.integer
  | readLong service =>
    exact (h.readValue "an integer value" service (Numeral.readInteger .long) (·.message)).map Reply.long
  | readSingle service =>
    exact (h.readValue "a float value" service (Numeral.readBinary .single) (·.message)).map Reply.single
  | readDouble service =>
    exact (h.readValue "a Double value" service (Numeral.readBinary .double) (·.message)).map Reply.double
  | resetFiles => exact h.resetFiles.map fun _ => Reply.done
  | _ => cases hc

end World

end Hostcall

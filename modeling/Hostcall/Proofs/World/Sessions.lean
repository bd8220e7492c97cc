import Hostcall.Proofs.Machine.Buffers
import Hostcall.Proofs.World.Asides
import Hostcall.Proofs.World.Isolation

/-!
# What is written to a file is read back

A guest opens a path, writes and closes again, any number of times, and does other things in between that
spare the file (`World.Among`). Every write then takes all its bytes; the file holds what was written since it
was last emptied, after what it held before if it never was; and a guest that reads the path gets these bytes
in pieces of the sizes it asks for (`World.written_is_read`).
-/

namespace Hostcall

open Pane

/-- The opening, the writes with their replies, and the closing of a path that is to be written. -/
structure Session where
  fd : Nat
  append : Bool
  writes : List (List UInt8 × Reply)

namespace Session

def flags (s : Session) : OpenFlags :=
  if s.append then .writeAppend else .writeOnly

def bytes (s : Session) : List UInt8 :=
  s.writes.flatMap (·.1)

/-- The calls of a session on a path, with what they reply. -/
def entries (name : String) (s : Session) : List (Call × Reply) :=
  (.openFile name s.flags, .code s.fd) ::
    (s.writes.map fun p => (.writeTo s.fd p.1, p.2)) ++ [(.closeFile s.fd, .done)]

/-- What a session makes of a content. -/
def leaves (content : List UInt8) (s : Session) : List UInt8 :=
  (if s.append then content else []) ++ s.bytes

end Session

/-- The calls that read a path piece by piece, with what they reply. -/
def readEntries (name : String) (fd : Nat) (reads : List (List UInt8 × Reply)) : List (Call × Reply) :=
  (.openFile name .readOnly, .code fd) :: reads.map fun p => (.readFrom fd p.1, p.2)

/-- What reads into one buffer after the other give of a content. -/
def readReplies : List UInt8 → List (List UInt8) → List Reply
  | _, [] => []
  | content, buffer :: buffers =>
    let taken := content.take buffer.length
    .read ⟨.ok (Machine.countCode taken.length), taken ++ buffer.drop taken.length⟩ ::
      readReplies (content.drop buffer.length) buffers

namespace Machine

variable {m : Machine} {fd : Int} {f g : OpenFile}

/-- A write to a host file gives the number of its bytes, moves the file and rewrites its content. -/
lemma writeTo_file {disk : Disk} {bytes : List UInt8} (hneed : m.state.table.require fd .write = .ok ())
    (hfd : ∀ channel : StdChannel, fd ≠ channel.fd) (hf : m.state.table.stream? fd = some (.file f))
    (hwrite : m.disk.write f bytes = .ok (disk, g)) :
    ∃ es, m.writeTo fd bytes =
      (countCode bytes.length,
        ({ m with disk }.setTable (m.state.table.bind fd (.file g)).2).log es) := by
  simp only [writeTo, hneed, if_neg (hfd .output), if_neg (hfd .error), writeStream, hf, hwrite, endWrite]
  exact ⟨_, rfl⟩

end Machine

namespace World

/-- A path leads to a file that can be written, and this is in it. -/
structure Rests (name path : String) (file : FileId) (content : List UInt8) (w : World) : Prop where
  bound : w.Bound
  accounted : w.Accounted
  resolves : w.machine.settings.resolve name = path
  opens : w.machine.disk.Opens path .append file
  body : w.machine.disk.body file = content

/-- A slot leads to the file. -/
structure Holds (name path : String) (file : FileId) (content : List UInt8) (i : Fin tableSize) (f : OpenFile)
    (w : World) : Prop where
  rests : w.Rests name path file content
  slot : ∃ s, w.machine.state.table.slotAt i = some s ∧ s.stream = some (.file f)
  backing : f.backing = .regular file

variable {w v : World} {c : Call} {name path : String} {file : FileId} {content : List UInt8}
  {i : Fin tableSize} {f : OpenFile} {I : World → Prop}

/-- A call leaves a file at rest with the content that it makes of it, unless new settings lead the name
elsewhere. -/
lemma Rests.call (h : w.Rests name path file content) {after : List UInt8}
    (hc : ∀ settings, c = .setSettings settings →
      settings.resolve name = w.machine.settings.resolve name)
    (hbody : (w.call c).2.machine.disk.body file = after) : (w.call c).2.Rests name path file after where
  bound := h.bound.call c
  accounted := h.accounted.call c
  resolves := (resolve_call hc).trans h.resolves
  opens := h.opens.change h.accounted.sound (change_disk_call h.accounted c)
  body := hbody

/-- A file rests through all calls that spare it. -/
lemma rests_lasting : Lasting name file (Rests name path file content) where
  time now h := ⟨h.bound.atTime now, ⟨h.accounted.sound, h.accounted.files⟩, h.resolves, h.opens, h.body⟩
  aside {w c} h spares :=
    h.call (fun _ hc => by subst hc; exact spares) ((body_of_spares h.accounted spares).trans h.body)

/-- A descriptor keeps its file through all calls that spare it. -/
lemma holds_lasting : Lasting name file (Holds name path file content i f) where
  time now h := ⟨rests_lasting.time now h.rests, h.slot, h.backing⟩
  aside {w c} h spares := by
    obtain ⟨s, hs, hf⟩ := h.slot
    exact ⟨rests_lasting.aside h.rests spares,
      ⟨s, slotAt_of_spares h.rests.accounted spares hs hf h.backing, hf⟩, h.backing⟩

/-! ## Opening, writing, closing and reading -/

/-- Opening a file at rest gives a descriptor that holds it. -/
lemma Rests.openFile (h : w.Rests name path file content) {flags : OpenFlags} {fd : Nat}
    (hreply : (w.call (.openFile name flags)).1 = .code fd) :
    ∃ i, Table.fdOf i = fd ∧
      (w.call (.openFile name flags)).2.Holds name path file (if flags.access = .write then [] else content) i
        { backing := .regular file, access := flags.access } := by
  obtain ⟨hnone, -⟩ | ⟨i, mode, f, -, -, hi, hopen, htable, -⟩ :=
    openFile_call h.accounted.sound name flags
  · have hfd : (-1 : Int) = fd := Reply.code.inj (hnone.symm.trans hreply)
    omega
  · rw [h.resolves] at hopen
    obtain ⟨rfl, hbody⟩ := h.opens.opened h.accounted.sound hopen
    rw [h.body] at hbody
    refine ⟨i, Reply.code.inj (hi.symm.trans hreply), h.call nofun hbody, ?_, rfl⟩
    exact ⟨_, by rw [htable, Table.slotAt_setSlot_self], rfl⟩

/-- The file is behind the descriptor. -/
lemma Holds.stream? (h : w.Holds name path file content i f) :
    w.machine.state.table.stream? (Table.fdOf i) = some (.file f) := by
  obtain ⟨s, hs, hf⟩ := h.slot
  simp [Table.stream?, hs, hf]

/-- The descriptor is none of the standard ones. -/
lemma Holds.fdOf_ne (h : w.Holds name path file content i f) (channel : StdChannel) :
    Table.fdOf i ≠ channel.fd := by
  obtain ⟨s, hs, hf⟩ := h.slot
  exact Table.fdOf_ne_standard (h.rests.bound.active.le_of_file hs hf) channel

/-- The descriptor may be used for what the file was opened for. -/
lemma Holds.require (h : w.Holds name path file content i f) {need : Capability}
    (hneed : need = .read ↔ f.access = .read) :
    w.machine.state.table.require (Table.fdOf i) need = .ok () := by
  obtain ⟨s, hs, hf⟩ := h.slot
  exact h.rests.bound.active.require_of_access ((Table.slot?_fdOf _ i).trans hs) hf hneed

/-- A call that puts the file back behind its descriptor leaves the slot holding it. -/
lemma Holds.moved (h : w.Holds name path file content i f) {after : List UInt8} {disk : Disk} {g : OpenFile}
    {es : List LogEntry} (hc : c.keepsState = true) (hbody : disk.body file = after) (same : f.SameHandle g)
    (hcall : (w.call c).2.machine =
      ({ w.machine with disk }.setTable (w.machine.state.table.bind (Table.fdOf i) (.file g)).2).log es) :
    (w.call c).2.Holds name path file after i g := by
  obtain ⟨s, hs, -⟩ := h.slot
  have htable : (w.call c).2.machine.state.table =
      w.machine.state.table.setSlot i (some { s with stream := some (.file g) }) := by
    rw [hcall]
    exact congrArg Prod.snd (Table.bind_fdOf hs _)
  have hslot : (w.call c).2.machine.state.table.slotAt i = some { s with stream := some (.file g) } := by
    rw [htable, Table.slotAt_setSlot_self]
  have hdisk : (w.call c).2.machine.disk = disk := congrArg Machine.disk hcall
  refine ⟨h.rests.call (fun _ he => ?_) (hdisk ▸ hbody), ⟨_, hslot, rfl⟩, same.1.trans h.backing⟩
  subst he
  cases hc

/-- A write at the end of the file takes all bytes and adds them. -/
lemma Holds.writeTo (h : w.Holds name path file content i f) (hend : w.machine.disk.AtEnd file f)
    (bytes : List UInt8) :
    ∃ g, (w.call (.writeTo (Table.fdOf i) bytes)).1 = .code (Machine.countCode bytes.length) ∧
      (w.call (.writeTo (Table.fdOf i) bytes)).2.Holds name path file (content ++ bytes) i g ∧
      (w.call (.writeTo (Table.fdOf i) bytes)).2.machine.disk.AtEnd file g := by
  obtain ⟨disk, g, hwrite, hbody, hend'⟩ := hend.write bytes
  have hread : f.access ≠ .read := by
    obtain ha | ⟨ha, -⟩ := hend.access <;> rw [ha] <;> decide
  have hneed : w.machine.state.table.require (Table.fdOf i) .write = .ok () :=
    h.require (by simp [hread])
  obtain ⟨es, hcall⟩ := Machine.writeTo_file hneed h.fdOf_ne h.stream? hwrite
  have hmachine : (w.call (.writeTo (Table.fdOf i) bytes)).2.machine = _ := congrArg Prod.snd hcall
  refine ⟨g, by simp only [World.call, hcall], ?_, ?_⟩
  · rw [h.rests.body] at hbody
    exact h.moved rfl hbody (Disk.write_keeps hwrite) hmachine
  · rw [hmachine]
    exact hend'

/-- Going on by what was given is going on by what was asked for. -/
lemma drop_add_min (content : List UInt8) (position count : Nat) :
    content.drop (position + min count (content.drop position).length) = content.drop (position + count) := by
  rw [List.length_drop]
  -- Either there was as much as was asked for, or both are behind the end.
  by_cases h : count ≤ content.length - position
  · rw [Nat.min_eq_left h]
  · rw [List.drop_eq_nil_of_le (by omega), List.drop_eq_nil_of_le (by omega)]

/-- A read takes the next bytes of the file. -/
lemma Holds.readFrom (h : w.Holds name path file content i f) (ha : f.access = .read) (buffer : List UInt8) :
    let bytes := (content.drop f.position).take buffer.length
    ∃ g, (w.call (.readFrom (Table.fdOf i) buffer)).1 =
        .read ⟨.ok (Machine.countCode bytes.length), bytes ++ buffer.drop bytes.length⟩ ∧
      (w.call (.readFrom (Table.fdOf i) buffer)).2.Holds name path file content i g ∧
      g.access = .read ∧ content.drop g.position = (content.drop f.position).drop buffer.length := by
  intro bytes
  obtain ⟨g, hread, ha', hposition⟩ :
      ∃ g, w.machine.disk.read f buffer.length = .ok (bytes, g) ∧ g.access = .read ∧
        g.position = f.position + min buffer.length (content.drop f.position).length := by
    have hread := Disk.read_regular (d := w.machine.disk) h.backing ha buffer.length
    rw [h.rests.body] at hread
    exact ⟨_, hread, ha, rfl⟩
  obtain ⟨es, hcall⟩ := Machine.readFrom_file (h.require (by simp [ha])) (h.fdOf_ne .input) h.stream? hread
  refine ⟨g, by simp only [World.call, hcall], ?_, ha', ?_⟩
  · exact h.moved rfl h.rests.body (Disk.read_keeps hread) (congrArg Prod.snd hcall)
  · rw [hposition, drop_add_min, List.drop_drop]

/-- A descriptor that is released leaves its file at rest. -/
lemma Holds.closeFile (h : w.Holds name path file content i f) :
    (w.call (.closeFile (Table.fdOf i))).2.Rests name path file content :=
  h.rests.call nofun ((congrArg (Disk.body · file) (disk_call rfl)).trans h.rests.body)

/-! ## Sessions -/

/-- A slot holds the file to be written at its end. -/
def Writes (name path : String) (file : FileId) (content : List UInt8) (i : Fin tableSize) (w : World) : Prop :=
  ∃ f, w.Holds name path file content i f ∧ w.machine.disk.AtEnd file f

/-- A slot holds the file to be read, and this is left of it. -/
def Reads (name path : String) (file : FileId) (left : List UInt8) (i : Fin tableSize) (w : World) : Prop :=
  ∃ content f, w.Holds name path file content i f ∧ f.access = .read ∧ content.drop f.position = left

/-- A descriptor at the end of its file stays there through all calls that spare it. -/
lemma writes_lasting : Lasting name file (Writes name path file content i) where
  time now := by
    rintro ⟨f, h, hend⟩
    exact ⟨f, holds_lasting.time now h, hend⟩
  aside := by
    rintro w c ⟨f, h, hend⟩ spares
    have hbody := body_of_spares h.rests.accounted spares
    exact ⟨f, holds_lasting.aside h spares, hend.backing, hbody ▸ hend.access⟩

/-- A descriptor keeps what it has still to read through all calls that spare it. -/
lemma reads_lasting {left : List UInt8} : Lasting name file (Reads name path file left i) where
  time now := by
    rintro ⟨content, f, h, hread⟩
    exact ⟨content, f, holds_lasting.time now h, hread⟩
  aside := by
    rintro w c ⟨content, f, h, hread⟩ spares
    exact ⟨content, f, holds_lasting.aside h spares, hread⟩

/-- All writes of a session take all their bytes, one after the other. -/
lemma Among.writes {writes : List (List UInt8 × Reply)} {rest : List (Call × Reply)}
    (h : Among name file w
      ((writes.map fun p => (Call.writeTo (Table.fdOf i) p.1, p.2)) ++ rest) v)
    (hw : w.Writes name path file content i) :
    (∀ p ∈ writes, p.2 = .code (Machine.countCode p.1.length)) ∧
      ∃ u, u.Writes name path file (content ++ writes.flatMap (·.1)) i ∧ Among name file u rest v := by
  induction writes generalizing w content with
  | nil => exact ⟨nofun, w, by simpa using hw, h⟩
  | cons p writes ih =>
    obtain ⟨u, ⟨f, holds, hend⟩, hreply, hrest⟩ := h.next writes_lasting hw
    obtain ⟨g, hcode, holds', hend'⟩ := holds.writeTo hend p.1
    obtain ⟨hall, v', hv', hrest'⟩ := ih hrest ⟨g, holds', hend'⟩
    refine ⟨List.forall_mem_cons.mpr ⟨hreply.symm.trans hcode, hall⟩, v', ?_, hrest'⟩
    simpa using hv'

/-- A session begins at the end of what it leaves of the file. -/
lemma Rests.begin (h : w.Rests name path file content) {s : Session}
    (hreply : (w.call (.openFile name s.flags)).1 = .code s.fd) :
    ∃ i, Table.fdOf i = s.fd ∧
      (w.call (.openFile name s.flags)).2.Writes name path file (if s.append then content else []) i := by
  obtain ⟨i, hi, holds⟩ := h.openFile hreply
  refine ⟨i, hi, ?_⟩
  have hbody := holds.rests.body
  cases happend : s.append with
  | true =>
    have haccess : s.flags.access = .append := by rw [Session.flags, happend]; rfl
    simp only [haccess] at holds
    exact ⟨_, holds, rfl, .inl rfl⟩
  | false =>
    have haccess : s.flags.access = .write := by rw [Session.flags, happend]; rfl
    simp only [haccess] at holds hbody
    exact ⟨_, holds, rfl, .inr ⟨rfl, by simp [hbody]⟩⟩

/-- A session takes all its bytes and leaves them in the file. -/
lemma Among.session {s : Session} {rest : List (Call × Reply)}
    (h : Among name file w (s.entries name ++ rest) v) (hw : w.Rests name path file content) :
    (∀ p ∈ s.writes, p.2 = .code (Machine.countCode p.1.length)) ∧
      ∃ u, u.Rests name path file (s.leaves content) ∧ Among name file u rest v := by
  simp only [Session.entries, List.cons_append, List.append_assoc] at h
  obtain ⟨u, rests, hreply, hwrites⟩ := h.next rests_lasting hw
  obtain ⟨i, hi, begins⟩ := rests.begin hreply
  rw [← hi] at hwrites
  obtain ⟨hall, u', ends, hclose⟩ := hwrites.writes begins
  obtain ⟨v', ⟨f, holds, -⟩, -, hrest⟩ := hclose.next writes_lasting ends
  exact ⟨hall, _, holds.closeFile, hrest⟩

/-- Sessions take all their bytes, and what they leave in the file is what each made of the one before. -/
lemma Among.sessions {sessions : List Session}
    (h : Among name file w (sessions.flatMap (·.entries name)) v) (hw : w.Rests name path file content) :
    (∀ s ∈ sessions, ∀ p ∈ s.writes, p.2 = .code (Machine.countCode p.1.length)) ∧
      v.Rests name path file (sessions.foldl Session.leaves content) := by
  induction sessions generalizing w content with
  | nil => exact ⟨nofun, h.finish rests_lasting hw⟩
  | cons s sessions ih =>
    obtain ⟨hall, u, rests, hrest⟩ := h.session hw
    obtain ⟨hothers, ends⟩ := ih hrest rests
    exact ⟨List.forall_mem_cons.mpr ⟨hall, hothers⟩, ends⟩

/-- Reads among calls that spare the file give its content piece by piece. -/
lemma Among.reads {reads : List (List UInt8 × Reply)}
    (h : Among name file w (reads.map fun p => (.readFrom (Table.fdOf i) p.1, p.2)) v)
    (hw : w.Reads name path file content i) :
    reads.map (·.2) = readReplies content (reads.map (·.1)) := by
  induction reads generalizing w content with
  | nil => rfl
  | cons p reads ih =>
    obtain ⟨u, ⟨whole, f, holds, ha, hleft⟩, hreply, hrest⟩ := h.next reads_lasting hw
    obtain ⟨g, hgives, holds', ha', hleft'⟩ := holds.readFrom ha p.1
    rw [hleft] at hgives hleft'
    have htail := ih hrest ⟨whole, g, holds', ha', hleft'⟩
    rw [List.map_cons, List.map_cons, readReplies, htail, ← hreply, hgives]

/-! ## What the sessions leave -/

/-- Sessions that append add what they write. -/
lemma leaves_of_append {sessions : List Session} (h : ∀ s ∈ sessions, s.append = true)
    (content : List UInt8) :
    sessions.foldl Session.leaves content = content ++ sessions.flatMap (·.bytes) := by
  induction sessions generalizing content with
  | nil => simp
  | cons s sessions ih =>
    obtain ⟨hs, hothers⟩ := List.forall_mem_cons.mp h
    rw [List.foldl_cons, ih hothers, Session.leaves, if_pos hs, List.flatMap_cons, List.append_assoc]

/-- A session that does not append starts anew. -/
lemma leaves_of_plain {earlier later : List Session} {s : Session} (hs : s.append = false)
    (h : ∀ t ∈ later, t.append = true) (content : List UInt8) :
    (earlier ++ s :: later).foldl Session.leaves content = (s :: later).flatMap (·.bytes) := by
  rw [List.foldl_append, List.foldl_cons, leaves_of_append h, Session.leaves, hs, List.flatMap_cons]
  rfl

/-- After any run, let a path open to be written and lead to a regular file. In a run of sessions on the path,
among other calls that spare the file, every write takes all its bytes; then the path holds what was written
since it was last opened without appending, or what it held before and all that was written if it never was.
Whoever opens the path to read it, and is spared likewise, gets that in pieces of the sizes asked for. -/
theorem written_is_read (fresh : w.Fresh) (sound : w.machine.disk.Sound) (calls : List (Time × Call))
    {sessions : List Session} :
    let u := (w.run calls).2
    let path := u.machine.settings.resolve name
    u.machine.disk.Opens path .append file → Among name file u (sessions.flatMap (·.entries name)) v →
      (∀ s ∈ sessions, ∀ p ∈ s.writes, p.2 = .code (Machine.countCode p.1.length)) ∧
      (∀ earlier s later, sessions = earlier ++ s :: later → s.append = false →
        (∀ t ∈ later, t.append = true) →
        v.machine.disk.holds path = (s :: later).flatMap (·.bytes)) ∧
      ((∀ s ∈ sessions, s.append = true) →
        v.machine.disk.holds path = u.machine.disk.holds path ++ sessions.flatMap (·.bytes)) ∧
      ∀ fd reads x, Among name file v (readEntries name fd reads) x →
        reads.map (·.2) = readReplies (v.machine.disk.holds path) (reads.map (·.1)) := by
  intro u path opens among
  have accounted : u.Accounted := (fresh.accounted_of_sound sound).run calls
  have rests : u.Rests name path file (u.machine.disk.holds path) :=
    ⟨fresh.bound.run calls, accounted, rfl, opens, (opens.holds_eq accounted.sound).symm⟩
  obtain ⟨hall, ends⟩ := among.sessions rests
  have hholds : v.machine.disk.holds path = sessions.foldl Session.leaves (u.machine.disk.holds path) :=
    (ends.opens.holds_eq ends.accounted.sound).trans ends.body
  refine ⟨hall, ?_, ?_, ?_⟩
  · rintro earlier s later rfl hs hlater
    rw [hholds, leaves_of_plain hs hlater]
  · intro happend
    rw [hholds, leaves_of_append happend]
  · intro fd reads x hreads
    rw [hholds]
    -- The path still leads to the file, which opening it to read leaves as it is.
    obtain ⟨x', rests', hreply, hrest⟩ := hreads.next rests_lasting ends
    obtain ⟨i, hi, holds⟩ := rests'.openFile hreply
    rw [← hi] at hrest
    exact hrest.reads ⟨_, _, holds, rfl, rfl⟩

/-- A path is written anew, closed, opened again to append and at last read, while another file takes its
descriptor. -/
theorem written_is_read_in_turns :
    let file : FileId := ⟨["scratch", "f"], 0⟩
    let calls : List (Time × Call) := [(0, .openFile "f" .writeOnly), (0, .writeTo 3 [33]), (0, .closeFile 3)]
    let sessions : List Session :=
      [⟨3, false, [([97, 98], .code 2), ([], .code 0)]⟩, ⟨4, true, [([99], .code 1)]⟩]
    let reads : List (List UInt8 × Reply) :=
      [([0, 0], .read ⟨.ok 2, [97, 98]⟩), ([0, 0], .read ⟨.ok 1, [99, 0]⟩), ([7], .read ⟨.ok 0, [7]⟩)]
    let u := (scratch.run calls).2
    let path := u.machine.settings.resolve "f"
    scratch.Fresh ∧ scratch.machine.disk.Sound ∧ u.machine.disk.Opens path .append file ∧
      u.machine.disk.holds path = [33] ∧
      ∃ v x, Among "f" file u (sessions.flatMap (·.entries "f")) v ∧
        Among "f" file v (readEntries "f" 4 reads) x ∧
        v.machine.disk.holds path = [97, 98, 99] ∧
        reads.map (·.2) = readReplies (v.machine.disk.holds path) (reads.map (·.1)) := by
  intro file calls sessions reads u path
  have sound : scratch.machine.disk.Sound := Disk.sound_ofHome _
  have opens : u.machine.disk.Opens path .append file := by decide +kernel
  have among : ∃ v x, Among "f" file u (sessions.flatMap (·.entries "f")) v ∧
      Among "f" file v (readEntries "f" 4 reads) x := by
    exact ⟨_, _,
      .own 0 (by decide +kernel) <|
      .own 1 (by decide +kernel) <|
      .own 2 (by decide +kernel) <|
      .own 3 (by decide +kernel) <|
      .aside 4 (.openFile "g" .writeOnly) (by decide +kernel) <|
      .own 5 (by decide +kernel) <|
      .aside 6 (.writeTo 3 [1]) (by decide +kernel) <|
      .own 7 (by decide +kernel) <|
      .own 8 (by decide +kernel) .done,
      .own 9 (by decide +kernel) <|
      .own 10 (by decide +kernel) <|
      .aside 11 (.closeFile 3) (by decide +kernel) <|
      .own 12 (by decide +kernel) <|
      .own 13 (by decide +kernel) .done⟩
  obtain ⟨v, x, hwrites, hreads⟩ := among
  obtain ⟨-, hholds, -, hread⟩ := written_is_read fresh_scratch sound calls opens hwrites
  have hcontent : v.machine.disk.holds path = [97, 98, 99] := hholds [] _ _ rfl rfl (by decide)
  exact ⟨fresh_scratch, sound, opens, by decide +kernel, v, x, hwrites, hreads, hcontent,
    hread 4 reads x hreads⟩

end World

end Hostcall

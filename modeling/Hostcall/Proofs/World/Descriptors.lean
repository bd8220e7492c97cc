import Hostcall.Proofs.World.Accounts
import Hostcall.Proofs.World.Streams

/-!
# Descriptors do not disturb each other

A call on one descriptor leaves every other descriptor of every state alone, whatever files they lead to,
and of the host's files it rewrites at most the one behind a descriptor that it writes on (`Isolated`). So
whatever becomes of the content of a file in a run is the work of a call that opens it to be written, or of
a write on a descriptor that was obtained by such a call (`descriptors_isolated`).
-/

namespace Hostcall

open Pane

namespace Machine

/-- A write rewrites the file behind its descriptor, if that is open to be written, and no other. -/
lemma disk_writeTo (m : Machine) (fd : Int) (bytes : List UInt8) :
    (m.writeTo fd bytes).2.disk = m.disk ∨
      ∃ f file content, m.state.table.require fd .write = .ok () ∧
        m.state.table.stream? fd = some (.file f) ∧ f.backing = .regular file ∧
        (m.writeTo fd bytes).2.disk = m.disk.setBody file content := by
  have hend (n : Machine) (outcome : Except HostError Unit) :
      (n.endWrite fd bytes outcome).2.disk = n.disk :=
    (n.touches_endWrite fd bytes outcome).disk rfl
  have hstandard (channel : StdChannel) : (m.writeStandard channel bytes).2.disk = m.disk :=
    (m.touches_writeStandard channel bytes).disk rfl
  simp only [writeTo]
  split
  · exact .inl rfl
  · next hreq =>
    split
    · exact .inl ((hend _ _).trans (hstandard .output))
    · split
      · exact .inl ((hend _ _).trans (hstandard .error))
      · split
        · exact .inl rfl
        · next n hw =>
          rw [hend]
          simp only [writeStream] at hw
          split at hw
          · cases hw
          · cases hw
            exact .inl rfl
          · next f hf =>
            split at hw
            · cases hw
              exact .inl rfl
            · next disk g hwrite =>
              cases hw
              obtain rfl | ⟨file, content, hid, rfl⟩ := Disk.write_cases hwrite
              · exact .inl rfl
              · exact .inr ⟨f, file, content, hreq, hf, hid, rfl⟩

end Machine

namespace World

/-- A call on a descriptor did nothing to any other descriptor of any state, nor to the names of the host's
files. It rewrote at most the file behind its descriptor, and only by a write in a mode for writing. Where the
descriptor was not open for what the call needs, nothing came of it but the text of the last error and the
log. -/
structure Isolated (w : World) (c : Call) (fd : Int) : Prop where
  states : (w.call c).2.active = w.active ∧ (w.call c).2.parked = w.parked
  slots (i : Fin tableSize) : Table.fdOf i ≠ fd →
    (w.call c).2.machine.state.table.slotAt i = w.machine.state.table.slotAt i
  nodes (p : Location) : (w.call c).2.machine.disk.node? p = w.machine.disk.node? p
  bodies (file : FileId) : (w.call c).2.machine.disk.body file ≠ w.machine.disk.body file →
    ∃ bytes slot f, c = .writeTo fd bytes ∧ w.machine.state.table.slot? fd = some slot ∧
      (slot.mode = .write ∨ slot.mode = .append) ∧ slot.stream = some (.file f) ∧
      f.backing = .regular file
  refused (need : Capability) : c.need? = some need → w.machine.state.table.isOpenFor fd need = false →
    ∃ es, (w.call c).2 =
      { w with machine := { w.machine with lastError := (Fault.notOpen fd need).message }.log es }

/-- A call opens a file to be written, and gives a descriptor of it. -/
def OpensForWriting (w : World) (c : Call) (fd : Int) (file : FileId) : Prop :=
  ∃ name flags, c = .openFile name flags ∧ flags.asksWrite = true ∧ (w.call c).1 = .code fd ∧ fd ≠ -1 ∧
    (w.call c).2.machine.disk.fileAt? (w.machine.settings.resolve name) = some file

/-- A descriptor of a state leads to a file and may be written on. -/
def Writer (w : World) (id : Nat) (fd : Int) (file : FileId) : Prop :=
  ∃ s f, (id, s) ∈ w.states ∧ s.table.stream? fd = some (.file f) ∧ f.backing = .regular file ∧
    f.access ≠ .read

/-- A descriptor of a state was obtained in a run by opening a file to be written, and has led to that file
ever since. -/
def Obtained (w : World) (calls : List (Time × Call)) (id : Nat) (fd : Int) (file : FileId) : Prop :=
  ∃ before now c after, calls = before ++ (now, c) :: after ∧ (w.run before).2.active = id ∧
    ((w.run before).2.atTime now).OpensForWriting c fd file ∧
    Throughout (fun v _ => v.Writer id fd file) (((w.run before).2.atTime now).call c).2 after

/-- A call after a run opens the file to be written, or writes on a descriptor obtained by such a call. -/
def Permitted (w : World) (calls : List (Time × Call)) (now : Time) (c : Call) (file : FileId) : Prop :=
  (∃ fd, ((w.run calls).2.atTime now).OpensForWriting c fd file) ∨
    ∃ fd bytes, c = .writeTo fd bytes ∧ w.Obtained calls (w.run calls).2.active fd file

variable {w : World} {c : Call} {fd : Int} {file : FileId}

/-- A call on a descriptor that is not open for it does nothing but say so. -/
lemma call_refused {need : Capability} (hc : c.descriptor? = some fd) (hneed : c.need? = some need)
    (h : w.machine.state.table.isOpenFor fd need = false) :
    ∃ es, (w.call c).2 =
      { w with machine := { w.machine with lastError := (Fault.notOpen fd need).message }.log es } := by
  have hreq : w.machine.state.table.require fd need = .error (.notOpen fd need) := by
    simp [Table.require, h]
  cases c with
  | readFrom fd buffer =>
    cases hc
    cases hneed
    simp only [call, Machine.readFrom, hreq]
    exact ⟨_, rfl⟩
  | writeTo fd bytes =>
    cases hc
    cases hneed
    simp only [call, Machine.writeTo, hreq]
    exact ⟨_, rfl⟩
  | seek fd offset whence =>
    cases hc
    cases hneed
    simp only [call, Machine.seek, Machine.trySeek, hreq]
    -- The fault is logged, and then the call is traced.
    have hlog := Machine.log_log { w.machine with lastError := (Fault.notOpen fd .read).message }
    exact ⟨_, congrArg (fun m => { w with machine := m }) (hlog _ _)⟩
  | _ => cases hneed

/-- Only a write rewrites a file, and only the one behind its descriptor. -/
lemma disk_of_descriptor (hc : c.descriptor? = some fd) :
    (w.call c).2.machine.disk = w.machine.disk ∨
      ∃ bytes slot f file content, c = .writeTo fd bytes ∧ w.machine.state.table.slot? fd = some slot ∧
        (slot.mode = .write ∨ slot.mode = .append) ∧ slot.stream = some (.file f) ∧
        f.backing = .regular file ∧ (w.call c).2.machine.disk = w.machine.disk.setBody file content := by
  cases c with
  | writeTo fd bytes =>
    cases hc
    obtain h | ⟨f, file, content, hreq, hf, hid, h⟩ := w.machine.disk_writeTo fd bytes
    · exact .inl h
    · obtain ⟨i, s, rfl, hs, hmode⟩ := Table.exists_slot_of_require hreq
      have hstream : s.stream = some (.file f) := by simpa [Table.stream?, hs] using hf
      have hwrite : s.mode = .write ∨ s.mode = .append := by
        cases hm : s.mode <;> simp_all [Mode.allows]
      exact .inr ⟨bytes, s, f, file, content, rfl, by simp [hs], hwrite, hstream, hid, h⟩
  | readFrom | seek | closeFile => exact .inl (disk_call rfl)
  | _ => cases hc

/-- Every call on a descriptor is isolated from the others. -/
lemma isolated_call (hc : c.descriptor? = some fd) : w.Isolated c fd where
  states := by
    have hkeeps : c.keepsState = true := by cases c <;> first | rfl | cases hc
    exact kept_call hkeeps
  slots i hi := (touch_call hc).slotAt_of_ne hi
  nodes p := by
    obtain h | ⟨_, _, _, _, _, -, -, -, -, -, h⟩ := disk_of_descriptor (w := w) hc
    · rw [h]
    · rw [h]
      rfl
  bodies file hbody := by
    obtain h | ⟨bytes, slot, f, other, content, hwrite, hs, hmode, hf, hid, h⟩ :=
      disk_of_descriptor (w := w) hc
    · exact absurd (by rw [h]) hbody
    · by_cases ho : file = other
      · exact ⟨bytes, slot, f, hwrite, hs, hmode, hf, ho ▸ hid⟩
      · rw [h] at hbody
        exact absurd (Disk.body_setBody_of_ne _ content ho) hbody
  refused _ := call_refused hc

/-! ## Where descriptors come from -/

/-- A call that opens a file gives `-1` and no file, or a descriptor of the file that was opened. -/
lemma openFile_call (sound : w.machine.disk.Sound) (name : String) (flags : OpenFlags) :
    let v := (w.call (.openFile name flags)).2
    ((w.call (.openFile name flags)).1 = .code (-1) ∧ v.machine.disk = w.machine.disk ∧
        v.machine.state = w.machine.state) ∨
      ∃ i mode f, w.machine.state.table.lowestFree? = some i ∧ flags.mode? = some mode ∧
        (w.call (.openFile name flags)).1 = .code (Table.fdOf i) ∧
        w.machine.disk.openPath (w.machine.settings.resolve name) flags.access = .ok (v.machine.disk, f) ∧
        v.machine.state.table =
          w.machine.state.table.setSlot i (some ⟨name, mode, some (.file f)⟩) ∧
        ∀ file, f.backing = .regular file → f.access ≠ .read →
          w.OpensForWriting (.openFile name flags) (Table.fdOf i) file := by
  intro v
  cases ho : w.machine.openFile name flags with
  | mk fd n =>
    have hcall : w.call (.openFile name flags) = (.code fd, { w with machine := n }) := by
      simp [call, ho]
    by_cases hfd : fd = -1
    · subst hfd
      obtain ⟨hdisk, hstate⟩ := Machine.openFile_refused ho
      exact .inl ⟨by rw [hcall], by simpa [v, hcall] using hdisk, by simpa [v, hcall] using hstate⟩
    · obtain ⟨i, mode, disk, f, hfree, hmode, hopen, rfl, hdisk, htable⟩ := Machine.openFile_opened ho hfd
      have hv : v.machine = n := by simp [v, hcall]
      refine .inr ⟨i, mode, f, hfree, hmode, by rw [hcall], by rw [hv, hdisk, hopen],
        by rw [hv, htable], ?_⟩
      intro file hfile haccess
      have hwrite : flags.asksWrite = true := by
        rw [Disk.access_of_openPath hopen] at haccess
        by_contra hno
        exact haccess (by simp [OpenFlags.access, hno])
      refine ⟨name, flags, rfl, hwrite, by rw [hcall], hfd, ?_⟩
      show v.machine.disk.fileAt? _ = _
      rw [hv, hdisk]
      exact Disk.fileAt?_of_openPath sound hopen hfile

/-- A call that opens nothing leaves no file open but those that were. -/
lemma inherits_call (hc : c.exchanges = false) (hopen : ∀ name flags, c ≠ .openFile name flags) :
    w.machine.state.table.Inherits (w.call c).2.machine.state.table := by
  cases c with
  | openFile name flags => exact absurd rfl (hopen name flags)
  | readFrom | writeTo | seek | closeFile => exact (touch_call rfl).inherits
  | resetFiles => exact w.machine.resetFiles_table ▸ Table.inherits_initial _
  | swap => cases hc
  | _ => exact .of_eq (table_call rfl)

/-- A descriptor that may be written on was there before the call, or the call has just given it. -/
lemma writer_call (sound : w.machine.disk.Sound) {id : Nat} (h : (w.call c).2.Writer id fd file) :
    w.Writer id fd file ∨ w.active = id ∧ w.OpensForWriting c fd file := by
  obtain ⟨s, f, hs, hf, hid, haccess⟩ := h
  -- Whatever a table inherits was open before, to the same file and for the same.
  have hbefore {r : IoState} (hr : (id, r) ∈ w.states) (inherits : r.table.Inherits s.table) :
      w.Writer id fd file := by
    obtain ⟨g, hg, hback, hacc⟩ := inherits fd f hf
    exact ⟨r, g, hr, hg, hback ▸ hid, hacc ▸ haccess⟩
  obtain hs | ⟨input, rfl⟩ | ⟨hc, rfl, rfl⟩ := mem_states_call c hs
  · exact .inl ⟨s, f, hs, hf, hid, haccess⟩
  · exact absurd hf (Table.stream?_initial_ne fd f)
  · by_cases hopen : ∃ name flags, c = .openFile name flags
    · obtain ⟨name, flags, rfl⟩ := hopen
      obtain ⟨-, -, hstate⟩ | ⟨i, mode, g, -, -, -, -, htable, hopens⟩ := openFile_call sound name flags
      · exact .inl (hbefore (.head _) (.of_eq (congrArg IoState.table hstate)))
      · obtain ⟨j, -, rfl, -, -⟩ := Table.stream?_eq_some_iff.mp hf
        rw [htable, Table.stream?_setSlot] at hf
        split at hf
        · next hij =>
          cases hf
          exact .inr ⟨rfl, hij ▸ hopens file hid haccess⟩
        · exact .inl ⟨_, f, .head _, hf, hid, haccess⟩
    · exact .inl (hbefore (.head _) (inherits_call hc fun name flags he => hopen ⟨name, flags, he⟩))

/-- A descriptor on which a new world can write was obtained by opening the file to be written. -/
lemma obtained_of_writer (fresh : w.Fresh) (sound : w.machine.disk.Sound) {calls : List (Time × Call)}
    {id : Nat} (h : (w.run calls).2.Writer id fd file) : w.Obtained calls id fd file := by
  have hstart : ¬w.Writer id fd file := by
    rintro ⟨s, f, hs, hf, -⟩
    exact Table.stream?_initial_ne fd f (fresh.table hs ▸ hf)
  obtain ⟨before, now, c, after, rfl, hnot, hwriter, hafter⟩ :=
    exists_call_of_run (P := fun v => v.Writer id fd file) (fun _ h => h) h hstart
  have hsound : ((w.run before).2.atTime now).machine.disk.Sound :=
    ((fresh.accounted_of_sound sound).run before).sound
  obtain hwas | ⟨hactive, hopens⟩ := writer_call hsound hwriter
  · exact absurd hwas hnot
  · exact ⟨before, now, c, after, rfl, hactive, hopens, hafter⟩

/-! ## Contents -/

/-- What a call changes in a file, it changes by opening the file to be written or by a write on a
descriptor of it. -/
lemma body_call (bound : w.Bound) (sound : w.machine.disk.Sound)
    (h : (w.call c).2.machine.disk.body file ≠ w.machine.disk.body file) :
    (∃ fd, w.OpensForWriting c fd file) ∨
      ∃ fd bytes, c = .writeTo fd bytes ∧ w.Writer w.active fd file := by
  by_cases hdisk : c.usesDisk = false
  · exact absurd (by rw [disk_call hdisk]) h
  cases c with
  | openFile name flags =>
    obtain ⟨-, hsame, -⟩ | ⟨i, mode, f, -, -, -, hopen, -, hopens⟩ := openFile_call sound name flags
    · exact absurd (by rw [hsame]) h
    · obtain ⟨haccess, hid⟩ := Disk.body_of_openPath sound hopen h
      have hf : f.access ≠ .read := by rw [Disk.access_of_openPath hopen, haccess]; decide
      exact .inl ⟨_, hopens file hid hf⟩
  | writeTo fd bytes =>
    obtain ⟨_, slot, f, -, hs, hmode, hf, hid⟩ := (isolated_call (w := w) rfl).bodies file h
    have hwrite : f.access ≠ .read := by
      rw [bound.active.access_of_slot? hs hf]
      obtain hmode | hmode := hmode <;> rw [hmode] <;> decide
    exact .inr ⟨fd, bytes, rfl, w.machine.state, f, .head _, by simp [Table.stream?, hs, hf], hid, hwrite⟩
  | _ => exact absurd rfl hdisk

/-- A call after a run changes a file only if it is permitted to. -/
lemma permitted_of_body (fresh : w.Fresh) (sound : w.machine.disk.Sound) {calls : List (Time × Call)}
    {now : Time} (h : (((w.run calls).2.atTime now).call c).2.machine.disk.body file ≠
      (w.run calls).2.machine.disk.body file) :
    w.Permitted calls now c file := by
  have hbound : ((w.run calls).2.atTime now).Bound := (fresh.bound.run calls).atTime now
  have hsound : ((w.run calls).2.atTime now).machine.disk.Sound :=
    ((fresh.accounted_of_sound sound).run calls).sound
  obtain hopens | ⟨fd, bytes, hwrite, hwriter⟩ := body_call hbound hsound h
  · exact .inl hopens
  · exact .inr ⟨fd, bytes, hwrite, obtained_of_writer fresh sound hwriter⟩

/-- After any run a call on one descriptor disturbs no other, and a call changes a file only by opening it to
be written or by a write on a descriptor obtained so. A file that a run has changed was therefore changed by
such a call. -/
theorem descriptors_isolated (fresh : w.Fresh) (sound : w.machine.disk.Sound)
    (calls : List (Time × Call)) :
    (∀ now c fd, c.descriptor? = some fd → ((w.run calls).2.atTime now).Isolated c fd) ∧
    (∀ now c file, (((w.run calls).2.atTime now).call c).2.machine.disk.body file ≠
        (w.run calls).2.machine.disk.body file →
      w.Permitted calls now c file) ∧
    ∀ file, (w.run calls).2.machine.disk.body file ≠ w.machine.disk.body file →
      ∃ before now c after, calls = before ++ (now, c) :: after ∧ w.Permitted before now c file := by
  refine ⟨fun now c fd hc => isolated_call hc, fun now c file h => permitted_of_body fresh sound h, ?_⟩
  intro file h
  obtain ⟨before, now, c, after, rfl, hwas, hnow, -⟩ :=
    exists_call_of_run (P := fun v => v.machine.disk.body file ≠ w.machine.disk.body file)
      (fun _ h => h) h (not_not.mpr rfl)
  have hsame : (w.run before).2.machine.disk.body file = w.machine.disk.body file := not_not.mp hwas
  exact ⟨before, now, c, after, rfl, permitted_of_body fresh sound (hsame ▸ hnow)⟩

/-- A write on one of two descriptors that lead to one file under different names. -/
theorem descriptors_isolated_aliased :
    let calls : List (Time × Call) :=
      [(0, .openFile "a" .writeOnly), (0, .openFile "./a" .readOnly), (0, .openFile "b" .writeOnly)]
    let v := (scratch.run calls).2.atTime 1
    let n := (v.call (.writeTo 3 [120])).2
    let a : FileId := ⟨["scratch", "a"], 0⟩
    scratch.Fresh ∧ scratch.machine.disk.Sound ∧
      v.machine.state.table.files = [a, a, ⟨["scratch", "b"], 0⟩] ∧
      v.Isolated (.writeTo 3 [120]) 3 ∧ n.machine.state.table.slotAt 4 = v.machine.state.table.slotAt 4 ∧
      n.machine.disk.body a = [120] ∧ scratch.Permitted calls 1 (.writeTo 3 [120]) a := by
  intro calls v n a
  have sound : scratch.machine.disk.Sound := Disk.sound_ofHome _
  obtain ⟨isolated, permitted, -⟩ := descriptors_isolated fresh_scratch sound calls
  have hbody : n.machine.disk.body a = [120] ∧ (scratch.run calls).2.machine.disk.body a = [] := by
    decide +kernel
  have hcall : v.Isolated (.writeTo 3 [120]) 3 := isolated 1 _ 3 rfl
  refine ⟨fresh_scratch, sound, by decide +kernel, hcall, hcall.slots 4 (by decide), hbody.1, ?_⟩
  exact permitted 1 _ a (by rw [hbody.2]; exact hbody.1 ▸ by decide)

end World

end Hostcall

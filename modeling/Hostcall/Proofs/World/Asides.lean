import Hostcall.Proofs.Host.Contents
import Hostcall.Proofs.World.Descriptors

/-!
# Calls among others

A guest does one thing while it goes on with others. Of these, a call spares a file if it neither opens the
file nor works on a descriptor of it, and puts no other state or table in the place of the active one
(`World.Spares`); it then leaves alone what is in the file and every slot that leads there
(`body_of_spares`, `slotAt_of_spares`). What all such calls keep can be carried from each of the guest's own
calls to the next (`Among.next`).
-/

namespace Hostcall

open Pane

/-- The regular file behind a descriptor. -/
def Table.fileOf? (t : Table) (fd : Int) : Option FileId :=
  (t.stream? fd).bind fun
    | .file f => f.file?
    | .standard _ => none

/-- The file of a descriptor is the one behind its stream. -/
lemma Table.fileOf?_of_stream? {t : Table} {fd : Int} {f : OpenFile} {file : FileId}
    (hf : t.stream? fd = some (.file f)) (hid : f.backing = .regular file) : t.fileOf? fd = some file := by
  simp [fileOf?, hf, OpenFile.file?_eq_some_iff.mpr hid]

namespace World

/-- A call leaves a file alone, and the path that leads to it: it neither opens the file nor works on a
descriptor of it, and neither resets nor exchanges the state. -/
def Spares (w : World) (name : String) (file : FileId) : Call → Prop
  | .openFile other flags => ¬w.machine.disk.Opens (w.machine.settings.resolve other) flags.access file
  | .readFrom fd _ | .writeTo fd _ | .seek fd _ _ | .closeFile fd =>
    w.machine.state.table.fileOf? fd ≠ some file
  | .setSettings settings => settings.resolve name = w.machine.settings.resolve name
  | .resetFiles | .swap _ => False
  | _ => True

instance (w : World) (name : String) (file : FileId) : ∀ c, Decidable (w.Spares name file c)
  | .openFile other flags =>
    inferInstanceAs
      (Decidable ¬w.machine.disk.Opens (w.machine.settings.resolve other) flags.access file)
  | .readFrom fd _ | .writeTo fd _ | .seek fd _ _ | .closeFile fd =>
    inferInstanceAs (Decidable (w.machine.state.table.fileOf? fd ≠ some file))
  | .setSettings settings =>
    inferInstanceAs (Decidable (settings.resolve name = w.machine.settings.resolve name))
  | .resetFiles | .swap _ => .isFalse id
  | .print _ | .readChar _ | .readString .. | .readInteger _ | .readLong _ | .readSingle _
  | .readDouble _ | .flush _ | .attachNew _ | .attach _ | .adjustFront .. | .takeHandle
  | .flushThrough .. | .parkNew _ => .isTrue trivial

/-- A run that makes calls which reply so, and among them others that spare a file. -/
inductive Among (name : String) (file : FileId) : World → List (Call × Reply) → World → Prop where
  | done {w} :
    Among name file w [] w
  | own {w v c reply rest} (now : Time) :
    ((w.atTime now).call c).1 = reply →
    Among name file ((w.atTime now).call c).2 rest v →
    Among name file w ((c, reply) :: rest) v
  | aside {w v own} (now : Time) (c : Call) :
    (w.atTime now).Spares name file c →
    Among name file ((w.atTime now).call c).2 own v →
    Among name file w own v

/-- What the clock and the calls that spare a file keep. -/
structure Lasting (name : String) (file : FileId) (I : World → Prop) : Prop where
  time {w : World} (now : Time) : I w → I (w.atTime now)
  aside {w : World} {c : Call} : I w → w.Spares name file c → I (w.call c).2

variable {w v : World} {c : Call} {name : String} {file : FileId} {i : Fin tableSize} {f : OpenFile}
  {I : World → Prop}

/-- The calls up to the next own call keep what they spare. -/
lemma Among.next {reply : Reply} {rest : List (Call × Reply)} (lasting : Lasting name file I)
    (h : Among name file w ((c, reply) :: rest) v) (hi : I w) :
    ∃ u, I u ∧ (u.call c).1 = reply ∧ Among name file (u.call c).2 rest v := by
  -- By induction on the run: asides are passed over until the own call is made.
  generalize hl : (c, reply) :: rest = own at h
  induction h with
  | done => cases hl
  | own _ hreply hrest _ =>
    cases hl
    exact ⟨_, lasting.time _ hi, hreply, hrest⟩
  | aside _ _ spares _ ih => exact ih (lasting.aside (lasting.time _ hi) spares) hl

/-- What lasts through the calls in between lasts to the end of them. -/
lemma Among.finish (lasting : Lasting name file I) (h : Among name file w [] v) (hi : I w) : I v := by
  generalize hl : [] = own at h
  induction h with
  | done => exact hi
  | own => cases hl
  | aside _ _ spares _ ih => exact ih (lasting.aside (lasting.time _ hi) spares) hl

/-- Only new settings resolve a name anew. -/
lemma resolve_call (hc : ∀ settings, c = .setSettings settings →
      settings.resolve name = w.machine.settings.resolve name) :
    (w.call c).2.machine.settings.resolve name = w.machine.settings.resolve name := by
  have hkept (h : c.touched.contains .settings = false) : (w.call c).2.machine.settings = w.machine.settings :=
    w.touches_call c .settings h
  cases c with
  | setSettings settings => exact hc settings rfl
  | _ => rw [hkept rfl]

/-- A call that spares a file leaves its content alone. -/
lemma body_of_spares (h : w.Accounted) (spares : w.Spares name file c) :
    (w.call c).2.machine.disk.body file = w.machine.disk.body file := by
  by_contra hbody
  cases c with
  | openFile other flags =>
    obtain ⟨-, hdisk, -⟩ | ⟨_, _, f, -, -, -, hopen, -⟩ := openFile_call h.sound other flags
    · exact hbody (by rw [hdisk])
    · have hid := (Disk.body_of_openPath h.sound hopen hbody).2
      exact spares (.of_openPath hopen hid)
  | writeTo fd bytes =>
    obtain ⟨_, s, f, -, hs, -, hf, hid⟩ := (isolated_call (w := w) rfl).bodies file hbody
    exact spares (Table.fileOf?_of_stream? (by simp [Table.stream?, hs, hf]) hid)
  | _ => exact hbody (by rw [disk_call rfl])

/-- A call that spares a file leaves the slots alone that lead to it. -/
lemma slotAt_of_spares (h : w.Accounted) (spares : w.Spares name file c) {s : Slot}
    (hs : w.machine.state.table.slotAt i = some s) (hf : s.stream = some (.file f))
    (hid : f.backing = .regular file) : (w.call c).2.machine.state.table.slotAt i = some s := by
  have hstream : w.machine.state.table.stream? (Table.fdOf i) = some (.file f) := by
    simp [Table.stream?, hs, hf]
  have hfile := Table.fileOf?_of_stream? hstream hid
  cases c with
  | openFile other flags =>
    obtain ⟨-, -, hstate⟩ | ⟨j, _, _, hfree, -, -, -, htable, -⟩ := openFile_call h.sound other flags
    · rw [hstate, hs]
    · -- The slot that is filled was free, and this one is not.
      have hne : j ≠ i := by
        rintro rfl
        cases hs.symm.trans (Table.lowestFree?_eq_some_iff.mp hfree).2.1
      rw [htable, Table.slotAt_setSlot_of_ne _ _ hne, hs]
  | readFrom fd | writeTo fd | seek fd | closeFile fd =>
    have hne : Table.fdOf i ≠ fd := fun he => spares (he ▸ hfile)
    rw [(touch_call rfl).slotAt_of_ne hne, hs]
  | resetFiles | swap => exact spares.elim
  | _ => rw [table_call rfl, hs]

end World

end Hostcall

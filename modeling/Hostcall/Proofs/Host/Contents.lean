import Hostcall.Proofs.Host.Regions

/-!
# What a path holds

A path that opens to be written leads to one file, whether or not the file is there already, and goes on
leading to it whatever becomes of the host's files (`Opens.change`). Opening it gives that file, emptied if it
is to be written from its start (`Opens.opened`). A file that is written at its end gains what is written
(`AtEnd.write`).
-/

namespace Hostcall.Disk

variable {R : Region} {d e : Disk} {path : String} {access : Access} {p : Location} {id : FileId}
  {f : OpenFile}

/-- Opening a path gives a regular file. -/
def Opens (d : Disk) (path : String) (access : Access) (id : FileId) : Prop :=
  (d.openPath path access).toOption.map (·.2.backing) = some (.regular id)

instance : Decidable (d.Opens path access id) :=
  inferInstanceAs (Decidable (_ = _))

/-- What is in the file at a path; nothing where there is no file. -/
def holds (d : Disk) (path : String) : List UInt8 :=
  match d.contentAt path with
  | .ok bytes => bytes
  | .error _ => []

/-- A file stands at a place, or it is the one that would be made there. -/
inductive StandsAt (d : Disk) (p : Location) (id : FileId) : Prop where
  | there :
    d.node? p = some (.file id) →
    StandsAt d p id
  | made :
    d.node? p = none →
    d.admits p.dropLast = true →
    d.nextFile p = id →
    StandsAt d p id

/-- An open file that is written at its end. -/
structure AtEnd (d : Disk) (id : FileId) (f : OpenFile) : Prop where
  backing : f.backing = .regular id
  access : f.access = .append ∨ f.access = .write ∧ f.position = (d.body id).length

/-! ## Where a path leads -/

/-- A path opens the file that it was opened to. -/
lemma Opens.of_openPath (h : d.openPath path access = .ok (e, f)) (hf : f.backing = .regular id) :
    d.Opens path access id := by
  simp [Opens, h, Except.toOption, hf]

/-- A path opens to be written if a regular file stands at its place, or can be made there. -/
lemma opens_append_iff : d.Opens path .append id ↔ ∃ p, d.place? path = some p ∧ d.StandsAt p id := by
  simp only [Opens, openPath_toOption, Option.map_eq_some_iff, Option.bind_eq_some_iff]
  constructor
  · rintro ⟨⟨e, f⟩, ⟨p, hp, hat⟩, hf⟩
    refine ⟨p, hp, ?_⟩
    simp only [openAt] at hat
    split at hat
    · next node hn =>
      obtain ⟨backing, hb, hopened⟩ := Option.map_eq_some_iff.mp hat
      cases hopened
      obtain rfl : backing = .regular id := hf
      exact .there (backing?_eq_regular_iff.mp hb ▸ hn)
    · next hn =>
      split at hat
      · next hadmits =>
        cases hat
        exact .made hn hadmits.2 (Backing.regular.inj hf)
      · cases hat
  · rintro ⟨p, hp, stands⟩
    cases stands with
    | there hn =>
      refine ⟨(d, { backing := .regular id, access := .append }), ⟨p, hp, ?_⟩, rfl⟩
      simp [openAt, hn, Node.backing?]
    | made hn hadmits hid =>
      refine ⟨((d.addFile p).1, { backing := .regular id, access := .append }), ⟨p, hp, ?_⟩, rfl⟩
      subst hid
      simp [openAt, hn, hadmits]
      rfl

/-- Whatever stands or would be made at a place stands or would be made there after a change. -/
lemma StandsAt.change (h : d.StandsAt p id) (sound : d.Sound) (ch : d.Change R e) : e.StandsAt p id := by
  cases h with
  | there hn => exact .there (ch.grows.kept hn)
  | made hn hadmits hid =>
    cases ch with
    | same => exact .made hn hadmits hid
    | rewritten _ hother =>
      refine .made hn hadmits ?_
      rw [nextFile, sound.births_setBody hother]
      exact hid
    | @made q _ _ =>
      by_cases hq : p = q
      · subst hq
        exact .there (hid ▸ node?_addFile_self d p)
      · refine .made (node?_addFile_of_ne d hq ▸ hn) hadmits ?_
        rw [nextFile, births_addFile_of_ne d hq]
        exact hid

/-- A path that leads to a file leads to it after every change. -/
lemma Opens.change (h : d.Opens path .append id) (sound : d.Sound) (ch : d.Change R e) :
    e.Opens path .append id := by
  obtain ⟨p, hp, stands⟩ := opens_append_iff.mp h
  exact opens_append_iff.mpr ⟨p, (ch.grows.place? path).trans hp, stands.change sound ch⟩

/-- A file that is not there yet has no content. -/
lemma Sound.body_nextFile (sound : d.Sound) (p : Location) : d.body (d.nextFile p) = [] :=
  (sound.body_addFile p _).symm.trans (body_addFile_self d p)

/-- Opening a path that leads to a file gives that file at its beginning, emptied if it is to be written. -/
lemma Opens.opened (h : d.Opens path .append id) (sound : d.Sound)
    (hopen : d.openPath path access = .ok (e, f)) :
    f = { backing := .regular id, access } ∧ e.body id = if access = .write then [] else d.body id := by
  obtain ⟨p, hp, stands⟩ := opens_append_iff.mp h
  have hopt := openPath_toOption d path access
  rw [hopen, hp] at hopt
  obtain ⟨node, backing, hn, hb, rfl, rfl⟩ | ⟨hn, rfl, rfl⟩ := openAt_cases sound hopt.symm
  · cases stands with
    | there hn' =>
      obtain rfl := Option.some.inj (hn.symm.trans hn')
      cases hb
      split
      · exact ⟨rfl, body_setBody_self d id []⟩
      · exact ⟨rfl, rfl⟩
    | made hn' => cases hn.symm.trans hn'
  · cases stands with
    | there hn' => cases hn.symm.trans hn'
    | made _ _ hid =>
      subst hid
      simp [sound.body_nextFile p]

/-- A path that opens to be written holds what is in its file. -/
lemma Opens.holds_eq (h : d.Opens path .append id) (sound : d.Sound) : d.holds path = d.body id := by
  obtain ⟨p, hp, stands⟩ := opens_append_iff.mp h
  cases stands with
  | there hn =>
    have hfile := fileAt?_of_place? hp hn
    simp only [fileAt?] at hfile
    split at hfile
    · next hlookup =>
      cases hfile
      simp [holds, contentAt, hlookup]
    · cases hfile
  | made hn _ hid =>
    -- There is nothing to read yet.
    have hread := openPath_toOption d path .read
    simp only [hp, Option.bind_some, openAt, hn] at hread
    rw [← hid, sound.body_nextFile, holds, contentAt]
    cases hlookup : d.lookup path with
    | error cause => rfl
    | ok node => cases node <;> simp_all [openPath, Except.toOption, Node.backing?]

/-! ## Writing at the end and reading on -/

/-- Overwriting from the end on appends. -/
lemma overwrite_atEnd (content bytes : List UInt8) :
    overwrite content content.length bytes = content ++ bytes := by
  simp [overwrite]

/-- A write at the end of a file adds to it, and leaves the file to be written at its end. -/
lemma AtEnd.write (h : d.AtEnd id f) (bytes : List UInt8) :
    ∃ e g, d.write f bytes = .ok (e, g) ∧ e.body id = d.body id ++ bytes ∧ e.AtEnd id g := by
  obtain ⟨hid, hend⟩ := h
  by_cases hnil : bytes = []
  · refine ⟨d, f, by simp [Disk.write, hnil], by simp [hnil], hid, hend⟩
  · have hread : f.access ≠ .read := by
      obtain ha | ⟨ha, -⟩ := hend <;> rw [ha] <;> decide
    have hstart : (if f.access = .append then (d.body id).length else f.position) = (d.body id).length := by
      obtain ha | ⟨ha, hpos⟩ := hend <;> simp [*]
    refine ⟨d.setBody id (d.body id ++ bytes), { f with position := (d.body id).length + bytes.length },
      ?_, body_setBody_self .., hid, ?_⟩
    · simp [Disk.write, hnil, hread, hid, hstart, overwrite_atEnd]
    · obtain ha | ⟨ha, -⟩ := hend
      · exact .inl ha
      · exact .inr ⟨ha, by simp⟩

/-- A read takes its bytes from where the file stands and moves the file behind them. -/
lemma read_regular (hid : f.backing = .regular id) (ha : f.access = .read) (count : Nat) :
    d.read f count = .ok (((d.body id).drop f.position).take count,
      { f with position := f.position + min count ((d.body id).drop f.position).length }) := by
  simp [read, ha, hid]

end Hostcall.Disk

import Hostcall.Proofs.Host.Growth
import Mathlib.Data.Set.Basic

/-!
# Parts of the host's files

A region is the part of the host that a guest can come to: the places that its paths lead to and the files
behind them. Two disks that agree on a region answer alike to everything that stays inside
(`Agree.openPath`, `Agree.read`, `Agree.write`), and a change within one region is not seen from a region
apart from it (`Change.agree`).
-/

namespace Hostcall

/-- A part of the host's files: places, those of them at which files come to be, and files. -/
structure Region where
  places : Set Location
  makes : Set Location
  files : Set FileId
  makes_subset : makes ⊆ places

namespace Region

/-- Everything there is. -/
def whole : Region :=
  ⟨.univ, .univ, .univ, subset_rfl⟩

/-- Nothing that may change in `S` is in `R`. -/
structure ApartFrom (R S : Region) : Prop where
  places {p : Location} : p ∈ S.makes → p ∉ R.places
  files {id : FileId} : id ∈ S.files → id ∉ R.files

/-- From one disk to a later one, a region takes in every file that is made or found at its places. -/
structure Spans (R : Region) (d e : Disk) : Prop where
  made {p : Location} : p ∈ R.places → d.node? p = none → e.node? p ≠ none → p ∈ R.makes
  named {p : Location} {id : FileId} : p ∈ R.places → e.node? p = some (.file id) → id ∈ R.files

/-- Everything there is spans whatever happens. -/
lemma whole_spans (d e : Disk) : whole.Spans d e :=
  ⟨fun _ _ _ => trivial, fun _ _ => trivial⟩

/-- What spans a run spans every part of it. -/
lemma Spans.mono {R : Region} {c d e f : Disk} (h : R.Spans c f) (hd : c.Grows d) (he : e.Grows f) :
    R.Spans d e where
  made {p} hp hnone hsome := by
    refine h.made hp ?_ ?_
    · cases hc : c.node? p with
      | none => rfl
      | some node => exact absurd (hnone.symm.trans (hd.kept hc)) nofun
    · obtain ⟨node, hnode⟩ := Option.ne_none_iff_exists'.mp hsome
      exact Option.ne_none_iff_exists'.mpr ⟨node, he.kept hnode⟩
  named hp hn := h.named hp (he.kept hn)

end Region

namespace Disk

variable {R S : Region} {c d e d' : Disk}

/-! ## Changes within a region -/

/-- What one call can do to a disk within a region. -/
inductive Change (R : Region) (d : Disk) : Disk → Prop where
  | same :
    Change R d d
  | rewritten {id bytes} :
    id ∈ R.files →
    id ∈ d.files →
    Change R d (d.setBody id bytes)
  | made {p} :
    p ∈ R.makes →
    d.node? p = none →
    Change R d (d.addFile p).1

/-- A change within a region keeps a disk sound. -/
lemma Change.sound (ch : d.Change R e) (sound : d.Sound) : e.Sound := by
  cases ch with
  | same => exact sound
  | rewritten _ hid => exact sound.setBody hid _
  | made _ _ => exact sound.addFile _

/-- A disk that changes within a region grows. -/
lemma Change.grows (ch : d.Change R e) : d.Grows e := by
  cases ch with
  | same => exact .refl d
  | rewritten _ hid => exact .setBody hid _
  | made _ hnone => exact .addFile hnone

/-- What opening does where a path leads to a place: a file that was there is emptied at most, and a file
that was not there is made. -/
lemma openAt_cases (sound : d.Sound) {p : Location} {access : Access} {f : OpenFile}
    (h : d.openAt p access = some (e, f)) :
    (∃ node backing, d.node? p = some node ∧ node.backing? = some backing ∧ f = { backing, access } ∧
      e = if access = .write then d.truncate backing else d) ∨
    (d.node? p = none ∧ f = { backing := .regular (d.nextFile p), access } ∧ e = (d.addFile p).1) := by
  simp only [openAt] at h
  split at h
  · next node hn =>
    obtain ⟨backing, hb, he⟩ := Option.map_eq_some_iff.mp h
    cases he
    exact .inl ⟨node, backing, hn, hb, rfl, rfl⟩
  · next hn =>
    split at h
    · cases h
      refine .inr ⟨hn, rfl, ?_⟩
      split
      · exact sound.setBody_addFile p
      · rfl
    · cases h

/-- Only a regular file stands behind a regular handle. -/
lemma backing?_eq_regular_iff {node : Node} {id : FileId} :
    node.backing? = some (.regular id) ↔ node = .file id := by
  cases node <;> simp [Node.backing?]

/-- Opening a path changes a disk at the place of the path. -/
lemma openPath_change (sound : d.Sound) {path : String} {access : Access} {f : OpenFile}
    (hplace : ∀ p, d.place? path = some p → p ∈ R.places) (spans : R.Spans d e)
    (h : d.openPath path access = .ok (e, f)) :
    d.Change R e ∧ ∀ id, f.backing = .regular id → id ∈ R.files ∧ id ∈ e.files := by
  have hopt := openPath_toOption d path access
  rw [h] at hopt
  obtain ⟨p, hp, hat⟩ := Option.bind_eq_some_iff.mp hopt.symm
  obtain ⟨node, backing, hn, hb, rfl, rfl⟩ | ⟨hn, rfl, rfl⟩ := openAt_cases sound hat
  · -- The file was there, and emptying it makes no other.
    have hid {id} (hf : backing = .regular id) : id ∈ R.files ∧ id ∈ d.files := by
      subst hf
      obtain rfl := backing?_eq_regular_iff.mp hb
      refine ⟨spans.named (hplace p hp) ?_, sound.named hn⟩
      split
      · exact hn
      · exact hn
    cases backing with
    | regular id =>
      obtain ⟨hR, hd⟩ := hid rfl
      split
      · refine ⟨.rewritten hR hd, fun other ho => ?_⟩
        cases ho
        exact ⟨hR, (mem_files_setBody hd []).mpr hd⟩
      · refine ⟨.same, fun other ho => ?_⟩
        cases ho
        exact ⟨hR, hd⟩
    | null | full =>
      have hsame : (if access = .write then d else d) = d := ite_self d
      simp only [truncate, hsame]
      exact ⟨.same, nofun⟩
  · have hnew := node?_addFile_self d p
    refine ⟨.made (spans.made (hplace p hp) hn (hnew ▸ nofun)) hn, fun id hid => ?_⟩
    cases hid
    exact ⟨spans.named (hplace p hp) hnew, .head _⟩

/-- A path that was opened leads to the file behind the open file. -/
lemma fileAt?_of_openPath (sound : d.Sound) {path : String} {access : Access} {f : OpenFile} {id : FileId}
    (h : d.openPath path access = .ok (e, f)) (hf : f.backing = .regular id) : e.fileAt? path = some id := by
  have grows := (openPath_change (R := .whole) sound (fun _ _ => trivial) (Region.whole_spans d e) h).1.grows
  have hopt := openPath_toOption d path access
  rw [h] at hopt
  obtain ⟨p, hp, hat⟩ := Option.bind_eq_some_iff.mp hopt.symm
  have hplace : e.place? path = some p := (grows.place? path).trans hp
  obtain ⟨node, backing, hn, hb, rfl, rfl⟩ | ⟨hn, rfl, rfl⟩ := openAt_cases sound hat
  · obtain rfl : backing = .regular id := hf
    obtain rfl := backing?_eq_regular_iff.mp hb
    exact fileAt?_of_place? hplace (grows.kept hn)
  · obtain rfl : d.nextFile p = id := by simpa using hf
    exact fileAt?_of_place? hplace (node?_addFile_self d p)

/-- Opening a path changes what is in a file only if it empties the file in order to write it. -/
lemma body_of_openPath (sound : d.Sound) {path : String} {access : Access} {f : OpenFile} {id : FileId}
    (h : d.openPath path access = .ok (e, f)) (hbody : e.body id ≠ d.body id) :
    access = .write ∧ f.backing = .regular id := by
  have hopt := openPath_toOption d path access
  rw [h] at hopt
  obtain ⟨p, -, hat⟩ := Option.bind_eq_some_iff.mp hopt.symm
  obtain ⟨node, backing, -, -, rfl, rfl⟩ | ⟨-, -, rfl⟩ := openAt_cases sound hat
  · split at hbody
    · next hwrite =>
      cases backing with
      | regular other =>
        by_cases hid : id = other
        · exact ⟨hwrite, hid ▸ rfl⟩
        · exact absurd (body_setBody_of_ne d [] hid) hbody
      | null | full => exact absurd rfl hbody
    · exact absurd rfl hbody
  · exact absurd (sound.body_addFile p id) hbody

/-- Writing rewrites the file that is open, if anything. -/
lemma write_cases {f g : OpenFile} {bytes : List UInt8} (h : d.write f bytes = .ok (e, g)) :
    e = d ∨ ∃ id content, f.backing = .regular id ∧ e = d.setBody id content := by
  unfold write at h
  split at h
  · cases h
    exact .inl rfl
  · split at h
    · cases h
    · split at h
      · next id hf =>
        cases h
        exact .inr ⟨id, _, hf, rfl⟩
      · cases h
        exact .inl rfl
      · cases h

/-- A write changes the disk within any region that takes in its file. -/
lemma write_change {f g : OpenFile} {bytes : List UInt8}
    (hf : ∀ id, f.backing = .regular id → id ∈ R.files ∧ id ∈ d.files)
    (h : d.write f bytes = .ok (e, g)) : d.Change R e := by
  obtain rfl | ⟨id, content, hid, rfl⟩ := write_cases h
  · exact .same
  · exact .rewritten (hf id hid).1 (hf id hid).2

/-! ## Agreement on a region -/

/-- As far as a region goes, both disks are alike: the directories everywhere, and in the region what
stands at the places, how many files were made there, and what is in the files. -/
structure Agree (R : Region) (d e : Disk) : Prop where
  home : e.home = d.home
  grounds : e.grounds = d.grounds
  directories (p : Location) : e.node? p = some .directory ↔ d.node? p = some .directory
  nodes {p : Location} : p ∈ R.places → e.node? p = d.node? p
  births {p : Location} : p ∈ R.makes → e.births p = d.births p
  bodies {id : FileId} : id ∈ R.files → e.body id = d.body id

/-- A disk agrees with itself. -/
lemma Agree.refl (R : Region) (d : Disk) : d.Agree R d :=
  ⟨rfl, rfl, fun _ => .rfl, fun _ => rfl, fun _ => rfl, fun _ => rfl⟩

/-- Agreeing goes both ways. -/
lemma Agree.symm (h : d.Agree R e) : e.Agree R d where
  home := h.home.symm
  grounds := h.grounds.symm
  directories p := (h.directories p).symm
  nodes hp := (h.nodes hp).symm
  births hp := (h.births hp).symm
  bodies hid := (h.bodies hid).symm

/-- What agrees with a disk that agrees with another agrees with that. -/
lemma Agree.trans (h : c.Agree R d) (g : d.Agree R e) : c.Agree R e where
  home := g.home.trans h.home
  grounds := g.grounds.trans h.grounds
  directories p := (g.directories p).trans (h.directories p)
  nodes hp := (g.nodes hp).trans (h.nodes hp)
  births hp := (g.births hp).trans (h.births hp)
  bodies hid := (g.bodies hid).trans (h.bodies hid)

/-- What is changed within one region is not seen from a region apart from it. -/
lemma Change.agree (ch : d.Change S e) (sound : d.Sound) (apart : R.ApartFrom S) : d.Agree R e where
  home := ch.grows.home
  grounds := ch.grows.grounds
  directories := ch.grows.directories
  nodes {p} hp := by
    cases ch with
    | same => rfl
    | rewritten => rfl
    | @made q hq _ =>
      have hne : p ≠ q := fun he => apart.places hq (he ▸ hp)
      exact node?_addFile_of_ne d hne
  births {p} hp := by
    cases ch with
    | same => rfl
    | rewritten _ hid => exact sound.births_setBody hid _ p
    | @made q hq _ =>
      have hne : p ≠ q := fun he => apart.places hq (he ▸ R.makes_subset hp)
      exact births_addFile_of_ne d hne
  bodies {id} hid := by
    cases ch with
    | same => rfl
    | rewritten hother _ =>
      exact body_setBody_of_ne d _ fun he => apart.files hother (he ▸ hid)
    | made _ _ => exact sound.body_addFile _ id

/-- Files that are rewritten alike stay alike. -/
lemma Agree.setBody (h : d.Agree R e) (sd : d.Sound) (se : e.Sound) {id : FileId} (hd : id ∈ d.files)
    (he : id ∈ e.files) (bytes : List UInt8) : (d.setBody id bytes).Agree R (e.setBody id bytes) where
  home := h.home
  grounds := h.grounds
  directories := h.directories
  nodes := h.nodes
  births {p} hp := by
    rw [sd.births_setBody hd, se.births_setBody he, h.births hp]
  bodies {other} hother := by
    by_cases ho : other = id
    · rw [ho, body_setBody_self, body_setBody_self]
    · rw [body_setBody_of_ne _ _ ho, body_setBody_of_ne _ _ ho, h.bodies hother]

/-- The next file at a place of the region is the same on both disks. -/
lemma Agree.nextFile (h : d.Agree R e) {p : Location} (hp : p ∈ R.makes) :
    e.nextFile p = d.nextFile p := by
  rw [Disk.nextFile, Disk.nextFile, h.births hp]

/-- A file that is made on both disks leaves them alike. -/
lemma Agree.addFile (h : d.Agree R e) {p : Location} (hp : p ∈ R.makes) :
    (d.addFile p).1.Agree R (e.addFile p).1 := by
  have hnext := h.nextFile hp
  have hnode (q) : (e.addFile p).1.node? q = (d.addFile p).1.node? q ∨
      (e.addFile p).1.node? q = e.node? q ∧ (d.addFile p).1.node? q = d.node? q := by
    by_cases hq : q = p
    · left
      rw [hq, node?_addFile_self, node?_addFile_self, hnext]
    · exact .inr ⟨node?_addFile_of_ne e hq, node?_addFile_of_ne d hq⟩
  refine ⟨h.home, h.grounds, fun q => ?_, fun {q} hq => ?_, fun {q} hq => ?_, fun {id} hid => ?_⟩
  · obtain heq | ⟨he, hd⟩ := hnode q
    · rw [heq]
    · rw [he, hd, h.directories]
  · obtain heq | ⟨he, hd⟩ := hnode q
    · exact heq
    · rw [he, hd, h.nodes hq]
  · by_cases hqp : q = p
    · rw [hqp, births_addFile_self, births_addFile_self, h.births hp]
    · rw [births_addFile_of_ne e hqp, births_addFile_of_ne d hqp, h.births hq]
  · by_cases hnew : id = d.nextFile p
    · rw [hnew, body_addFile_self, ← hnext, body_addFile_self]
    · rw [body_addFile_of_ne d hnew, body_addFile_of_ne e (hnext ▸ hnew), h.bodies hid]

/-- Paths lead to the same places on both disks. -/
lemma Agree.place? (h : d.Agree R e) (path : String) : e.place? path = d.place? path :=
  place?_congr h.home h.directories path

/-- New files may be made in the same directories. -/
lemma Agree.admits (h : d.Agree R e) (p : Location) : e.admits p = d.admits p := by
  rw [Disk.admits, Disk.admits, h.grounds]

/-- What cannot be opened at a place of the region cannot be on the other disk. -/
lemma Agree.openAt_none (h : d.Agree R e) {p : Location} (hp : p ∈ R.places) {access : Access}
    (hd : d.openAt p access = none) : e.openAt p access = none := by
  simp only [openAt, h.nodes hp, h.admits] at hd ⊢
  split at hd
  · simpa using hd
  · split at hd
    · cases hd
    · next hwrite => rw [if_neg hwrite]

/-- What can be opened at a place of the region can be on the other disk, with the same file. -/
lemma Agree.openAt_some (h : d.Agree R e) (sd : d.Sound) (se : e.Sound) {p : Location}
    (hp : p ∈ R.places) {access : Access} {f : OpenFile} (spans : R.Spans d d')
    (hd : d.openAt p access = some (d', f)) :
    ∃ e', e.openAt p access = some (e', f) ∧ d'.Agree R e' := by
  cases he : e.openAt p access with
  | none =>
    rw [h.symm.openAt_none hp he] at hd
    cases hd
  | some opened =>
    obtain ⟨e', g⟩ := opened
    have hnodes := h.nodes hp
    obtain ⟨node, backing, hn, hb, rfl, rfl⟩ | ⟨hn, rfl, rfl⟩ := openAt_cases sd hd <;>
      obtain ⟨other, third, hn', hb', rfl, rfl⟩ | ⟨hn', rfl, rfl⟩ := openAt_cases se he
    · rw [hn', hn] at hnodes
      cases hnodes
      obtain rfl : backing = third := Option.some.inj (hb.symm.trans hb')
      refine ⟨_, rfl, ?_⟩
      split
      · cases backing with
        | regular id =>
          obtain rfl := backing?_eq_regular_iff.mp hb
          exact h.setBody sd se (sd.named hn) (se.named hn') []
        | null | full => exact h
      · exact h
    · rw [hn', hn] at hnodes
      cases hnodes
    · rw [hn', hn] at hnodes
      cases hnodes
    · have hmade := spans.made hp hn (node?_addFile_self d p ▸ nofun)
      refine ⟨_, ?_, h.addFile hmade⟩
      rw [h.nextFile hmade]

/-- Alike disks open paths of the region alike, though they may give different causes for a failure. -/
lemma Agree.openPath (h : d.Agree R e) (sd : d.Sound) (se : e.Sound) {path : String} {access : Access}
    (hplace : ∀ p, d.place? path = some p → p ∈ R.places)
    (spans : ∀ d' f, d.openPath path access = .ok (d', f) → R.Spans d d') :
    (∃ cause other, d.openPath path access = .error cause ∧ e.openPath path access = .error other) ∨
      ∃ d' e' f, d.openPath path access = .ok (d', f) ∧ e.openPath path access = .ok (e', f) ∧
        d'.Agree R e' := by
  have hd := openPath_toOption d path access
  have he := openPath_toOption e path access
  rw [h.place?] at he
  cases hopen : d.openPath path access with
  | error cause =>
    have hnone : (e.openPath path access).toOption = none := by
      rw [he, Option.bind_eq_none_iff]
      intro p hp
      rw [hopen] at hd
      exact h.openAt_none (hplace p hp) (Option.bind_eq_none_iff.mp hd.symm p hp)
    cases hother : e.openPath path access with
    | error other => exact .inl ⟨cause, other, rfl, rfl⟩
    | ok => simp [hother, Except.toOption] at hnone
  | ok opened =>
    obtain ⟨d', f⟩ := opened
    rw [hopen] at hd
    obtain ⟨p, hp, hat⟩ := Option.bind_eq_some_iff.mp hd.symm
    obtain ⟨e', hat', hagree⟩ := h.openAt_some sd se (hplace p hp) (spans d' f hopen) hat
    rw [hp, Option.bind_some, hat'] at he
    cases hother : e.openPath path access with
    | error => simp [hother, Except.toOption] at he
    | ok =>
      rw [hother] at he
      cases he
      exact .inr ⟨d', e', f, rfl, rfl, hagree⟩

/-- Disks that agree on a file give the same bytes of it. -/
lemma Agree.read (h : d.Agree R e) {f : OpenFile} (hf : ∀ id, f.backing = .regular id → id ∈ R.files)
    (count : Nat) : e.read f count = d.read f count := by
  unfold Disk.read
  split
  · rfl
  · split
    · next id hid => rw [h.bodies (hf id hid)]
    · rfl
    · rfl

/-- Disks that agree on a file give the same size of it. -/
lemma Agree.size (h : d.Agree R e) {f : OpenFile} (hf : ∀ id, f.backing = .regular id → id ∈ R.files) :
    e.size f = d.size f := by
  unfold Disk.size
  split
  · next id hid => rw [h.bodies (hf id hid)]
  · rfl

/-- Alike disks are written to alike. -/
lemma Agree.write (h : d.Agree R e) (sd : d.Sound) (se : e.Sound) {f : OpenFile}
    (hf : ∀ id, f.backing = .regular id → id ∈ R.files ∧ id ∈ d.files ∧ id ∈ e.files)
    (bytes : List UInt8) :
    (∃ cause, d.write f bytes = .error cause ∧ e.write f bytes = .error cause) ∨
      ∃ d' e' g, d.write f bytes = .ok (d', g) ∧ e.write f bytes = .ok (e', g) ∧ d'.Agree R e' := by
  unfold Disk.write
  split
  · exact .inr ⟨d, e, f, rfl, rfl, h⟩
  · split
    · exact .inl ⟨_, rfl, rfl⟩
    · split
      · next id hid =>
        obtain ⟨hR, hd, he⟩ := hf id hid
        rw [h.bodies hR]
        exact .inr ⟨_, _, _, rfl, rfl, h.setBody sd se hd he _⟩
      · exact .inr ⟨d, e, f, rfl, rfl, h⟩
      · exact .inl ⟨_, rfl, rfl⟩

end Disk

end Hostcall

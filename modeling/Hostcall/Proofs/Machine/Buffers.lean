import Hostcall.Proofs.Machine.Failures

/-!
# The guest's buffer

A read puts the next bytes of its source at the front of the guest's buffer. What lies behind them is cleared if
they are those of an answer in the run pane, and is as it was otherwise (`Fills`, `readFrom_fills`). Of an answer
only the bytes that fit can make a difference, to this read or to anything later (`readFrom_answering`).
-/

namespace Hostcall

open Pane

/-- A reader that is asked for bytes and has some gives some. -/
lemma Console.Input.read_eq_nil {i j : Input} {count : Nat} (h : i.read count = (.ok [], j)) :
    count = 0 ∨ i.unread = [] := by
  cases hs : i.supply with
  | bytes rest =>
    obtain ⟨bytes, k, hr, -, hnil⟩ := read_of_flows ⟨rest, hs⟩ count
    rw [h] at hr
    cases hr
    exact hnil rfl
  | broken cause =>
    -- What a reader gives that fails is in its block.
    cases hheld : i.held with
    | nil => simp [read, hheld, hs] at h
    | cons b bs =>
      simp only [read, hheld, hs, Prod.mk.injEq, Except.ok.injEq] at h
      exact .inl (by simpa using h.1)

namespace Machine

/-- The ways in which a read fills a buffer: with the next bytes of its source, whose rest the machine has
after it, and with what lies behind them. -/
inductive Fills (m : Machine) (fd : Int) (buffer : List UInt8) :
    List UInt8 → List UInt8 → Machine → Prop where
  /-- A read of the console may end with a block, but never before its first byte. -/
  | console {bytes n} :
    fd = StdChannel.input.fd →
    m.attached? = none →
    m.state.channels.input.unread = bytes ++ n.state.channels.input.unread →
    (bytes = [] → buffer.length = 0 ∨ m.state.channels.input.unread = []) →
    Fills m fd buffer bytes (bytes ++ buffer.drop bytes.length) n
  | field {id f bytes n} :
    fd = StdChannel.input.fd →
    m.attached? = some (id, f) →
    f.interactive = false →
    bytes = (m.fieldBytes id).take buffer.length →
    n.fieldBytes id = (m.fieldBytes id).drop buffer.length →
    Fills m fd buffer bytes (bytes ++ buffer.drop bytes.length) n
  | pane {id f text bytes n} :
    fd = StdChannel.input.fd →
    m.attached? = some (id, f) →
    f.interactive = true →
    m.nextAnswer? id = some text →
    bytes = (Utf8.encode text).take buffer.length →
    n.fronts = m.fronts.modify id (fun f => f.answer.2) →
    Fills m fd buffer bytes (bytes ++ List.replicate (buffer.length - bytes.length) 0) n
  | file {f id bytes n} :
    m.state.table.stream? fd = some (.file f) →
    f.backing = .regular id →
    bytes = ((m.disk.body id).drop f.position).take buffer.length →
    n.state.table.stream? fd = some (.file { f with position := f.position + bytes.length }) →
    n.disk = m.disk →
    Fills m fd buffer bytes (bytes ++ buffer.drop bytes.length) n
  /-- There is nothing in one of the two devices, and no end of zeros in the other. -/
  | device {f bytes n} :
    m.state.table.stream? fd = some (.file f) →
    f.backing = .null ∧ bytes = [] ∨ f.backing = .full ∧ bytes = List.replicate buffer.length 0 →
    n.state.table.stream? fd = some (.file f) →
    n.disk = m.disk →
    Fills m fd buffer bytes (bytes ++ buffer.drop bytes.length) n

variable {m n : Machine} {fd : Int} {buffer bytes filled : List UInt8}

/-- A filled buffer is as long as it was. -/
lemma Fills.length (h : m.Fills fd buffer bytes filled n) (hle : bytes.length ≤ buffer.length) :
    filled.length = buffer.length := by
  cases h <;> simp only [List.length_append, List.length_drop, List.length_replicate] <;> omega

/-- The bytes are at the front of a filled buffer. -/
lemma Fills.take (h : m.Fills fd buffer bytes filled n) : filled.take bytes.length = bytes := by
  cases h <;> exact List.take_left

/-- A number of bytes that a register can hold is returned as it is. -/
lemma countCode_eq {k : Nat} (h : k ≤ 0x7FFFFFFF) : countCode k = k := by
  simp only [countCode]
  omega

/-- What a read of a host file gives is what the disk gives. -/
lemma readFrom_file {f g : OpenFile} (hreq : m.state.table.require fd .read = .ok ())
    (hfd : fd ≠ StdChannel.input.fd) (hf : m.state.table.stream? fd = some (.file f))
    (hread : m.disk.read f buffer.length = .ok (bytes, g)) :
    ∃ es, m.readFrom fd buffer =
      (⟨.ok (countCode bytes.length), bytes ++ buffer.drop bytes.length⟩,
        (m.setTable (m.state.table.bind fd (.file g)).2).log es) := by
  simp only [readFrom, hreq, if_neg hfd, readStream, hf, hread, Except.map, endRead]
  exact ⟨_, rfl⟩

/-- A read that the table allows and that does not lead to the standard input fills the buffer from a host
file. -/
lemma fills_of_file (b : m.state.table.Bound) (hreq : m.state.table.require fd .read = .ok ())
    (hfd : fd ≠ StdChannel.input.fd) (hlen : buffer.length ≤ 0x7FFFFFFF) :
    ∃ bytes filled, bytes.length ≤ buffer.length ∧
      (m.readFrom fd buffer).1 = ⟨.ok bytes.length, filled⟩ ∧
      m.Fills fd buffer bytes filled (m.readFrom fd buffer).2 := by
  obtain ⟨rfl, -⟩ | ⟨i, s, f, rfl, hs, -, hstream, ha⟩ := b.stream?_of_read hreq
  · exact absurd rfl hfd
  have reads {bytes : List UInt8} {g : OpenFile} (hle : bytes.length ≤ buffer.length)
      (hread : m.disk.read f buffer.length = .ok (bytes, g))
      (fills : ∀ n : Machine, n.state.table.stream? (Table.fdOf i) = some (.file g) → n.disk = m.disk →
        m.Fills (Table.fdOf i) buffer bytes (bytes ++ buffer.drop bytes.length) n) :
      ∃ bytes filled, bytes.length ≤ buffer.length ∧
        (m.readFrom (Table.fdOf i) buffer).1 = ⟨.ok bytes.length, filled⟩ ∧
        m.Fills (Table.fdOf i) buffer bytes filled (m.readFrom (Table.fdOf i) buffer).2 := by
    obtain ⟨es, hcall⟩ := readFrom_file hreq hfd hstream hread
    rw [hcall, countCode_eq (hle.trans hlen)]
    refine ⟨bytes, _, hle, rfl, fills _ ?_ rfl⟩
    simp [Table.bind_fdOf hs, Table.stream?_setSlot]
  cases hb : f.backing with
  | regular id =>
    refine reads (List.length_take_le _ _) ?_ fun n hafter hdisk => .file hstream hb rfl hafter hdisk
    simp only [Disk.read, ha, hb]
    rfl
  | null =>
    refine reads (Nat.zero_le _) ?_ fun n hafter hdisk => .device hstream (.inl ⟨hb, rfl⟩) hafter hdisk
    simp only [Disk.read, ha, hb]
    rfl
  | full =>
    refine reads List.length_replicate.le ?_ fun n hafter hdisk =>
      .device hstream (.inr ⟨hb, rfl⟩) hafter hdisk
    simp only [Disk.read, ha, hb]
    rfl

/-- What a read of the standard input gives is what was obtained. -/
lemma readFrom_of_transfer (b : m.state.table.Bound) {t : Transfer}
    (h : m.obtainBytes buffer.length = (.ok (.ok t), n)) (hlen : t.bytes.length ≤ 0x7FFFFFFF) :
    ∃ es, m.readFrom StdChannel.input.fd buffer = (⟨.ok t.bytes.length, t.into buffer⟩, n.log es) := by
  simp only [readFrom, b.require_read, if_true, h, endRead, countCode_eq hlen]
  exact ⟨_, rfl⟩

/-- A read in the run pane gives the first bytes of the answer and clears the rest of the buffer. -/
lemma readFrom_pane (b : m.state.table.Bound) {id : FrontEndId} {f : FrontEnd} {text : String}
    (ha : m.attached? = some (id, f)) (hi : f.interactive = true) (h : m.nextAnswer? id = some text)
    (hlen : buffer.length ≤ 0x7FFFFFFF) :
    let bytes := (Utf8.encode text).take buffer.length
    ∃ es, m.readFrom StdChannel.input.fd buffer =
      (⟨.ok bytes.length, bytes ++ List.replicate (buffer.length - bytes.length) 0⟩,
        (m.prompted id (.promptedBounded id (min buffer.length 0x7FFFFFFF))).log es) := by
  intro bytes
  have hs : m.byteSource = .pane id := by simp [byteSource, ha, hi]
  obtain ⟨es, hask⟩ := m.askPane_eq id (min buffer.length 0x7FFFFFFF)
  have hobt : m.obtainBytes buffer.length = (.ok (.ok ⟨bytes, true⟩),
      (m.prompted id (.promptedBounded id (min buffer.length 0x7FFFFFFF))).log es) := by
    simp only [obtainBytes, hs, hask, h, heard, bytes]
  obtain ⟨es', hread⟩ := readFrom_of_transfer b hobt ((List.length_take_le _ _).trans hlen)
  rw [log_log] at hread
  exact ⟨_, hread⟩

/-- A read of the standard input is cancelled, or fails, or fills the buffer from the one source that is in
force. -/
lemma fills_of_input (b : m.state.table.Bound) (hlen : buffer.length ≤ 0x7FFFFFFF) :
    let fd := StdChannel.input.fd
    (m.readFrom fd buffer).1 = ⟨.ok (-1), buffer⟩ ∨ (m.readFrom fd buffer).1 = ⟨.error .cancelled, buffer⟩ ∨
      ∃ bytes filled, bytes.length ≤ buffer.length ∧ (m.readFrom fd buffer).1 = ⟨.ok bytes.length, filled⟩ ∧
        m.Fills fd buffer bytes filled (m.readFrom fd buffer).2 := by
  intro fd
  have hshort (bytes : List UInt8) : (bytes.take buffer.length).length ≤ buffer.length :=
    List.length_take_le _ _
  cases ha : m.attached? with
  | none =>
    have hs : m.byteSource = .console := by simp [byteSource, ha]
    cases hr : m.state.channels.input.read buffer.length with
    | mk outcome j =>
      cases outcome with
      | error cause =>
        refine .inl ?_
        simp only [fd, readFrom, b.require_read, if_true, obtainBytes, hs, Console.Channels.read, hr,
          Except.map, endRead]
      | ok bytes =>
        have hle := Console.Input.length_of_read hr
        have hobt : m.obtainBytes buffer.length =
            (.ok (.ok { bytes }), m.setChannels { m.state.channels with input := j }) := by
          simp only [obtainBytes, hs, Console.Channels.read, hr, Except.map]
        obtain ⟨es, hread⟩ := readFrom_of_transfer b hobt (hle.trans hlen)
        refine .inr (.inr ⟨bytes, _, hle, congrArg Prod.fst hread, ?_⟩)
        rw [hread]
        refine .console rfl ha (Console.Input.unread_of_read hr) fun hnil => ?_
        exact Console.Input.read_eq_nil (hnil ▸ hr)
  | some p =>
    obtain ⟨id, f⟩ := p
    cases hi : f.interactive with
    | false =>
      have hs : m.byteSource = .field id := by simp [byteSource, ha, hi]
      have hobt : m.obtainBytes buffer.length = (.ok (.ok { bytes := (m.fieldBytes id).take buffer.length }),
          { m with fieldRest := some ((m.fieldBytes id).drop buffer.length) }) := by
        simp only [obtainBytes, hs, readField]
      obtain ⟨es, hread⟩ := readFrom_of_transfer b hobt ((hshort _).trans hlen)
      refine .inr (.inr ⟨_, _, hshort _, congrArg Prod.fst hread, ?_⟩)
      rw [hread]
      exact .field rfl ha hi rfl rfl
    | true =>
      cases hanswer : m.nextAnswer? id with
      | none =>
        have hs : m.byteSource = .pane id := by simp [byteSource, ha, hi]
        obtain ⟨es, hask⟩ := m.askPane_eq id (min buffer.length 0x7FFFFFFF)
        refine .inr (.inl ?_)
        simp only [fd, readFrom, b.require_read, if_true, obtainBytes, hs, hask, hanswer, heard]
      | some text =>
        obtain ⟨es, hread⟩ := readFrom_pane b ha hi hanswer hlen
        refine .inr (.inr ⟨_, _, hshort _, congrArg Prod.fst hread, ?_⟩)
        rw [hread]
        exact .pane rfl ha hi hanswer rfl rfl

/-- A read is cancelled or fails, with the buffer as it was, or it fills the buffer. -/
lemma readFrom_fills (b : m.state.table.Bound) (fd : Int) (hlen : buffer.length ≤ 0x7FFFFFFF) :
    (m.readFrom fd buffer).1 = ⟨.ok (-1), buffer⟩ ∨ (m.readFrom fd buffer).1 = ⟨.error .cancelled, buffer⟩ ∨
      ∃ bytes filled, bytes.length ≤ buffer.length ∧ (m.readFrom fd buffer).1 = ⟨.ok bytes.length, filled⟩ ∧
        m.Fills fd buffer bytes filled (m.readFrom fd buffer).2 := by
  cases hreq : m.state.table.require fd .read with
  | error fault =>
    refine .inl ?_
    simp only [readFrom, hreq]
  | ok =>
    by_cases hfd : fd = StdChannel.input.fd
    · subst hfd
      exact fills_of_input b hlen
    · exact .inr (.inr (fills_of_file b hreq hfd hlen))

/-! ## Answers that are too long -/

/-- The machine if a front end were about to give another answer. -/
def answering (m : Machine) (id : FrontEndId) (text : String) : Machine :=
  { m with fronts := m.fronts.modify id fun f => { f with answers := some text :: f.answers.tail } }

/-- A delivery does not depend on the answers that are to come. -/
lemma deliver_answering (m : Machine) (id : FrontEndId) (action : Action) (text : String) :
    (m.answering id text).deliver id action = (m.deliver id action).answering id text := by
  simp only [deliver, answering]
  split <;> split <;> rfl

/-- Once it was given, nothing is left of an answer. -/
lemma takeAnswer_answering {id : FrontEndId} {given : String} (h : m.nextAnswer? id = some given)
    (text : String) :
    (m.answering id text).takeAnswer id = (.ok text, (m.takeAnswer id).2) := by
  have hused (f : FrontEnd) :
      { f with answers := some text :: f.answers.tail }.answer.2 = f.answer.2 := by
    cases f with
    | mk attached interactive field answers => cases answers <;> rfl
  obtain ⟨f, hf, -⟩ := Option.bind_eq_some_iff.mp h
  have hnext : (m.answering id text).nextAnswer? id = some text := by
    simp [nextAnswer?, answering, hf, FrontEnd.answer]
  rw [takeAnswer_eq, takeAnswer_eq, hnext]
  simp only [heard, answering, List.modify_modify_eq, Function.comp_def, hused]

/-- Another answer in the run pane is heard in place of the one that was given, and nothing else differs. -/
lemma askPane_answering {id : FrontEndId} {given : String} (h : m.nextAnswer? id = some given)
    (text : String) (limit : Int) :
    (m.answering id text).askPane id limit = (.ok text, (m.askPane id limit).2) := by
  -- Showing what was held leaves the answers alone.
  have hshown : (m.deliver id (.flush true)).nextAnswer? id = some given := by
    obtain ⟨es, hdeliver⟩ := m.deliver_eq id (.flush true)
    rw [hdeliver]
    exact h
  let asked := ((m.deliver id (.flush true)).trace .channel s!"run pane prompt (max_len={limit})").record
    (.promptedBounded id limit)
  have htake := takeAnswer_answering (m := asked) hshown text
  simp only [askPane, deliver_answering]
  exact htake

/-- Whoever is attached stays attached. -/
lemma attached?_answering {id : FrontEndId} {f : FrontEnd} (h : m.attached? = some (id, f)) (text : String) :
    (m.answering id text).attached? = some (id, { f with answers := some text :: f.answers.tail }) := by
  obtain ⟨set, hset, hfound⟩ := Option.bind_eq_some_iff.mp h
  cases hf : m.fronts[set]? with
  | none => simp [hf] at hfound
  | some g =>
    by_cases hg : g.attached <;> simp only [hf, hg] at hfound <;> cases hfound
    simp [attached?, answering, hset, hf, hg]

/-- A read of an answer does not tell it from another one that begins with the same bytes, as far as they fit
into the buffer. -/
lemma readFrom_answering (b : m.state.table.Bound) {id : FrontEndId} {f : FrontEnd} {text other : String}
    (ha : m.attached? = some (id, f)) (hi : f.interactive = true) (h : m.nextAnswer? id = some text)
    (hother : (Utf8.encode other).take buffer.length = (Utf8.encode text).take buffer.length) :
    (m.answering id other).readFrom StdChannel.input.fd buffer = m.readFrom StdChannel.input.fd buffer := by
  have hs : m.byteSource = .pane id := by simp [byteSource, ha, hi]
  have hs' : (m.answering id other).byteSource = .pane id := by
    simp [byteSource, attached?_answering ha, hi]
  have hobt : (m.answering id other).obtainBytes buffer.length = m.obtainBytes buffer.length := by
    obtain ⟨es, hask⟩ := m.askPane_eq id (min buffer.length 0x7FFFFFFF)
    simp only [obtainBytes, hs, hs', askPane_answering h, hask, h, heard, hother]
  have hreq : (m.answering id other).state.table.require StdChannel.input.fd .read = .ok () :=
    b.require_read
  simp only [readFrom, hreq, b.require_read, if_true, hobt]

end Machine

end Hostcall

import Hostcall.Proofs.Log.Lines
import Hostcall.Proofs.Table.Binding
import Hostcall.World

/-!
# What calls touch

A machine is looked at by its parts. For every operation there is a list of the parts that it touches at most
(`Touches`), so that all others are as they were. What is observed of a machine elsewhere is made up of parts,
and is left alone by whatever touches none of them.
-/

namespace Hostcall

open Pane

/-- The parts of a machine. -/
inductive Part where
  | disk
  | settings
  | table
  /-- The reader of the standard input. -/
  | input
  /-- The standard outputs, and where the channels lie. -/
  | outlets
  /-- The front end that is set. -/
  | front
  /-- What each front end says about being attached. -/
  | attached
  | fronts
  | fieldRest
  | coalescer
  | history
  | clock
  | lastError
  | traces
  /-- The lines about file calls. -/
  | lines
  deriving Repr, DecidableEq

namespace Part

/-- What a part consists of. -/
def Content : Part → Type
  | disk => Disk
  | settings => Settings
  | table => Table
  | input => Console.Input
  | outlets => Console.Origin × Console.Outlet × Console.Outlet
  | front => Option FrontEndId
  | attached => List Bool
  | fronts => List FrontEnd
  | fieldRest => Option (List UInt8)
  | coalescer => Coalescer
  | history => List Event
  | clock => Time
  | lastError => String
  | traces => TraceSet
  | lines => List LogEntry

/-- What is shown to front ends and held back for them. -/
def shown : List Part := [coalescer, history]

/-- What a request for input uses up, whichever source it goes to, and what it shows. -/
def asked : List Part := input :: fronts :: fieldRest :: shown

/-- What ending a session touches. -/
def session : List Part := fieldRest :: shown

/-- What the end of a file call touches. -/
def told : List Part := [lastError, lines]

end Part

namespace Console.Channels

/-- An outlet that is put in its place does not touch the input. -/
@[simp] lemma input_setOutlet (c : Channels) (channel : StdChannel) (o : Outlet) :
    (c.setOutlet channel o).input = c.input := by
  cases channel <;> rfl

/-- Writing does not touch the input. -/
@[simp] lemma input_write (c : Channels) (channel : StdChannel) (bytes : List UInt8) :
    (c.write channel bytes).2.input = c.input := by
  simp only [write]
  split
  · rfl
  · simp

end Console.Channels

namespace Machine

/-- The content of a part. -/
def part (m : Machine) : (p : Part) → p.Content
  | .disk => m.disk
  | .settings => m.settings
  | .table => m.state.table
  | .input => m.state.channels.input
  | .outlets => (m.state.channels.origin, m.state.channels.output, m.state.channels.error)
  | .front => m.front
  | .attached => m.fronts.map (·.attached)
  | .fronts => m.fronts
  | .fieldRest => m.fieldRest
  | .coalescer => m.coalescer
  | .history => m.history
  | .clock => m.clock
  | .lastError => m.lastError
  | .traces => m.traces
  | .lines => m.journal.filter (·.isAbout .syscall)

/-- From one machine to the other nothing changes but the parts of a list. -/
def Touches (parts : List Part) (m n : Machine) : Prop :=
  ∀ p, parts.contains p = false → n.part p = m.part p

variable {l m n : Machine} {a b : List Part}

namespace Touches

/-- Nothing changes where nothing is done. -/
lemma refl (m : Machine) (a : List Part) : m.Touches a m :=
  fun _ _ => rfl

/-- What touches no more than some parts touches no more than others that they are among. -/
lemma mono (h : m.Touches a n) (hab : a.all b.contains = true) : m.Touches b n := by
  intro p hp
  cases ha : a.contains p with
  | false => exact h p ha
  | true =>
    rw [List.all_eq_true.mp hab p (by simpa using ha)] at hp
    cases hp

/-- One change after the other touches the parts of both. -/
lemma append (h : l.Touches a m) (g : m.Touches b n) : l.Touches (a ++ b) n := by
  intro p hp
  have hp : p ∉ a ∧ p ∉ b := by simpa using hp
  exact (g p (by simpa using hp.2)).trans (h p (by simpa using hp.1))

/-- The files of the host are one part. -/
lemma disk (h : m.Touches a n) (hp : a.contains .disk = false) : n.disk = m.disk :=
  h .disk hp

/-- The table of the active state is one part. -/
lemma table (h : m.Touches a n) (hp : a.contains .table = false) :
    n.state.table = m.state.table :=
  h .table hp

/-- The reader of the standard input is one part. -/
lemma input (h : m.Touches a n) (hp : a.contains .input = false) :
    n.state.channels.input = m.state.channels.input :=
  h .input hp

/-- Parts that are not touched are as they were. -/
lemma parts {ps : List Part} (h : m.Touches a n) (hp : ps.any a.contains = false) :
    ∀ p ∈ ps, n.part p = m.part p :=
  fun p hmem => h p (by simpa using List.any_eq_false.mp hp p hmem)

/-- A state is made up of its table, its reader and its outlets. -/
lemma state (h : m.Touches a n) (hp : [.table, .input, .outlets].any a.contains = false) :
    n.state = m.state := by
  have hparts := h.parts hp
  have htable : n.state.table = m.state.table := hparts .table (by decide)
  have hchannels : n.state.channels = m.state.channels := by
    have hinput : n.state.channels.input = m.state.channels.input := hparts .input (by decide)
    obtain ⟨horigin, hsinks⟩ := Prod.mk.inj (hparts .outlets (by decide))
    obtain ⟨houtput, herror⟩ := Prod.mk.inj hsinks
    exact Console.Channels.ext horigin hinput houtput herror
  exact IoState.ext htable hchannels

/-- The text of the last error is one part. -/
lemma lastError (h : m.Touches a n) (hp : a.contains .lastError = false) :
    n.lastError = m.lastError :=
  h .lastError hp

end Touches

/-! ## Single changes

A field that is set is the part that it belongs to, and no other part is touched. -/

@[simp] lemma log_state (m : Machine) (es : List LogEntry) : (m.log es).state = m.state := rfl

@[simp] lemma log_disk (m : Machine) (es : List LogEntry) : (m.log es).disk = m.disk := rfl

@[simp] lemma log_settings (m : Machine) (es : List LogEntry) : (m.log es).settings = m.settings := rfl

@[simp] lemma trace_state (m : Machine) (kind : TraceKind) (message : String) :
    (m.trace kind message).state = m.state := rfl

@[simp] lemma setTable_table (m : Machine) (t : Table) : (m.setTable t).state.table = t := rfl

lemma touches_setTable (m : Machine) (t : Table) : m.Touches [.table] (m.setTable t) := by
  rintro ⟨⟩ hp <;> first | rfl | cases hp

/-- Reading from the channels touches their reader. -/
lemma touches_setInput (m : Machine) (input : Console.Input) :
    m.Touches [.input] (m.setChannels { m.state.channels with input }) := by
  rintro ⟨⟩ hp <;> first | rfl | cases hp

/-- Channels with the same reader touch the outlets. -/
lemma touches_setOutlets {c : Console.Channels} (h : c.input = m.state.channels.input) :
    m.Touches [.outlets] (m.setChannels c) := by
  rintro ⟨⟩ hp <;> first | rfl | exact h | cases hp

lemma touches_record (m : Machine) (e : Event) : m.Touches [.history] (m.record e) := by
  rintro ⟨⟩ hp <;> first | rfl | cases hp

lemma touches_coalescer (m : Machine) (coalescer : Coalescer) :
    m.Touches [.coalescer] { m with coalescer } := by
  rintro ⟨⟩ hp <;> first | rfl | cases hp

lemma touches_fieldRest (m : Machine) (fieldRest : Option (List UInt8)) :
    m.Touches [.fieldRest] { m with fieldRest } := by
  rintro ⟨⟩ hp <;> first | rfl | cases hp

lemma touches_lastError (m : Machine) (lastError : String) : m.Touches [.lastError] { m with lastError } := by
  rintro ⟨⟩ hp <;> first | rfl | cases hp

lemma touches_disk (m : Machine) (disk : Disk) : m.Touches [.disk] { m with disk } := by
  rintro ⟨⟩ hp <;> first | rfl | cases hp

lemma touches_front (m : Machine) (front : Option FrontEndId) : m.Touches [.front] { m with front } := by
  rintro ⟨⟩ hp <;> first | rfl | cases hp

/-- Other front ends may also say something else about being attached. -/
lemma touches_fronts (m : Machine) (fronts : List FrontEnd) :
    m.Touches [.attached, .fronts] { m with fronts } := by
  rintro ⟨⟩ hp <;> first | rfl | cases hp

/-- Entries that are not about file calls touch nothing that is observed. -/
lemma touches_log (m : Machine) {es : List LogEntry} (h : Quiet es) : m.Touches [] (m.log es) := by
  have hlines : (m.journal ++ es).filter (·.isAbout .syscall) = m.journal.filter (·.isAbout .syscall) := by
    have hnone : es.filter (·.isAbout .syscall) = [] := by simpa [Quiet] using h
    rw [List.filter_append, hnone, List.append_nil]
  rintro ⟨⟩ - <;> first | rfl | exact hlines

/-- A trace may be about a file call. -/
lemma touches_trace (m : Machine) (kind : TraceKind) (message : String) :
    m.Touches [.lines] (m.trace kind message) := by
  rintro ⟨⟩ hp <;> first | rfl | cases hp

/-- Traces of other kinds are not about file calls. -/
lemma touches_aside (m : Machine) (kind : TraceKind) (h : kind ≠ .syscall) (message : String) :
    m.Touches [] (m.trace kind message) :=
  m.touches_log (.entries m.traces h message)

/-- A fault is noted in the last error; what is logged of it is not the line about the call. -/
lemma touches_fail (m : Machine) (fault : Fault) : m.Touches [.lastError] (m.fail fault) :=
  (m.touches_log (.single (by simp [toString]))).append (touches_lastError _ _)

/-! ## Front ends -/

/-- A delivery touches what is shown and held. -/
lemma touches_deliver (m : Machine) (id : FrontEndId) (action : Action) :
    m.Touches Part.shown (m.deliver id action) := by
  have hnote (n : Machine) (message : String) : n.Touches [] (n.trace .coalesce message) :=
    n.touches_aside .coalesce (by decide) message
  have hrun := m.touches_coalescer (m.coalescer.apply m.clock action).2
  simp only [deliver]
  split <;> split
  · exact hrun.mono rfl
  · exact (hrun.append (hnote _ _)).mono rfl
  · exact (hrun.append (touches_record _ _)).mono rfl
  · exact ((hrun.append (hnote _ _)).append (touches_record _ _)).mono rfl

/-- Taking an answer shortens a queue and attaches nobody. -/
lemma touches_takeAnswer (m : Machine) (id : FrontEndId) : m.Touches [.fronts] (m.takeAnswer id).2 := by
  have hattached (f : FrontEnd) : f.answer.2.attached = f.attached := by
    unfold FrontEnd.answer
    split <;> rfl
  simp only [takeAnswer]
  split
  · exact .refl m _
  · next f hf =>
    obtain ⟨hid, rfl⟩ := List.getElem?_eq_some_iff.mp hf
    have hset : (m.fronts.set id m.fronts[id].answer.2).map (·.attached) = m.fronts.map (·.attached) := by
      have hi : id < (m.fronts.map (·.attached)).length := by simpa using hid
      rw [List.map_set, hattached]
      simpa using List.set_getElem_self hi
    split <;> rintro ⟨⟩ hp <;> first | rfl | exact hset | cases hp

/-- A modal prompt shows what is held, asks and takes an answer. -/
lemma touches_askPopup (m : Machine) (id : FrontEndId) (prompt : String) :
    m.Touches (.fronts :: Part.shown) (m.askPopup id prompt).2 := by
  have hshown := (m.touches_deliver id (.flush true)).append
    ((touches_aside _ .channel (by decide) s!"popup prompt {Text.quote prompt}").append
      (touches_record _ (.promptedLine id prompt)))
  exact (hshown.append (touches_takeAnswer _ id)).mono rfl

/-- A request in the run pane does the same. -/
lemma touches_askPane (m : Machine) (id : FrontEndId) (limit : Int) :
    m.Touches (.fronts :: Part.shown) (m.askPane id limit).2 := by
  have hshown := (m.touches_deliver id (.flush true)).append
    ((touches_aside _ .channel (by decide) s!"run pane prompt (max_len={limit})").append
      (touches_record _ (.promptedBounded id limit)))
  exact (hshown.append (touches_takeAnswer _ id)).mono rfl

/-- Letting held output go touches what is shown and held. -/
lemma touches_flush (m : Machine) (force : Bool) : m.Touches Part.shown (m.flush force) := by
  simp only [flush]
  split
  · exact .refl m _
  · exact m.touches_deliver _ _

/-- The end of a session forgets the static field and what is held. -/
lemma touches_endSession (m : Machine) : m.Touches Part.session m.endSession := by
  let n := m.flush true
  have hforgotten := (n.touches_coalescer n.coalescer.clear).append (touches_fieldRest _ none)
  exact ((m.touches_flush true).append hforgotten).mono rfl

/-- A front end that is attached starts a new session. -/
lemma touches_attach (m : Machine) (front : Option FrontEndId) :
    m.Touches (.front :: Part.session) (m.attach front) :=
  (m.touches_endSession.append (touches_front _ front)).mono rfl

/-- A reset starts the table and the outlets anew, and then ends the session. -/
lemma resetFiles_eq_endSession (m : Machine) :
    ∃ n, m.Touches [.table, .outlets] n ∧ m.resetFiles = n.endSession := by
  let n := (m.log m.state.table.resetEntries).setTable m.state.table.reset
  have htable : m.Touches [.table] n := (m.touches_log (.resetEntries _)).append (touches_setTable _ _)
  have houtlets : n.Touches [.outlets] ((n.log n.state.channels.reset.1).setChannels n.state.channels.reset.2) :=
    (n.touches_log (.reset _)).append (touches_setOutlets rfl)
  exact ⟨_, htable.append houtlets, rfl⟩

/-- A reset touches the table, the outlets and what belongs to the session. -/
lemma touches_resetFiles (m : Machine) : m.Touches (.table :: .outlets :: Part.session) m.resetFiles := by
  obtain ⟨n, hn, hreset⟩ := m.resetFiles_eq_endSession
  rw [hreset]
  exact (hn.append n.touches_endSession).mono rfl

/-! ## Input -/

/-- Bytes of the static field touch what is left of it. -/
lemma touches_readField (m : Machine) (id : FrontEndId) (count : Nat) :
    m.Touches [.fieldRest] (m.readField id count).2 :=
  m.touches_fieldRest _

/-- A line of the static field touches what is left of it. -/
lemma touches_readFieldLine (m : Machine) (id : FrontEndId) :
    m.Touches [.fieldRest] (m.readFieldLine id).2 :=
  m.touches_fieldRest _

/-- A line from the console touches its reader; that the console failed is logged, but not as a file call. -/
lemma touches_readConsoleLine (m : Machine) (standIn : String) :
    m.Touches [.input] (m.readConsoleLine standIn).2 := by
  simp only [readConsoleLine]
  split
  · exact m.touches_setInput _
  · exact (m.touches_setInput _).append (touches_log _ (.single (by simp [toString])))

/-- A byte from the console touches its reader. -/
lemma touches_readConsoleByte (m : Machine) : m.Touches [.input] m.readConsoleByte.2 := by
  simp only [readConsoleByte]
  split
  · exact m.touches_setInput _
  · exact (m.touches_setInput _).append (touches_log _ (.single (by simp [toString])))

/-- A line is obtained from one of the sources. -/
lemma touches_obtainLine (m : Machine) (standIn prompt : String) (limit : Int) :
    m.Touches Part.asked (m.obtainLine standIn prompt limit).2 := by
  simp only [obtainLine]
  split
  · exact (m.touches_readConsoleLine standIn).mono rfl
  · exact (m.touches_askPopup _ prompt).mono rfl
  · exact (m.touches_askPane _ limit).mono rfl
  · exact (m.touches_readFieldLine _).mono rfl

/-- A byte is obtained from one of the sources. -/
lemma touches_obtainByte (m : Machine) (prompt : String) :
    m.Touches Part.asked (m.obtainByte prompt).2 := by
  simp only [obtainByte]
  split
  · exact m.touches_readConsoleByte.mono rfl
  · exact (m.touches_askPopup _ prompt).mono rfl
  · exact (m.touches_askPane _ 1).mono rfl
  · exact (m.touches_readField _ 1).mono rfl

/-- Bytes are obtained from one of the sources. -/
lemma touches_obtainBytes (m : Machine) (count : Nat) : m.Touches Part.asked (m.obtainBytes count).2 := by
  simp only [obtainBytes]
  split
  · next id _ =>
    have hask := m.touches_askPane id (min count 0x7FFFFFFF)
    split <;> next h => exact (h ▸ hask : m.Touches _ _).mono rfl
  · exact (m.touches_readField _ count).mono rfl
  · exact (m.touches_setInput _).mono rfl

/-- Reading a character touches what its byte is read from. -/
lemma touches_readChar (m : Machine) (service : Nat) : m.Touches Part.asked (m.readChar service).2 :=
  m.touches_obtainByte _

/-- Reading a string touches what its line is read from. -/
lemma touches_readString (m : Machine) (service : Nat) (limit : Int) :
    m.Touches Part.asked (m.readString service limit).2 :=
  m.touches_obtainLine _ _ _

/-- Reading a value touches what its line is read from, whether or not the line is one. -/
lemma touches_readValue {α ε : Type} (m : Machine) (what : String) (service : Nat)
    (parse : String → Except ε α) (message : ε → String) :
    m.Touches Part.asked (m.readValue what service parse message).2 := by
  have hline := m.touches_obtainLine "0" s!"Enter {what} (syscall {service})" (-1)
  simp only [readValue]
  split
  · exact hline
  · split <;> exact hline

/-! ## Output -/

/-- Writing to the channels touches their outlets. -/
lemma touches_writeChannels (m : Machine) (channel : StdChannel) (bytes : List UInt8) :
    m.Touches [.outlets] (m.setChannels (m.state.channels.write channel bytes).2) :=
  touches_setOutlets (Console.Channels.input_write _ channel bytes)

/-- A write to a standard output reaches its outlet or is shown. -/
lemma touches_writeStandard (m : Machine) (channel : StdChannel) (bytes : List UInt8) :
    m.Touches (.outlets :: Part.shown) (m.writeStandard channel bytes).2 := by
  simp only [writeStandard]
  split
  · exact (m.touches_deliver _ _).mono rfl
  · exact (m.touches_writeChannels channel bytes).mono rfl

/-- Printing reaches the outlet of the standard output or is shown. -/
lemma touches_print (m : Machine) (text : String) : m.Touches (.outlets :: Part.shown) (m.print text) := by
  simp only [print]
  split
  · exact (m.touches_deliver _ _).mono rfl
  · split
    · exact (m.touches_writeChannels .output _).mono rfl
    · exact ((m.touches_writeChannels .output _).append (touches_log _ (.single (by simp [toString])))).mono rfl

/-! ## File calls -/

/-- Opening a host file touches the table and the host's files, until the call ends. -/
lemma touches_tryOpen (m : Machine) (name : String) (flags : OpenFlags) :
    m.Touches [.disk, .table] (m.tryOpen name flags).2 := by
  have hreserved := m.touches_log (.reserveEntries name flags (m.state.table.reserve name flags))
  simp only [tryOpen]
  split
  · exact hreserved.mono rfl
  · next fd t _ =>
    split
    · exact (hreserved.append ((touches_disk _ _).append (touches_setTable _ _))).mono rfl
    · exact (hreserved.append ((touches_log _ (.closeEntries t fd)).append (touches_setTable _ _))).mono rfl

/-- Opening a file touches the host's files and the table, and is told. -/
lemma touches_openFile (m : Machine) (name : String) (flags : OpenFlags) :
    m.Touches (.disk :: .table :: Part.told) (m.openFile name flags).2 := by
  have htry := m.touches_tryOpen name flags
  simp only [openFile]
  split
  · next h =>
    rw [h] at htry
    exact (htry.append ((touches_lastError _ _).append (touches_trace _ _ _))).mono rfl
  · next h =>
    rw [h] at htry
    exact (htry.append ((touches_fail _ _).append (touches_trace _ _ _))).mono rfl

/-- A read through a stream touches the reader of the console, or the descriptor of a host file. -/
lemma touches_readStream {fd : Int} {count : Nat} {outcome : Except HostError (List UInt8)}
    (h : m.readStream fd count = some (outcome, n)) :
    (∃ channel, m.state.table.stream? fd = some (.standard channel)) ∧ m.Touches [.input] n ∨
      (∃ f, m.state.table.stream? fd = some (.file f)) ∧ m.Touches [.table] n := by
  simp only [readStream] at h
  split at h
  · cases h
  · next hs =>
    cases h
    exact .inl ⟨⟨_, hs⟩, m.touches_setInput _⟩
  · next hs =>
    cases h
    exact .inl ⟨⟨_, hs⟩, .refl m _⟩
  · next f hs =>
    refine .inr ⟨⟨f, hs⟩, ?_⟩
    split at h
    · cases h
      exact .refl m _
    · cases h
      exact m.touches_setTable _

/-- A write through a stream touches the outlets, or the descriptor of a host file and the file. -/
lemma touches_writeStream {fd : Int} {bytes : List UInt8} {outcome : Except HostError Unit}
    (h : m.writeStream fd bytes = some (outcome, n)) :
    (∃ channel, m.state.table.stream? fd = some (.standard channel)) ∧ m.Touches [.outlets] n ∨
      (∃ f, m.state.table.stream? fd = some (.file f)) ∧ m.Touches [.disk, .table] n := by
  simp only [writeStream] at h
  split at h
  · cases h
  · next hs =>
    cases h
    exact .inl ⟨⟨_, hs⟩, m.touches_writeChannels _ bytes⟩
  · next f hs =>
    refine .inr ⟨⟨f, hs⟩, ?_⟩
    split at h
    · cases h
      exact .refl m _
    · cases h
      exact (m.touches_disk _).append (touches_setTable _ _)

/-- The end of a read tells its result. -/
lemma touches_endRead (m : Machine) (fd : Int) (buffer : List UInt8) (outcome : Except HostError Transfer) :
    m.Touches Part.told (m.endRead fd buffer outcome).2 := by
  cases outcome with
  | ok => exact (m.touches_trace _ _).mono rfl
  | error => exact (m.touches_fail _).append (touches_trace _ _ _)

/-- The end of a write tells its result. -/
lemma touches_endWrite (m : Machine) (fd : Int) (bytes : List UInt8) (outcome : Except HostError Unit) :
    m.Touches Part.told (m.endWrite fd bytes outcome).2 := by
  cases outcome with
  | ok => exact (m.touches_trace _ _).mono rfl
  | error => exact (m.touches_fail _).append (touches_trace _ _ _)

/-- A read of anything but the standard input touches its descriptor, or the reader of the console where a
standard channel is behind it. -/
lemma touches_readFrom_of_ne {fd : Int} (h : fd ≠ StdChannel.input.fd) (buffer : List UInt8) :
    (∃ channel, m.state.table.stream? fd = some (.standard channel)) ∧
        m.Touches (.input :: Part.told) (m.readFrom fd buffer).2 ∨
      m.Touches (.table :: Part.told) (m.readFrom fd buffer).2 := by
  simp only [readFrom, if_neg h]
  split
  · exact .inr ((m.touches_fail _).mono rfl)
  · split
    · exact .inr ((m.touches_fail _).mono rfl)
    · next hr =>
      obtain ⟨hs, hn⟩ | ⟨-, hn⟩ := touches_readStream hr
      · exact .inl ⟨hs, hn.append (touches_endRead _ _ _ _)⟩
      · exact .inr (hn.append (touches_endRead _ _ _ _))

/-- In a bound machine only the first descriptor leads to the standard input. -/
lemma touches_readFrom_file (b : m.state.table.Bound) {fd : Int} (h : fd ≠ StdChannel.input.fd)
    (buffer : List UInt8) : m.Touches (.table :: Part.told) (m.readFrom fd buffer).2 := by
  cases hreq : m.state.table.require fd .read with
  | error fault =>
    simp only [readFrom, hreq]
    exact (m.touches_fail fault).mono rfl
  | ok =>
    obtain ⟨⟨channel, hs⟩, -⟩ | hn := m.touches_readFrom_of_ne h buffer
    · obtain ⟨he, -⟩ | ⟨i, s, f, -, -, -, hf, -⟩ := b.stream?_of_read hreq
      · exact absurd he h
      · rw [hs] at hf
        cases hf
    · exact hn

/-- Whatever is read from, nothing is touched but descriptors, sources of input, and what is shown and told. -/
lemma touches_readFrom (m : Machine) (fd : Int) (buffer : List UInt8) :
    m.Touches (.table :: Part.asked ++ Part.told) (m.readFrom fd buffer).2 := by
  by_cases hfd : fd = StdChannel.input.fd
  · have hobtain := m.touches_obtainBytes buffer.length
    simp only [readFrom, if_pos hfd]
    split
    · exact (m.touches_fail _).mono rfl
    · split <;> next h =>
        rw [h] at hobtain
        first | exact hobtain.mono rfl | exact (hobtain.append (touches_endRead _ _ _ _)).mono rfl
  · obtain ⟨-, hn⟩ | hn := m.touches_readFrom_of_ne hfd buffer
    · exact hn.mono rfl
    · exact hn.mono rfl

/-- A write to anything but the outputs touches its descriptor and the file behind it, or the outlets where a
standard channel is behind it. -/
lemma touches_writeTo_of_ne {fd : Int} (hout : fd ≠ StdChannel.output.fd) (herr : fd ≠ StdChannel.error.fd)
    (bytes : List UInt8) :
    (∃ channel, m.state.table.stream? fd = some (.standard channel)) ∧
        m.Touches (.outlets :: Part.told) (m.writeTo fd bytes).2 ∨
      m.Touches (.disk :: .table :: Part.told) (m.writeTo fd bytes).2 := by
  simp only [writeTo, if_neg hout, if_neg herr]
  split
  · exact .inr ((m.touches_fail _).mono rfl)
  · split
    · exact .inr ((m.touches_fail _).mono rfl)
    · next hw =>
      obtain ⟨hs, hn⟩ | ⟨-, hn⟩ := touches_writeStream hw
      · exact .inl ⟨hs, hn.append (touches_endWrite _ _ _ _)⟩
      · exact .inr (hn.append (touches_endWrite _ _ _ _))

/-- In a bound machine only the outputs' own descriptors lead to their outlets. -/
lemma touches_writeTo_file (b : m.state.table.Bound) {fd : Int} (hout : fd ≠ StdChannel.output.fd)
    (herr : fd ≠ StdChannel.error.fd) (bytes : List UInt8) :
    m.Touches (.disk :: .table :: Part.told) (m.writeTo fd bytes).2 := by
  cases hreq : m.state.table.require fd .write with
  | error fault =>
    simp only [writeTo, hreq]
    exact (m.touches_fail fault).mono rfl
  | ok =>
    obtain ⟨⟨channel, hs⟩, -⟩ | hn := m.touches_writeTo_of_ne hout herr bytes
    · obtain ⟨f, hf, -⟩ := b.file_of_write hreq hout herr
      rw [hs] at hf
      cases hf
    · exact hn

/-- Whatever is written to, nothing is touched but files, descriptors, the outlets, and what is shown and
told. -/
lemma touches_writeTo (m : Machine) (fd : Int) (bytes : List UInt8) :
    m.Touches (.disk :: .table :: .outlets :: Part.shown ++ Part.told) (m.writeTo fd bytes).2 := by
  by_cases hfd : fd = StdChannel.output.fd ∨ fd = StdChannel.error.fd
  · have hstandard (channel : StdChannel) :=
      (m.touches_writeStandard channel bytes).append (touches_endWrite _ fd bytes (m.writeStandard channel bytes).1)
    simp only [writeTo]
    split
    · exact (m.touches_fail _).mono rfl
    · split
      · exact (hstandard .output).mono rfl
      · next hout =>
        rw [if_pos (hfd.resolve_left hout)]
        exact (hstandard .error).mono rfl
  · obtain ⟨hout, herr⟩ := not_or.mp hfd
    obtain ⟨-, hn⟩ | hn := m.touches_writeTo_of_ne hout herr bytes
    · exact hn.mono rfl
    · exact hn.mono rfl

/-- A seek touches its descriptor, until the call ends. -/
lemma touches_trySeek {fd offset whence position : Int} (h : m.trySeek fd offset whence = .ok (position, n)) :
    m.Touches [.table] n := by
  simp only [trySeek] at h
  repeat' split at h
  all_goals cases h
  all_goals exact m.touches_setTable _

/-- A seek touches its descriptor, and is told. -/
lemma touches_seek (m : Machine) (fd offset whence : Int) :
    m.Touches (.table :: Part.told) (m.seek fd offset whence).2 := by
  simp only [seek]
  split
  · next h => exact ((touches_trySeek h).append (touches_trace _ _ _)).mono rfl
  · exact ((m.touches_fail _).append (touches_trace _ _ _)).mono rfl

/-- Releasing a descriptor touches the table, and is told. -/
lemma touches_closeFile (m : Machine) (fd : Int) : m.Touches [.table, .lines] (m.closeFile fd) := by
  have htraced := m.touches_trace .syscall s!"close({fd})"
  have hreleased := touches_log (m.trace .syscall s!"close({fd})") (.closeEntries m.state.table fd)
  exact (htraced.append (hreleased.append (touches_setTable _ _))).mono rfl

/-- Exchanging the state touches what a state holds. -/
lemma touches_swap (m : Machine) (state : IoState) :
    m.Touches [.table, .input, .outlets] (m.swap state).2 := by
  have hstate (n : Machine) : n.Touches [.table, .input, .outlets] { n with state } := by
    rintro ⟨⟩ hp <;> first | rfl | cases hp
  have hquiet : Quiet [⟨.debug, .system,
      s!"swapping I/O state ({state.table.openCount} descriptors open)"⟩] := .single (by simp [toString])
  exact (m.touches_log hquiet).append (hstate _)

end Machine

/-- The parts of the machine that a call touches at most. -/
def Call.touched : Call → List Part
  | .openFile .. => .disk :: .table :: Part.told
  | .readFrom .. => .table :: Part.asked ++ Part.told
  | .writeTo .. => .disk :: .table :: .outlets :: Part.shown ++ Part.told
  | .seek .. => .table :: Part.told
  | .closeFile _ => [.table, .lines]
  | .print _ => .outlets :: Part.shown
  | .readChar _ | .readString .. | .readInteger _ | .readLong _ | .readSingle _ | .readDouble _ => Part.asked
  | .flush _ | .flushThrough .. => Part.shown
  | .resetFiles => .table :: .outlets :: Part.session
  | .attachNew _ => .attached :: .fronts :: .front :: Part.session
  | .attach _ => .front :: Part.session
  | .adjustFront .. => [.attached, .fronts]
  | .takeHandle | .parkNew _ => []
  | .swap _ => [.table, .input, .outlets]
  | .setSettings _ => [.settings]

namespace World

/-- A call touches no other parts of the machine. -/
lemma touches_call (w : World) (c : Call) : w.machine.Touches c.touched (w.call c).2.machine := by
  cases c with
  | openFile name flags => exact w.machine.touches_openFile name flags
  | readFrom fd buffer => exact w.machine.touches_readFrom fd buffer
  | writeTo fd bytes => exact w.machine.touches_writeTo fd bytes
  | seek fd offset whence => exact w.machine.touches_seek fd offset whence
  | closeFile fd => exact w.machine.touches_closeFile fd
  | print text => exact w.machine.touches_print text
  | readChar service => exact w.machine.touches_readChar service
  | readString service limit => exact w.machine.touches_readString service limit
  | readInteger service | readLong service | readSingle service | readDouble service =>
    exact w.machine.touches_readValue _ service _ _
  | flush force => exact w.machine.touches_flush force
  | resetFiles => exact w.machine.touches_resetFiles
  | attachNew front => exact (w.machine.touches_fronts _).append (Machine.touches_attach _ _)
  | attach front => exact w.machine.touches_attach front
  | adjustFront => exact w.machine.touches_fronts _
  | takeHandle | parkNew => exact .refl _ _
  | flushThrough handle force =>
    simp only [call]
    split
    · exact .refl _ _
    · exact w.machine.touches_deliver _ _
  | swap id =>
    simp only [call, swap]
    split
    · exact .refl _ _
    · exact w.machine.touches_swap _
  | setSettings settings => rintro ⟨⟩ hp <;> first | rfl | cases hp

end World

end Hostcall

import Hostcall.Proofs.Machine.Sources
import Hostcall.Proofs.Machine.Twins
import Hostcall.Proofs.World.Runs

/-!
# Why file calls fail

`Machine.Fails` lists what can make a file call fail, with the fault. A call that fails gives `-1` and leaves
the message of its fault; one that does not gives no negative number, and of the calls that do not fail only
those that open a file say so in the text of the last error (`Verdict`).
-/

namespace Hostcall

open Pane

/-- Whether a call opens a file. -/
def Call.opens : Call → Bool
  | .openFile .. => true
  | _ => false

/-- Where a seek counts from. -/
def OpenFile.base (f : OpenFile) (disk : Disk) : Whence → Int
  | .start => 0
  | .current => f.position
  | .finish => disk.size f

namespace Machine

/-- What makes a file call fail. The descriptor is looked at first; a host file that is open for reading can
be read, so that a read fails only on the console. -/
inductive Fails (m : Machine) : Call → Fault → Prop where
  | refused {name flags fault} :
    m.Refusal name flags fault →
    Fails m (.openFile name flags) fault
  | notOpen {c fd need} :
    c.descriptor? = some fd →
    c.need? = some need →
    m.state.table.isOpenFor fd need = false →
    Fails m c (.notOpen fd need)
  | console {buffer cause} :
    m.attached? = none →
    (m.state.channels.read buffer.length).1 = .error cause →
    Fails m (.readFrom StdChannel.input.fd buffer) (.hostFailed .read StdChannel.input.fd cause)
  | outlet {channel bytes cause} :
    channel ≠ .input →
    m.attached? = none →
    (m.state.channels.write channel bytes).1 = .error cause →
    Fails m (.writeTo channel.fd bytes) (.hostFailed .write channel.fd cause)
  | file {fd bytes f cause} :
    m.state.table.isOpenFor fd .write = true →
    m.state.table.stream? fd = some (.file f) →
    m.disk.write f bytes = .error cause →
    Fails m (.writeTo fd bytes) (.hostFailed .write fd cause)
  | seekBase {fd offset whence} :
    m.state.table.isOpenFor fd .read = true →
    Whence.ofGuest? whence = none →
    Fails m (.seek fd offset whence) (.seekBase fd whence)
  | notSeekable {fd offset whence w channel} :
    m.state.table.isOpenFor fd .read = true →
    Whence.ofGuest? whence = some w →
    m.state.table.stream? fd = some (.standard channel) →
    Fails m (.seek fd offset whence) (.notSeekable fd)
  | seekTarget {fd offset whence w f} :
    m.state.table.isOpenFor fd .read = true →
    Whence.ofGuest? whence = some w →
    m.state.table.stream? fd = some (.file f) →
    ¬(0 ≤ f.base m.disk w + offset ∧ f.base m.disk w + offset ≤ greatestPosition) →
    Fails m (.seek fd offset whence) (.seekTarget fd (f.base m.disk w + offset))

/-- How a call comes out: the number that it gives, if it gives one, and the text of the last error. -/
inductive Verdict (m : Machine) (c : Call) : Option Int → String → Prop where
  | failed {fault} :
    m.Fails c fault →
    Verdict m c (some (-1)) fault.message
  | opened {fd} :
    c.opens = true →
    0 ≤ fd →
    Verdict m c (some fd) noError
  | fine {code} :
    c.opens = false →
    (∀ i ∈ code, 0 ≤ i) →
    Verdict m c code m.lastError

variable {m n : Machine} {fd : Int}

/-- A call that opens no file and gives a number that is not negative is fine. -/
lemma Verdict.of_nonneg {c : Call} {k : Int} (hc : c.opens = false) (hk : 0 ≤ k) :
    m.Verdict c (some k) m.lastError := by
  refine .fine hc ?_
  rintro _ ⟨⟩
  exact hk

/-- Of the sources of bytes only the console fails to give them. -/
lemma obtainBytes_error {count : Nat} {cause : HostError}
    (h : (m.obtainBytes count).1 = .ok (.error cause)) :
    m.attached? = none ∧ (m.state.channels.read count).1 = .error cause := by
  cases ha : m.attached? with
  | none =>
    rw [obtainBytes_of_detached ha] at h
    cases hr : (m.state.channels.read count).1 with
    | error found =>
      rw [hr] at h
      cases h
      exact ⟨rfl, rfl⟩
    | ok bytes =>
      rw [hr] at h
      cases h
  | some p =>
    cases hi : p.2.interactive with
    | true =>
      have hs : m.byteSource = .pane p.1 := by simp [byteSource, ha, hi]
      simp only [obtainBytes, hs] at h
      split at h <;> cases h
    | false =>
      have hs : m.byteSource = .field p.1 := by simp [byteSource, ha, hi]
      simp only [obtainBytes, hs] at h
      cases h

/-! ## How file calls come out -/

/-- A number of bytes is never returned as a negative number. -/
lemma countCode_nonneg (n : Nat) : 0 ≤ countCode n := by
  simp only [countCode]
  omega

/-- A file is refused, or opened with a descriptor that is not negative. -/
lemma openFile_verdict (m : Machine) (name : String) (flags : OpenFlags) :
    m.Verdict (.openFile name flags) (m.openFile name flags).1 (m.openFile name flags).2.lastError := by
  obtain ⟨fault, es, refusal, h⟩ | ⟨i, mode, disk, f, es, -, -, -, -, h⟩ := m.openFile_atomic name flags
  · rw [h]
    exact .failed (.refused refusal)
  · rw [h]
    refine .opened rfl ?_
    simp only [Table.fdOf]
    omega

/-- A read is turned away, or fails on the console, or gives a number of bytes. -/
lemma readFrom_verdict (b : m.state.table.Bound) (fd : Int) (buffer : List UInt8) :
    m.Verdict (.readFrom fd buffer) (m.readFrom fd buffer).1.result.toOption
      (m.readFrom fd buffer).2.lastError := by
  simp only [readFrom]
  split
  · next fault hreq =>
    obtain ⟨hopen, rfl⟩ := Table.require_eq_error_iff.mp hreq
    exact .failed (.notOpen rfl rfl hopen)
  · next hreq =>
    split
    -- The standard input: a request is cancelled, or the console fails, or there are bytes.
    · next hfd =>
      subst hfd
      have hkept := (m.touches_obtainBytes buffer.length).lastError rfl
      cases ho : m.obtainBytes buffer.length with
      | mk outcome n =>
        rw [ho] at hkept
        obtain c | ⟨cause | t⟩ := outcome
        · show m.Verdict _ none n.lastError
          rw [hkept]
          exact .fine rfl (by simp)
        · obtain ⟨ha, hread⟩ := obtainBytes_error (congrArg Prod.fst ho)
          exact .failed (.console ha hread)
        · show m.Verdict _ (some (countCode t.bytes.length)) n.lastError
          rw [hkept]
          exact .of_nonneg rfl (countCode_nonneg _)
    -- A host file that is open for reading can be read.
    · next hfd =>
      obtain ⟨rfl, -⟩ | ⟨i, s, f, -, -, -, hstream, ha⟩ := b.stream?_of_read hreq
      · exact absurd rfl hfd
      · obtain ⟨bytes, g, hr⟩ := Disk.read_of_access ha m.disk buffer.length
        simp only [readStream, hstream, hr]
        exact .of_nonneg rfl (countCode_nonneg _)

/-- Accounting for a write. -/
lemma endWrite_verdict {c : Call} {bytes : List UInt8} {outcome : Except HostError Unit}
    (hc : c.opens = false) (hn : n.lastError = m.lastError)
    (hfailed : ∀ cause, outcome = .error cause → m.Fails c (.hostFailed .write fd cause)) :
    m.Verdict c (n.endWrite fd bytes outcome).1 (n.endWrite fd bytes outcome).2.lastError := by
  cases outcome with
  | ok =>
    show m.Verdict c (some (countCode bytes.length)) n.lastError
    rw [hn]
    exact .of_nonneg hc (countCode_nonneg _)
  | error cause => exact .failed (hfailed cause rfl)

/-- Only the console fails to take what is written to an output. -/
lemma writeStandard_error {channel : StdChannel} {bytes : List UInt8} {cause : HostError}
    (h : (m.writeStandard channel bytes).1 = .error cause) :
    m.attached? = none ∧ (m.state.channels.write channel bytes).1 = .error cause := by
  simp only [writeStandard] at h
  split at h
  · cases h
  · next ha => exact ⟨ha, h⟩

/-- A write is turned away, or fails where its bytes go, or gives their number. -/
lemma writeTo_verdict (b : m.state.table.Bound) (fd : Int) (bytes : List UInt8) :
    m.Verdict (.writeTo fd bytes) (m.writeTo fd bytes).1 (m.writeTo fd bytes).2.lastError := by
  have standard (channel : StdChannel) (hchannel : channel ≠ .input) :
      let result := m.writeStandard channel bytes
      m.Verdict (.writeTo channel.fd bytes) (result.2.endWrite channel.fd bytes result.1).1
        (result.2.endWrite channel.fd bytes result.1).2.lastError := by
    refine endWrite_verdict rfl ((m.touches_writeStandard channel bytes).lastError rfl) ?_
    intro cause h
    obtain ⟨ha, hwrite⟩ := writeStandard_error h
    exact .outlet hchannel ha hwrite
  simp only [writeTo]
  split
  · next fault hreq =>
    obtain ⟨hopen, rfl⟩ := Table.require_eq_error_iff.mp hreq
    exact .failed (.notOpen rfl rfl hopen)
  · next hreq =>
    split
    · next hfd =>
      subst hfd
      exact standard .output (by decide)
    · next hout =>
      split
      · next hfd =>
        subst hfd
        exact standard .error (by decide)
      · next herr =>
        obtain ⟨f, hstream, -⟩ := b.file_of_write hreq hout herr
        simp only [writeStream, hstream]
        cases hw : m.disk.write f bytes with
        | ok result => exact endWrite_verdict rfl rfl (by simp)
        | error cause => exact .failed (.file (Table.require_eq_ok_iff.mp hreq) hstream hw)

/-- A host file is moved if the target can be returned. -/
lemma trySeek_file {whence : Int} {w : Whence} {f : OpenFile} (offset : Int)
    (hreq : m.state.table.require fd .read = .ok ()) (hw : Whence.ofGuest? whence = some w)
    (hstream : m.state.table.stream? fd = some (.file f)) :
    m.trySeek fd offset whence =
      let target := f.base m.disk w + offset
      if 0 ≤ target ∧ target ≤ greatestPosition then
        .ok (target, m.setTable (m.state.table.bind fd (.file (f.moveTo target.toNat))).2)
      else .error (.seekTarget fd target) := by
  simp only [trySeek, hreq, hw, hstream]
  cases w <;> rfl

/-- A seek fails on its descriptor, its base or its target, or gives the new position. -/
lemma seek_verdict (b : m.state.table.Bound) (fd offset whence : Int) :
    m.Verdict (.seek fd offset whence) (m.seek fd offset whence).1
      (m.seek fd offset whence).2.lastError := by
  have failed {fault : Fault} (h : m.trySeek fd offset whence = .error fault)
      (hfails : m.Fails (.seek fd offset whence) fault) :
      m.Verdict (.seek fd offset whence) (m.seek fd offset whence).1
        (m.seek fd offset whence).2.lastError := by
    simp only [seek, h]
    exact .failed hfails
  cases hreq : m.state.table.require fd .read with
  | error fault =>
    obtain ⟨hopen, rfl⟩ := Table.require_eq_error_iff.mp hreq
    exact failed (by simp only [trySeek, hreq]) (.notOpen rfl rfl hopen)
  | ok =>
    have hopen := Table.require_eq_ok_iff.mp hreq
    cases hw : Whence.ofGuest? whence with
    | none => exact failed (by simp only [trySeek, hreq, hw]) (.seekBase hopen hw)
    | some w =>
      obtain ⟨-, hstream⟩ | ⟨i, s, f, -, -, -, hstream, -⟩ := b.stream?_of_read hreq
      · exact failed (by simp only [trySeek, hreq, hw, hstream]) (.notSeekable hopen hw hstream)
      · have htry := trySeek_file offset hreq hw hstream
        by_cases hrange : 0 ≤ f.base m.disk w + offset ∧ f.base m.disk w + offset ≤ greatestPosition
        · rw [if_pos hrange] at htry
          simp only [seek, htry]
          exact .of_nonneg rfl hrange.1
        · rw [if_neg hrange] at htry
          exact failed htry (.seekTarget hopen hw hstream hrange)

end Machine

end Hostcall

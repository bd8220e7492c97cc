import Hostcall.Proofs.Numeral.Integers
import Hostcall.Proofs.Text.Ends
import Hostcall.Proofs.World.Lines

/-!
# Integers from lines

A call for an integer takes one line, trims it, and accepts exactly the decimal integers of its range
(`Accepts`); everything else is an error with what was trimmed. The two ranges differ in nothing else, and the
text of an integer is read back whatever blanks stand around it (`integers_exact`).
-/

namespace Hostcall

open Pane

/-- What is read from a trimmed line: the integer that it denotes, if it denotes one of the range from `least`
to below `bound`, and otherwise an error that carries it. -/
structure Accepts (least bound : Int) (s : String) (outcome : Except ReadValueError Int) : Prop where
  ok (n : Int) : outcome = .ok n ↔ Numeral.Denotes s.toList n ∧ least ≤ n ∧ n < bound
  parse : (∀ n, outcome ≠ .ok n) → ∃ message, outcome = .error (.parse s message)

/-- No character of a written integer is blank. -/
lemma Numeral.Denotes.not_blank {cs : List Char} {n : Int} (h : Denotes cs n) :
    ∀ c ∈ cs, Text.isBlank c = false := by
  have hdigit {d : Char} (hd : d.isDigit = true) : Text.isBlank d = false := by
    simp only [Char.isDigit, Bool.and_eq_true, decide_eq_true_eq] at hd
    have hlow : 48 ≤ d.toNat := hd.1
    have hhigh : d.toNat ≤ 57 := hd.2
    simp only [Text.isBlank, Bool.or_eq_false_iff, Bool.and_eq_false_iff, decide_eq_false_iff_not]
    omega
  cases h with
  | unsigned _ hds => exact fun c hc => hdigit (hds c hc)
  | plus _ hds | minus _ hds =>
    intro c hc
    obtain rfl | hc := List.mem_cons.mp hc
    · rfl
    · exact hdigit (hds c hc)

namespace Machine

variable {r : Numeral.IntegerRange} {m : Machine} {line : String}

/-- An integer is read from a line exactly as it is read from the trimmed line. -/
lemma accepts_valueOfLine (hleast : r.least ≤ 0) (hgreatest : 0 ≤ r.greatest) (line : String) :
    Accepts r.least (r.greatest + 1) (Text.trim line)
      (valueOfLine (Numeral.readInteger r) (·.message) line) := by
  have hread (n : Int) : Numeral.readInteger r (Text.trim line) = .ok n ↔
      Numeral.Denotes (Text.trim line).toList n ∧ r.least ≤ n ∧ n < r.greatest + 1 := by
    rw [Int.lt_add_one_iff]
    exact Numeral.readIntegerChars_eq_ok_iff hleast hgreatest
  simp only [valueOfLine]
  cases hr : Numeral.readInteger r (Text.trim line) with
  | ok value =>
    refine ⟨fun n => ?_, fun hnot => absurd rfl (hnot value)⟩
    rw [← hread n, hr]
    simp
  | error e =>
    refine ⟨fun n => ?_, fun _ => ⟨_, rfl⟩⟩
    rw [← hread n, hr]
    simp

/-- A line that is trimmed to the text of an integer of the range is read as this integer. -/
lemma valueOfLine_toString (hleast : r.least ≤ 0) (hgreatest : 0 ≤ r.greatest) {n : Int}
    (htrims : Text.Trims Text.isBlank line.toList (toString n).toList)
    (hrange : r.least ≤ n ∧ n < r.greatest + 1) :
    valueOfLine (Numeral.readInteger r) (·.message) line = .ok n := by
  refine ((accepts_valueOfLine hleast hgreatest line).ok n).mpr ⟨?_, hrange⟩
  have htrim : (Text.trim line).toList = (toString n).toList := by
    rw [Text.trim, String.toList_ofList, ← htrims.eq_trimWhere]
  rw [htrim]
  exact Numeral.denotes_toString n

/-- A text is what the next line is made of: it is answered, or it stands on a line of the console or of the
static field. -/
inductive Offers (m : Machine) (text : String) : Prop where
  | answer :
    m.nextLine? "0" = some text →
    Offers m text
  | console {rest} :
    m.OnConsole Console.Input.Flows (Utf8.encode text ++ rest) →
    (∀ b ∈ rest.head?, b = Line.newline) →
    Offers m text
  | field {rest} :
    m.OnField (Utf8.encode text ++ rest) →
    (∀ b ∈ rest.head?, b = Line.newline) →
    Offers m text

/-- Nothing of such a text is missing once the next line is trimmed. -/
lemma Offers.trims {text : String} (h : m.Offers text) (hnewline : '\n' ∉ text.toList) {s : List Char}
    (htrims : Text.Trims Text.isBlank text.toList s) :
    ∃ line, m.nextLine? "0" = some line ∧ Text.Trims Text.isBlank line.toList s := by
  cases h with
  | answer h => exact ⟨_, h, htrims⟩
  | console hon hrest => exact ⟨_, hon.nextLine?_eq "0", Line.trims_cut_encode hnewline hrest htrims⟩
  | field hon hrest => exact ⟨_, hon.nextLine?_eq "0", Line.trims_cut_encode hnewline hrest htrims⟩

/-- An integer with blanks around it is what is left of the next line when it is trimmed. -/
lemma Offers.trims_toString {n : Int} {before after : List Char}
    (hblank : ∀ c ∈ before ++ after, Text.isBlank c = true ∧ c ≠ '\n')
    (h : m.Offers (String.ofList before ++ toString n ++ String.ofList after)) :
    ∃ line, m.nextLine? "0" = some line ∧ Text.Trims Text.isBlank line.toList (toString n).toList := by
  have hnot := (Numeral.denotes_toString n).not_blank
  have htext : (String.ofList before ++ toString n ++ String.ofList after).toList =
      before ++ (toString n).toList ++ after := by
    simp only [String.toList_append, String.toList_ofList]
  refine h.trims ?_ ⟨⟨before, after, htext, fun c hc => (hblank c hc).1⟩, ?_, ?_⟩
  · rw [htext, List.mem_append, List.mem_append]
    rintro ((hc | hc) | hc)
    · exact (hblank _ (List.mem_append_left _ hc)).2 rfl
    · exact absurd (hnot _ hc) (by decide)
    · exact (hblank _ (List.mem_append_right _ hc)).2 rfl
  · exact fun c hc => hnot c (List.mem_of_mem_head? hc)
  · exact fun c hc => hnot c (List.mem_of_mem_getLast? hc)

end Machine

namespace World

/-- What the two calls for an integer give, in whatever world they are made: if nobody cancels them, the
integer that is left of the next line when it is trimmed, provided that this is an optional sign with digits
behind it and lies in the range, and otherwise an error that carries what was left. The call for the shorter
range accepts what the other one accepts and the range holds. The text of an integer is read back, with any
blanks around it but a newline. Whatever comes out, the call has taken this line or this answer, and changed
nothing else but the log and what was shown. -/
theorem integers_exact (w : World) (service : Nat) :
    let word := w.call (.readInteger service)
    let long := w.call (.readLong service)
    (w.machine.nextLine? "0" = none →
      word.1 = .integer (.error (.cancelled .cancelled)) ∧
      long.1 = .long (.error (.cancelled .cancelled))) ∧
    (∀ line, w.machine.nextLine? "0" = some line →
      ∃ s, Text.Trims Text.isBlank line.toList s.toList ∧
      ∃ short wide, word.1 = .integer short ∧ long.1 = .long wide ∧
        Accepts (-2147483648) 2147483648 s short ∧
        Accepts (-9223372036854775808) 9223372036854775808 s wide ∧
        ∀ n, short = .ok n ↔ wide = .ok n ∧ -2147483648 ≤ n ∧ n < 2147483648) ∧
    (∀ (n : Int) (before after : List Char),
      (∀ c ∈ before ++ after, Text.isBlank c = true ∧ c ≠ '\n') →
      w.machine.Offers (String.ofList before ++ toString n ++ String.ofList after) →
      (-2147483648 ≤ n ∧ n < 2147483648 → word.1 = .integer (.ok n)) ∧
      (-9223372036854775808 ≤ n ∧ n < 9223372036854775808 → long.1 = .long (.ok n))) ∧
    (∃ m, word.2 = { w with machine := m } ∧ w.machine.TakesLine m) ∧
    ∃ m, long.2 = { w with machine := m } ∧ w.machine.TakesLine m := by
  intro word long
  obtain ⟨hword, hnoword, hword'⟩ := line_call (w := w) (c := .readInteger service) rfl
  obtain ⟨hlong, hnolong, hlong'⟩ := line_call (w := w) (c := .readLong service) rfl
  refine ⟨fun hnone => ?_, fun line hline => ?_, fun n before after hblank hoffers => ?_, hword', hlong'⟩
  · exact ⟨(Option.some.inj (hnoword hnone)).symm, (Option.some.inj (hnolong hnone)).symm⟩
  · have htrims : Text.Trims Text.isBlank line.toList (Text.trim line).toList := by
      rw [Text.trim, String.toList_ofList]
      exact Text.trims_trimWhere _ _
    have hshort : Accepts (-2147483648) 2147483648 (Text.trim line) _ :=
      Machine.accepts_valueOfLine (r := .word) (by decide) (by decide) line
    have hwide : Accepts (-9223372036854775808) 9223372036854775808 (Text.trim line) _ :=
      Machine.accepts_valueOfLine (r := .long) (by decide) (by decide) line
    refine ⟨Text.trim line, htrims, _, _, hword line hline, hlong line hline, hshort, hwide, fun n => ?_⟩
    rw [hshort.ok n, hwide.ok n]
    constructor
    · rintro ⟨hdenotes, hleast, hbound⟩
      exact ⟨⟨hdenotes, by omega, by omega⟩, hleast, hbound⟩
    · rintro ⟨⟨hdenotes, -⟩, hrange⟩
      exact ⟨hdenotes, hrange⟩
  · obtain ⟨line, hline, htrims⟩ := hoffers.trims_toString hblank
    constructor
    · intro hrange
      rw [hword line hline, Machine.valueOfLine_toString (by decide) (by decide) htrims hrange]
    · intro hrange
      rw [hlong line hline, Machine.valueOfLine_toString (by decide) (by decide) htrims hrange]

/-- The least integer of the shorter range stands between blanks, one of them beyond ASCII and one a carriage
return, and the first integer beyond the longer range on the line behind it. -/
theorem integers_exact_bounds :
    let first := "\u3000-2147483648 \r"
    let second := "+09223372036854775808"
    let input := Utf8.encode first ++ Line.newline :: Utf8.encode second
    let w : World := { machine := .start {} (.ofHome ["scratch"]) (.memory input) .none }
    let v := (w.call (.readLong 5)).2
    w.machine.Offers first ∧ (w.call (.readInteger 5)).1 = .integer (.ok (-2147483648)) ∧
      v.machine.nextLine? "0" = some second ∧
      ∃ message, (v.call (.readLong 5)).1 = .long (.error (.parse second message)) := by
  intro first second input w v
  have hon : w.machine.OnConsole Console.Input.Flows input := ⟨rfl, ⟨_, rfl⟩, rfl⟩
  have hfirst : String.ofList ['\u3000'] ++ toString (-2147483648) ++ String.ofList [' ', '\r'] = first := by
    decide +kernel
  have hoffers : w.machine.Offers first := by
    refine .console hon ?_
    rintro b ⟨⟩
    rfl
  have hblank : ∀ c ∈ ['\u3000'] ++ [' ', '\r'], Text.isBlank c = true ∧ c ≠ '\n' := by
    simp [Text.isBlank]
  obtain ⟨-, -, hback, -⟩ := integers_exact w 5
  have hword := (hback (-2147483648) ['\u3000'] [' ', '\r'] hblank (hfirst ▸ hoffers)).1 (by decide)
  have hleft : (Line.cut input).2 = Utf8.encode second := by decide +kernel
  have hbehind : v.machine.OnConsole Console.Input.Flows (Utf8.encode second) :=
    hleft ▸ (line_of_tape (Machine.onConsole_tape Console.Input.flows_steady) hon (c := .readLong 5) rfl).2
  have hline : v.machine.nextLine? "0" = some second := by
    rw [hbehind.nextLine?_eq]
    decide +kernel
  obtain ⟨-, hparse, -⟩ := integers_exact v 5
  obtain ⟨s, htrims, short, wide, -, hlong, -, hwide, -⟩ := hparse second hline
  obtain rfl : s = second := String.toList_inj.mp (htrims.eq_trimWhere.trans (by decide +kernel))
  have hchars : second.toList = '+' :: "09223372036854775808".toList := by decide +kernel
  have hnot (n : Int) : wide ≠ .ok n := by
    intro hok
    obtain ⟨hdenotes, -, hbound⟩ := (hwide.ok n).mp hok
    obtain ⟨-, -, rfl⟩ := Numeral.denotes_plus_iff.mp (hchars ▸ hdenotes)
    exact absurd hbound (by decide +kernel)
  obtain ⟨message, hmessage⟩ := hwide.parse hnot
  exact ⟨hoffers, hword, hline, message, hmessage ▸ hlong⟩

end World

end Hostcall

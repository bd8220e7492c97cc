import Hostcall.Proofs.World.Lines

/-!
# Strings are cut by characters

What a call for a string gives are the first characters of the next line, as many as its limit allows
(`CutsTo`). The line is used up as a whole: the next call that takes a line gets the one behind it
(`readString_exact`).
-/

namespace Hostcall

open Pane

/-- `s` is what a limit leaves of a line: its first characters, where one newline at its end does not count.
Its bytes are the first of the line's, and with them no character is split. -/
structure CutsTo (limit : Int) (line s : String) : Prop where
  characters : ∃ body,
    (line.toList = body ++ ['\n'] ∨ line.toList = body ∧ body.getLast? ≠ some '\n') ∧
      s.toList = body.take (max limit 0).toNat
  bytes : ∃ rest : String, Utf8.encode line = Utf8.encode s ++ Utf8.encode rest

/-- The first characters of a text have the first of its bytes. -/
lemma Utf8.encode_of_toList {text s : String} {rest : List Char} (h : text.toList = s.toList ++ rest) :
    ∃ rest : String, encode text = encode s ++ encode rest := by
  have htext : text = s ++ String.ofList rest := by
    rw [← String.toList_inj, String.toList_append, String.toList_ofList, h]
  exact ⟨_, htext ▸ encode_append s _⟩

/-- What a line is cut to is what the limit asks for. -/
lemma cutsTo_cutLineTo (limit : Int) (line : String) : CutsTo limit line (cutLineTo limit line) := by
  have hlimit : limit.toNat = (max limit 0).toNat := by omega
  by_cases h : line.toList.getLast? = some '\n'
  · have hline : line.toList = line.toList.dropLast ++ ['\n'] :=
      (List.dropLast_append_getLast? _ h).symm
    have hs : (cutLineTo limit line).toList = line.toList.dropLast.take limit.toNat := by
      simp only [cutLineTo, if_pos h, String.toList_ofList]
    have hfront : line.toList =
        (cutLineTo limit line).toList ++ (line.toList.dropLast.drop limit.toNat ++ ['\n']) := by
      rw [hs, ← List.append_assoc, List.take_append_drop]
      exact hline
    exact ⟨⟨_, .inl hline, hlimit ▸ hs⟩, Utf8.encode_of_toList hfront⟩
  · have hs : (cutLineTo limit line).toList = line.toList.take limit.toNat := by
      simp only [cutLineTo, if_neg h, String.toList_ofList]
    have hfront : line.toList = (cutLineTo limit line).toList ++ line.toList.drop limit.toNat := by
      rw [hs, List.take_append_drop]
    exact ⟨⟨_, .inr ⟨rfl, h⟩, hlimit ▸ hs⟩, Utf8.encode_of_toList hfront⟩

namespace World

variable {w : World}

/-- What a call for a string gives after any run: if nobody cancels it, the first characters of the next line
of its source, whatever the limit, and never a part of one. It takes from the source this line or this answer,
all of it, and changes nothing else but the log and what was shown. So where the line came from the console or
from the static field, the next call that takes a line gets the line behind it, whatever was called in between
that takes no input. -/
theorem readString_exact (fresh : w.Fresh) (calls : List (Time × Call)) (now : Time) (service : Nat)
    (limit : Int) :
    let v := (w.run calls).2.atTime now
    let c : Call := .readString service limit
    (v.machine.nextLine? "" = none → (v.call c).1 = .text (.error .cancelled)) ∧
    (∀ line, v.machine.nextLine? "" = some line →
      ∃ s, (v.call c).1 = .text (.ok s) ∧ CutsTo limit line s) ∧
    (∃ n, (v.call c).2 = { v with machine := n } ∧ v.machine.TakesLine n) ∧
    ∀ left, v.machine.OnConsole Console.Input.Flows left ∨ v.machine.OnField left →
      v.machine.nextLine? "" = some (Line.text (Line.cut left).1) ∧
      ∀ between later next answer, (∀ entry ∈ between, entry.2.usesIntake = false) →
        next.ofLine? = some answer →
        ((((v.call c).2.run between).2.atTime later).call next).1 =
          answer (Line.text (Line.cut (Line.cut left).2).1) := by
  intro v c
  have bound : v.Bound := (fresh.bound.run calls).atTime now
  have hc : c.ofLine? = some fun line => .text (.ok (cutLineTo limit line)) := rfl
  obtain ⟨hreply, hnone', htakes⟩ := line_call (w := v) hc
  refine ⟨fun hnone => ?_, fun line hline => ?_, htakes, fun left hon => ?_⟩
  · exact (Option.some.inj (hnone' hnone)).symm
  · exact ⟨_, hreply line hline, cutsTo_cutLineTo limit line⟩
  · obtain hon | hon := hon
    · refine ⟨hon.nextLine?_eq "", fun between later next answer hbetween hnext => ?_⟩
      exact line_of_tape_run (Machine.onConsole_tape Console.Input.flows_steady)
        (fun h => h.of_intake) bound hon hc hbetween later hnext
    · refine ⟨hon.nextLine?_eq "", fun between later next answer hbetween hnext => ?_⟩
      exact line_of_tape_run Machine.onField_tape (fun h => h.of_intake) bound hon hc hbetween later hnext

/-- The first character of a line was split by a read of one byte, so that the rest of it is replaced. Two
characters of the line are asked for, of which one has three bytes and the other four. -/
theorem readString_exact_split :
    let input : List UInt8 := [0xC3, 0xA9, 0xF0, 0x9F, 0x98, 0x80, 0x78, 0x79, 13, 10, 0x7A, 10]
    let w : World := { machine := .start {} (.ofHome ["scratch"]) (.memory input) .none }
    let v := (w.run [(0, .readFrom 0 [0])]).2.atTime 1
    let s := String.ofList [Char.ofNat 0xFFFD, Char.ofNat 0x1F600]
    w.Fresh ∧ v.machine.OnConsole Console.Input.Flows (input.drop 1) ∧
      v.machine.nextLine? "" = some (s ++ "xy") ∧
      (v.call (.readString 8 2)).1 = .text (.ok s) ∧ CutsTo 2 (s ++ "xy") s ∧
      ((((v.call (.readString 8 2)).2.run [(2, .print "?")]).2.atTime 3).call (.readString 8 80)).1 =
        .text (.ok "z") := by
  intro input w v s
  have fresh : w.Fresh := fresh_start {} (.ofHome ["scratch"]) .none (.memory input) []
  have hon : v.machine.OnConsole Console.Input.Flows (input.drop 1) :=
    ⟨by decide +kernel, ⟨[], by decide +kernel⟩, by decide +kernel⟩
  obtain ⟨-, hcut, -, hnext⟩ := readString_exact fresh [(0, .readFrom 0 [0])] 1 8 2
  obtain ⟨hline, hbehind⟩ := hnext (input.drop 1) (.inl hon)
  have htext : Line.text (Line.cut (input.drop 1)).1 = s ++ "xy" := by decide +kernel
  rw [htext] at hline
  obtain ⟨given, hgiven, hcuts⟩ := hcut _ hline
  have hread : (v.machine.readString 8 2).1 = .ok s := by decide +kernel
  have hs : (v.call (.readString 8 2)).1 = .text (.ok s) := congrArg Reply.text hread
  have hsame : Reply.text (.ok s) = .text (.ok given) := hs.symm.trans hgiven
  obtain rfl : s = given := by simpa using hsame
  have hz : cutLineTo 80 (Line.text (Line.cut (Line.cut (input.drop 1)).2).1) = "z" := by decide +kernel
  have hnext := hbehind [(2, .print "?")] 3 (.readString 8 80) _ (by decide) rfl
  exact ⟨fresh, hon, hline, hs, hcuts, hnext.trans (congrArg (fun text => Reply.text (.ok text)) hz)⟩

end World

end Hostcall

import Hostcall.Text.Split
import Mathlib.Tactic.Lemma

/-!
# Pieces between separators

The pieces of a list are its longest stretches without a separator (`mem_split_iff`). A separator between two
lists keeps their pieces apart (`split_append`), and pieces without a separator can be joined and split again
(`split_joinWith`).
-/

namespace Hostcall.Text

/-- A stretch of a list without a separator that no longer one contains: separators or the ends of the list
stand around it. -/
structure IsPiece (p : Char → Bool) (cs piece : List Char) : Prop where
  within : ∃ before after, cs = before ++ piece ++ after ∧
    (∀ c ∈ before.getLast?, p c = true) ∧ ∀ c ∈ after.head?, p c = true
  solid : ∀ c ∈ piece, p c = false

variable {p : Char → Bool} {cs piece : List Char} {c : Char}

/-- Text is split as lists are. -/
lemma split_eq_splitOnP (p : Char → Bool) (cs : List Char) : split p cs = cs.splitOnP p := by
  induction cs with
  | nil => rfl
  | cons c cs ih =>
    rw [List.splitOnP_cons_eq_if_modifyHead, split, ih]
    cases h : cs.splitOnP p with
    | nil => exact absurd h (List.splitOnP_ne_nil p cs)
    | cons piece pieces => rfl

/-- A list without a separator is a single piece. -/
lemma split_of_solid (h : ∀ c ∈ piece, p c = false) : split p piece = [piece] := by
  rw [split_eq_splitOnP]
  exact List.splitOnP_eq_singleton h

/-- The pieces of two lists with a separator between them are those of both. -/
lemma split_append (hc : p c = true) (as bs : List Char) :
    split p (as ++ c :: bs) = split p as ++ split p bs := by
  simp only [split_eq_splitOnP]
  exact List.splitOnP_append_cons as bs hc

/-- A list without a separator is a piece of its own. -/
lemma IsPiece.whole (h : ∀ c ∈ cs, p c = false) : IsPiece p cs cs :=
  ⟨⟨[], [], by simp⟩, h⟩

/-- What stands before the first separator is a piece. -/
lemma IsPiece.first (h : ∀ c ∈ piece, p c = false) (hc : p c = true) (rest : List Char) :
    IsPiece p (piece ++ c :: rest) piece := by
  refine ⟨⟨[], c :: rest, rfl, nofun, ?_⟩, h⟩
  rintro _ ⟨⟩
  exact hc

/-- What is a piece after a separator is a piece of the whole. -/
lemma IsPiece.after (h : IsPiece p cs piece) (hc : p c = true) (front : List Char) :
    IsPiece p (front ++ c :: cs) piece := by
  obtain ⟨⟨before, after, rfl, hbefore, hafter⟩, hsolid⟩ := h
  refine ⟨⟨front ++ c :: before, after, by simp, ?_, hafter⟩, hsolid⟩
  rw [List.getLast?_append, List.getLast?_cons, Option.some_or]
  rintro _ ⟨⟩
  cases hb : before.getLast? with
  | none => exact hc
  | some d => exact hbefore d hb

/-- What has no separator in it and separators around it is split off. -/
lemma IsPiece.mem_split (h : IsPiece p cs piece) : piece ∈ split p cs := by
  obtain ⟨⟨before, after, rfl, hbefore, hafter⟩, hsolid⟩ := h
  have hrest : piece ∈ split p (piece ++ after) := by
    cases after with
    | nil => simp [split_of_solid hsolid]
    | cons d after =>
      rw [split_append (hafter d rfl), split_of_solid hsolid]
      exact .head _
  rw [List.append_assoc]
  obtain rfl | ⟨front, d, rfl⟩ := List.eq_nil_or_concat before
  · exact hrest
  · have hd : p d = true := hbefore d (by simp)
    rw [List.concat_eq_append, List.append_assoc, List.singleton_append, split_append hd]
    exact List.mem_append_right _ hrest

/-- A list without a separator has no more than itself for a piece; any other one splits at its first. -/
lemma isPiece_of_mem_split (h : piece ∈ split p cs) : IsPiece p cs piece := by
  induction hlength : cs.length using Nat.strongRecOn generalizing cs with
  | ind n ih =>
    cases hfind : cs.find? p with
    | none =>
      have hsolid : ∀ c ∈ cs, p c = false := by simpa using hfind
      rw [split_of_solid hsolid, List.mem_singleton] at h
      rw [h]
      exact .whole hsolid
    | some c =>
      obtain ⟨hc, front, rest, rfl, hfront⟩ := List.find?_eq_some_iff_append.mp hfind
      have hsolid : ∀ c ∈ front, p c = false := by simpa using hfront
      rw [split_append hc, split_of_solid hsolid] at h
      obtain h | h := List.mem_append.mp h
      · rw [List.mem_singleton.mp h]
        exact .first hsolid hc rest
      · have hshorter : rest.length < n := by
          rw [← hlength, List.length_append, List.length_cons]
          omega
        exact (ih rest.length hshorter h rfl).after hc front

/-- Splitting gives the longest stretches without a separator, and nothing else. -/
theorem mem_split_iff : piece ∈ split p cs ↔ IsPiece p cs piece :=
  ⟨isPiece_of_mem_split, IsPiece.mem_split⟩

/-! ## Joining -/

/-- Joined pieces go on with a separator. -/
lemma joinWith_append (sep : Char) {ps qs : List (List Char)} (hp : ps ≠ []) (hq : qs ≠ []) :
    joinWith sep (ps ++ qs) = joinWith sep ps ++ sep :: joinWith sep qs := by
  induction ps with
  | nil => exact absurd rfl hp
  | cons piece ps ih =>
    cases ps with
    | nil =>
      cases qs with
      | nil => exact absurd rfl hq
      | cons q qs => rfl
    | cons next ps =>
      have ih := ih (by simp)
      simp only [List.cons_append, joinWith] at ih ⊢
      simp [ih]

/-- The first of some pieces, joined, stand at the beginning of all of them. -/
lemma isPrefix_joinWith (sep : Char) {ps qs : List (List Char)} (hne : ps ≠ []) (h : ps <+: qs) :
    joinWith sep ps <+: joinWith sep qs := by
  obtain ⟨rest, rfl⟩ := h
  by_cases hrest : rest = []
  · simp [hrest]
  · rw [joinWith_append sep hne hrest]
    exact List.prefix_append _ _

/-- Pieces without a separator that were joined are got back by splitting. -/
lemma split_joinWith {sep : Char} {ps : List (List Char)} (hne : ps ≠ []) (h : ∀ piece ∈ ps, sep ∉ piece) :
    split (· == sep) (joinWith sep ps) = ps := by
  have hsolid (piece : List Char) (hp : sep ∉ piece) : ∀ c ∈ piece, (c == sep) = false := by
    intro c hc
    exact beq_eq_false_iff_ne.mpr (ne_of_mem_of_not_mem hc hp)
  induction ps with
  | nil => exact absurd rfl hne
  | cons piece ps ih =>
    cases ps with
    | nil => exact split_of_solid (hsolid piece (h piece (.head _)))
    | cons next ps =>
      have ih := ih (by simp) fun q hq => h q (.tail _ hq)
      show split (· == sep) (piece ++ sep :: joinWith sep (next :: ps)) = _
      rw [split_append (p := (· == sep)) (beq_self_eq_true sep),
        split_of_solid (hsolid piece (h piece (.head _))), ih]
      rfl

end Hostcall.Text

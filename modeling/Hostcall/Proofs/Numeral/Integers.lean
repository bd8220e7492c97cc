import Hostcall.Numeral.Decimal
import Mathlib.Tactic.Lemma

/-!
# Which texts are integers

An optional sign with ASCII digits behind it denotes an integer (`Denotes`). Reading into a range that holds
zero accepts exactly the texts that denote an integer of the range, and gives this integer
(`readIntegerChars_eq_ok_iff`); the written form of an integer is one of them (`denotes_toString`).
-/

namespace Hostcall.Numeral

/-- An optional sign and one or more digits, and the integer that they denote. -/
inductive Denotes : List Char → Int → Prop where
  | unsigned {ds} :
    ds ≠ [] →
    (∀ d ∈ ds, d.isDigit = true) →
    Denotes ds (Nat.ofDigitChars 10 ds 0)
  | plus {ds} :
    ds ≠ [] →
    (∀ d ∈ ds, d.isDigit = true) →
    Denotes ('+' :: ds) (Nat.ofDigitChars 10 ds 0)
  | minus {ds} :
    ds ≠ [] →
    (∀ d ∈ ds, d.isDigit = true) →
    Denotes ('-' :: ds) (-(Nat.ofDigitChars 10 ds 0 : Int))

variable {r : IntegerRange} {n : Int}

/-! ## Digits -/

/-- The digits are those of ASCII. -/
lemma digit?_eq (c : Char) : digit? c = if c.isDigit then some (c.toNat - '0'.toNat) else none := by
  have h : c.isDigit = true ↔ '0' ≤ c ∧ c ≤ '9' := by
    simp only [Char.isDigit, Bool.and_eq_true, decide_eq_true_eq]
    rfl
  simp only [digit?, h]

/-- More digits make no number smaller. -/
lemma le_ofDigitChars (ds : List Char) (value : Nat) : value ≤ Nat.ofDigitChars 10 ds value := by
  induction ds generalizing value with
  | nil => simp
  | cons d ds ih =>
    rw [Nat.ofDigitChars_cons]
    have := ih (10 * value + (d.toNat - '0'.toNat))
    omega

/-- Digits are appended to a number as long as it stays in the range; as it only grows, that is so exactly if
the last one does. -/
lemma growUp_eq_ok_iff {ds : List Char} {value : Nat} (h : (value : Int) ≤ r.greatest) :
    growUp r value ds = .ok n ↔
      (∀ d ∈ ds, d.isDigit = true) ∧ n = Nat.ofDigitChars 10 ds value ∧ n ≤ r.greatest := by
  induction ds generalizing value with
  | nil =>
    simp only [growUp, Except.ok.injEq, List.not_mem_nil, false_imp_iff, implies_true, true_and,
      Nat.ofDigitChars_nil]
    constructor
    · rintro rfl
      exact ⟨rfl, h⟩
    · exact fun hn => hn.1.symm
  | cons d ds ih =>
    cases hd : d.isDigit with
    | false => simp [growUp, digit?_eq, hd]
    | true =>
      have hnext : (value : Int) * 10 + (d.toNat - '0'.toNat : Nat) =
          (10 * value + (d.toNat - '0'.toNat) : Nat) := by
        push_cast
        omega
      simp only [growUp, digit?_eq, hd, if_true, hnext, Nat.ofDigitChars_cons, List.forall_mem_cons,
        true_and]
      split
      · next hle => exact ih hle
      · next hgreater =>
        have hgrows := le_ofDigitChars ds (10 * value + (d.toNat - '0'.toNat))
        constructor
        · nofun
        · rintro ⟨-, rfl, hle⟩
          omega

/-- Digits below zero are digits above zero in the mirrored range. -/
lemma growDown_eq_ok_iff {ds : List Char} {value : Int} :
    growDown r value ds = .ok n ↔ growUp ⟨-r.greatest, -r.least⟩ (-value) ds = .ok (-n) := by
  induction ds generalizing value with
  | nil => simp [growDown, growUp]
  | cons d ds ih =>
    cases hd : digit? d with
    | none => simp [growDown, growUp, hd]
    | some k =>
      have hbound : r.least ≤ value * 10 - k ↔ -value * 10 + k ≤ -r.least := by omega
      have hnext : -(value * 10 - k) = -value * 10 + k := by omega
      simp only [growDown, growUp, hd, hbound]
      split
      · rw [ih, hnext]
      · simp

/-! ## Signs -/

/-- No characters denote no number. -/
lemma denotes_nil : ¬Denotes [] n := by
  rintro ⟨h⟩
  exact h rfl

/-- Behind a plus sign there is a number if there are digits and nothing else. -/
lemma denotes_plus_iff {ds : List Char} :
    Denotes ('+' :: ds) n ↔ ds ≠ [] ∧ (∀ d ∈ ds, d.isDigit = true) ∧ n = Nat.ofDigitChars 10 ds 0 := by
  constructor
  · intro h
    cases h with
    | unsigned _ hds => exact absurd (hds '+' (.head _)) (by decide)
    | plus hne hds => exact ⟨hne, hds, rfl⟩
  · rintro ⟨hne, hds, rfl⟩
    exact .plus hne hds

/-- Behind a minus sign there is the opposite of a number. -/
lemma denotes_minus_iff {ds : List Char} :
    Denotes ('-' :: ds) n ↔
      ds ≠ [] ∧ (∀ d ∈ ds, d.isDigit = true) ∧ -n = (Nat.ofDigitChars 10 ds 0 : Int) := by
  constructor
  · intro h
    cases h with
    | unsigned _ hds => exact absurd (hds '-' (.head _)) (by decide)
    | minus hne hds => exact ⟨hne, hds, by simp⟩
  · rintro ⟨hne, hds, hn⟩
    obtain rfl : n = -(Nat.ofDigitChars 10 ds 0 : Int) := by omega
    exact .minus hne hds

/-- Without a sign there is a number if there are digits and nothing else. -/
lemma denotes_unsigned_iff {ds : List Char} (hplus : ds.head? ≠ some '+') (hminus : ds.head? ≠ some '-') :
    Denotes ds n ↔ ds ≠ [] ∧ (∀ d ∈ ds, d.isDigit = true) ∧ n = Nat.ofDigitChars 10 ds 0 := by
  constructor
  · intro h
    cases h with
    | unsigned hne hds => exact ⟨hne, hds, rfl⟩
    | plus => exact absurd rfl hplus
    | minus => exact absurd rfl hminus
  · rintro ⟨hne, hds, rfl⟩
    exact .unsigned hne hds

/-- A text is read as an integer of a range that holds zero exactly if it denotes one. -/
lemma readIntegerChars_eq_ok_iff (hleast : r.least ≤ 0) (hgreatest : 0 ≤ r.greatest) {cs : List Char} :
    readIntegerChars r cs = .ok n ↔ Denotes cs n ∧ r.least ≤ n ∧ n ≤ r.greatest := by
  have up {ds : List Char} : growUp r 0 ds = .ok n ↔ ((∀ d ∈ ds, d.isDigit = true) ∧
      n = Nat.ofDigitChars 10 ds 0) ∧ r.least ≤ n ∧ n ≤ r.greatest := by
    rw [← Int.natCast_zero, growUp_eq_ok_iff hgreatest, and_assoc]
    refine and_congr_right fun _ => and_congr_right fun hn => ?_
    omega
  have down {ds : List Char} : growDown r 0 ds = .ok n ↔ ((∀ d ∈ ds, d.isDigit = true) ∧
      -n = (Nat.ofDigitChars 10 ds 0 : Int)) ∧ r.least ≤ n ∧ n ≤ r.greatest := by
    have hzero : ((0 : Nat) : Int) ≤ -r.least := by omega
    rw [growDown_eq_ok_iff, Int.neg_zero, ← Int.natCast_zero, growUp_eq_ok_iff hzero, and_assoc]
    refine and_congr_right fun _ => and_congr_right fun hn => ?_
    simp only
    omega
  cases cs with
  | nil => simp [readIntegerChars, denotes_nil]
  | cons c ds =>
    by_cases hplus : c = '+'
    · subst hplus
      cases ds with
      | nil => simp [readIntegerChars, denotes_plus_iff]
      | cons d ds => simp [readIntegerChars, denotes_plus_iff, up]
    by_cases hminus : c = '-'
    · subst hminus
      cases ds with
      | nil => simp [readIntegerChars, denotes_minus_iff]
      | cons d ds => simp [readIntegerChars, denotes_minus_iff, down]
    have hread : readIntegerChars r (c :: ds) = growUp r 0 (c :: ds) := by
      unfold readIntegerChars
      split <;> simp_all
    rw [hread, up, denotes_unsigned_iff (by simpa) (by simpa)]
    simp

/-- The written form of an integer denotes it. -/
lemma denotes_toString (n : Int) : Denotes (toString n).toList n := by
  have hdigits (k : Nat) : ∀ d ∈ Nat.toDigits 10 k, d.isDigit = true :=
    fun _ => Nat.isDigit_of_mem_toDigits (by decide) (by decide)
  cases n with
  | ofNat k =>
    have htext : (toString (Int.ofNat k)).toList = Nat.toDigits 10 k := Nat.toList_repr
    have h := Denotes.unsigned Nat.toDigits_ne_nil (hdigits k)
    rw [Nat.ofDigitChars_ten_toDigits] at h
    exact htext ▸ h
  | negSucc k =>
    have htext : (toString (Int.negSucc k)).toList = '-' :: Nat.toDigits 10 (k + 1) := by
      have hrepr : toString (Int.negSucc k) = "-" ++ Nat.repr (k + 1) := rfl
      rw [hrepr, String.toList_append, Nat.toList_repr]
      rfl
    have h := Denotes.minus Nat.toDigits_ne_nil (hdigits (k + 1))
    rw [Nat.ofDigitChars_ten_toDigits] at h
    exact htext ▸ h

end Hostcall.Numeral

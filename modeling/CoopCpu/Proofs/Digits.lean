import CoopCpu.Text.Numeral.Grammar
import Mathlib.Tactic.Ring
/-!
# Proofs.Digits — digits and the numbers they stand for

A character is taken as a digit exactly if it is one (`Numeral.isDigit_of_digit?`, `digit?_of_isDigit`).  Digits that follow
others make one number with these (`Continues`), and each of them is read into the number so far: `extend_eq_ok_iff` says
when a number comes of it and `extend_eq_overflow_iff` when the digits become too many.
-/
namespace CoopCpu
namespace Numeral

variable {radix n v d : Nat} {c : Char} {cs : List Char}

/-! ## Single digits -/

theorem digit?_filter {bound : Nat} (h : radix ≤ bound) (c : Char) :
    digit? radix c = (digit? bound c).filter (· < radix) := by
  have both : (fun d => decide (d < bound) && decide (d < radix)) = fun d => decide (d < radix) := by
    funext d
    grind
  unfold digit?
  simp only [Option.filter_filter, both]

theorem digit?_letters : ∀ d < 36, digit? 36 (Hex.lowerDigit d) = some d ∧ digit? 36 (Hex.upperDigit d) = some d := by
  decide

theorem eq_ofNat_of_le {first : Nat} (h : first ≤ c.toNat) : c = Char.ofNat (first + (c.toNat - first)) := by
  rw [Nat.add_sub_cancel' h, Char.ofNat_toNat]

theorem isDigit_of_digit? (h : digit? radix c = some d) : IsDigit radix c d := by
  unfold digit? at h
  obtain ⟨value, small⟩ := Option.filter_eq_some_iff.1 h
  refine ⟨of_decide_eq_true small, ?_⟩
  unfold Hex.lowerDigit Hex.upperDigit
  -- the ranges of `digit?` are those of the decimal, the small and the large digits
  split at value
  · next range =>
    cases value
    have low : 48 ≤ c.toNat := range.1
    have high : c.toNat ≤ 57 := range.2
    left
    rw [if_pos (by omega)]
    exact eq_ofNat_of_le low
  · split at value
    · next range =>
      cases value
      have low : 97 ≤ c.toNat := range.1
      left
      rw [if_neg (by omega)]
      exact eq_ofNat_of_le (Nat.le_trans (by decide) low)
    · split at value
      · next range =>
        cases value
        have low : 65 ≤ c.toNat := range.1
        right
        rw [if_neg (by omega)]
        exact eq_ofNat_of_le (Nat.le_trans (by decide) low)
      · cases value

theorem digit?_of_isDigit (few : radix ≤ 36) (h : IsDigit radix c d) : digit? radix c = some d := by
  obtain ⟨small, hc⟩ := h
  obtain ⟨lower, upper⟩ := digit?_letters d (Nat.lt_of_lt_of_le small few)
  have value : digit? 36 c = some d := by
    rcases hc with rfl | rfl
    · exact lower
    · exact upper
  rw [digit?_filter few, value]
  exact if_pos (decide_eq_true small)

theorem IsDigit.unique {d' : Nat} (few : radix ≤ 36) (h : IsDigit radix c d) (h' : IsDigit radix c d') : d = d' :=
  Option.some.inj ((digit?_of_isDigit few h).symm.trans (digit?_of_isDigit few h'))

/-! ## Several digits -/

theorem denotes_nil_iff : Denotes radix [] n ↔ n = 0 := by
  constructor
  · rintro ⟨ds, hds, rfl⟩
    cases hds
    rfl
  · rintro rfl
    exact ⟨[], .nil, rfl⟩

theorem denotes_cons_iff : Denotes radix (c :: cs) n ↔
    ∃ d m, IsDigit radix c d ∧ Denotes radix cs m ∧ n = d * radix ^ cs.length + m := by
  constructor
  · rintro ⟨ds, hds, rfl⟩
    cases hds with
    | @cons _ d _ ds first rest =>
      refine ⟨d, _, first, ⟨ds, rest, rfl⟩, ?_⟩
      rw [Nat.ofDigits_reverse_cons, rest.length_eq, Nat.add_comm, Nat.mul_comm]
  · rintro ⟨d, _, first, ⟨ds, rest, rfl⟩, rfl⟩
    refine ⟨d :: ds, .cons first rest, ?_⟩
    rw [Nat.ofDigits_reverse_cons, rest.length_eq, Nat.add_comm, Nat.mul_comm]

/-- **Digits stand for one number.** -/
theorem Denotes.unique {m : Nat} (few : radix ≤ 36) (h : Denotes radix cs n) (h' : Denotes radix cs m) : n = m := by
  induction cs generalizing n m with
  | nil => rw [denotes_nil_iff.1 h, denotes_nil_iff.1 h']
  | cons c cs ih =>
    obtain ⟨d, v, digit, rest, rfl⟩ := denotes_cons_iff.1 h
    obtain ⟨d', v', digit', rest', rfl⟩ := denotes_cons_iff.1 h'
    rw [digit.unique few digit', ih rest rest']

/-- **Digits one after another** stand for the sum of both, the first ones moved to the left. -/
theorem Denotes.append {m : Nat} {later : List Char} (h : Denotes radix cs m) (hlater : Denotes radix later n) :
    Denotes radix (cs ++ later) (m * radix ^ later.length + n) := by
  obtain ⟨ds, hds, rfl⟩ := h
  obtain ⟨es, hes, rfl⟩ := hlater
  refine ⟨ds ++ es, List.rel_append hds hes, ?_⟩
  rw [List.reverse_append, Nat.ofDigits_append, List.length_reverse, hes.length_eq, Nat.add_comm, Nat.mul_comm]

theorem denotes_singleton (h : IsDigit radix c d) : Denotes radix [c] d :=
  denotes_cons_iff.2 ⟨d, 0, h, denotes_nil_iff.2 rfl, by simp⟩

/-- Digits that come after others which stand for `n` make the number `v` of it. -/
def Continues (radix n : Nat) (cs : List Char) (v : Nat) : Prop := ∃ m, Denotes radix cs m ∧ v = n * radix ^ cs.length + m

theorem continues_zero_iff : Continues radix 0 cs v ↔ Denotes radix cs v := by
  unfold Continues
  simp

theorem continues_nil_iff : Continues radix n [] v ↔ v = n := by
  unfold Continues
  simp [denotes_nil_iff]

/-- **The next digit is added**, and the number so far moves one place to the left. -/
theorem continues_cons_iff (few : radix ≤ 36) (digit : IsDigit radix c d) :
    Continues radix n (c :: cs) v ↔ Continues radix (n * radix + d) cs v := by
  have moved (m : Nat) : n * radix ^ (cs.length + 1) + (d * radix ^ cs.length + m) =
      (n * radix + d) * radix ^ cs.length + m := by ring
  constructor
  · rintro ⟨_, hm, rfl⟩
    obtain ⟨d', m, digit', rest, rfl⟩ := denotes_cons_iff.1 hm
    obtain rfl : d = d' := digit.unique few digit'
    exact ⟨m, rest, moved m⟩
  · rintro ⟨m, rest, rfl⟩
    exact ⟨_, denotes_cons_iff.2 ⟨d, m, digit, rest, rfl⟩, (moved m).symm⟩

theorem not_continues_cons (stray : ∀ d, ¬ IsDigit radix c d) : ¬ Continues radix n (c :: cs) v := by
  rintro ⟨m, hm, -⟩
  obtain ⟨d, -, digit, -, -⟩ := denotes_cons_iff.1 hm
  exact stray d digit

theorem Continues.le (positive : 0 < radix) (h : Continues radix n cs v) : n ≤ v := by
  obtain ⟨m, -, rfl⟩ := h
  exact Nat.le_add_right_of_le (Nat.le_mul_of_pos_right n (Nat.pow_pos positive))

/-! ## Reading digits -/

theorem extend_of_digit (few : radix ≤ 36) (digit : IsDigit radix c d) : extend radix n (c :: cs) =
    if n * radix + d < limit then extend radix (n * radix + d) cs else .error .overflow := by
  rw [extend, digit?_of_isDigit few digit]

theorem extend_of_stray (stray : ∀ d, ¬ IsDigit radix c d) : extend radix n (c :: cs) = .error .invalidDigit := by
  have none : digit? radix c = none := Option.eq_none_iff_forall_ne_some.2 fun d h => stray d (isDigit_of_digit? h)
  rw [extend, none]

theorem extend_ne_empty : ∀ (n : Nat) (cs : List Char), extend radix n cs ≠ .error .empty
  | _, [], h => by cases h
  | n, c :: cs, h => by
    unfold extend at h
    split at h
    · cases h
    · split at h
      · exact extend_ne_empty _ cs h
      · cases h

/-- **Digits are read as the number that they make**, if it is below the limit. -/
theorem extend_eq_ok_iff (few : radix ≤ 36) : ∀ {cs : List Char} {n : Nat}, n < limit →
    (extend radix n cs = .ok v ↔ v < limit ∧ Continues radix n cs v)
  | [], n, small => by
    rw [continues_nil_iff, extend, Except.ok.injEq]
    exact ⟨fun h => ⟨h ▸ small, h.symm⟩, fun h => h.2.symm⟩
  | c :: cs, n, _ => by
    by_cases digit : ∃ d, IsDigit radix c d
    · obtain ⟨d, digit⟩ := digit
      rw [extend_of_digit few digit, continues_cons_iff few digit]
      by_cases small : n * radix + d < limit
      · rw [if_pos small]
        exact extend_eq_ok_iff few small
      · rw [if_neg small]
        refine ⟨fun h => (by cases h), fun ⟨below, h⟩ => ?_⟩
        have := h.le (Nat.zero_lt_of_lt digit.1)
        exact absurd (Nat.lt_of_le_of_lt this below) small
    · rw [not_exists] at digit
      rw [extend_of_stray digit]
      exact ⟨fun h => (by cases h), fun h => absurd h.2 (not_continues_cons digit)⟩

/-- **Digits are too many as soon as the first of them make a number beyond the limit**, whatever follows. -/
theorem extend_eq_overflow_iff (few : radix ≤ 36) : ∀ {cs : List Char} {n : Nat}, n < limit →
    (extend radix n cs = .error .overflow ↔
      ∃ digits rest v, cs = digits ++ rest ∧ Continues radix n digits v ∧ limit ≤ v)
  | [], n, small => by
    refine ⟨fun h => (by cases h), ?_⟩
    rintro ⟨digits, rest, v, split, h, beyond⟩
    obtain ⟨rfl, -⟩ := List.append_eq_nil_iff.1 split.symm
    rw [continues_nil_iff.1 h] at beyond
    exact absurd small (Nat.not_lt.2 beyond)
  | c :: cs, n, below => by
    -- the first digit is among those that are too many, as there are too few before it
    have first : (∃ digits rest v, c :: cs = digits ++ rest ∧ Continues radix n digits v ∧ limit ≤ v) ↔
        ∃ digits rest v, cs = digits ++ rest ∧ Continues radix n (c :: digits) v ∧ limit ≤ v := by
      constructor
      · rintro ⟨digits, rest, v, split, h, beyond⟩
        cases digits with
        | nil =>
          rw [continues_nil_iff.1 h] at beyond
          exact absurd below (Nat.not_lt.2 beyond)
        | cons d digits =>
          obtain ⟨rfl, rfl⟩ := List.cons.inj split
          exact ⟨digits, rest, v, rfl, h, beyond⟩
      · rintro ⟨digits, rest, v, rfl, h, beyond⟩
        exact ⟨c :: digits, rest, v, rfl, h, beyond⟩
    rw [first]
    by_cases digit : ∃ d, IsDigit radix c d
    · obtain ⟨d, digit⟩ := digit
      simp only [extend_of_digit few digit, continues_cons_iff few digit]
      by_cases small : n * radix + d < limit
      · rw [if_pos small]
        exact extend_eq_overflow_iff few small
      · rw [if_neg small]
        exact ⟨fun _ => ⟨[], cs, _, rfl, continues_nil_iff.2 rfl, Nat.le_of_not_lt small⟩, fun _ => rfl⟩
    · rw [not_exists] at digit
      rw [extend_of_stray digit]
      exact ⟨fun h => (by cases h), fun ⟨_, _, _, _, h, _⟩ => absurd h (not_continues_cons digit)⟩

end Numeral
end CoopCpu

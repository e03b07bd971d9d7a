import CoopCpu.Proofs.Digits
import Mathlib.Data.List.TakeWhile
/-!
# Proofs.Numerals — texts are read by the grammar of numbers, and numbers that are written are read back

What is left of a text between blanks is a number, or has the first flaw that a reader meets, as the grammar has it
(`Numeral.reads_parse`).  A number that is written in one of the usual ways is spelled by the grammar (`spells_of_renders`),
and so it is read back, with any blanks around it (`parse_of_spells`); numbers that look alike are equal (`Hex.number_inj`),
and a dump of bytes shows just these (`Hex.pairs_dump_iff`).
-/
namespace CoopCpu

namespace Text

theorem dropWhile_of_head {p : Char → Bool} {cs : List Char} (h : ∀ c ∈ cs.head?, p c = false) : cs.dropWhile p = cs := by
  cases cs with
  | nil => rfl
  | cons c cs => exact List.dropWhile_cons_of_neg (by rw [h c rfl]; exact Bool.false_ne_true)

theorem head_dropWhile {p : Char → Bool} {cs : List Char} {c : Char} (h : c ∈ (cs.dropWhile p).head?) : p c = false := by
  have first := List.head?_dropWhile_not p cs
  rw [h] at first
  exact first

/-- **Trimming leaves the core of a text.** -/
theorem trims_trim (cs : List Char) : Trims cs (trim cs) := by
  have front : cs.takeWhile isBlank ++ cs.dropWhile isBlank = cs := List.takeWhile_append_dropWhile
  have back : trim cs ++ ((cs.dropWhile isBlank).reverse.takeWhile isBlank).reverse = cs.dropWhile isBlank := by
    unfold trim
    rw [← List.reverse_append, List.takeWhile_append_dropWhile, List.reverse_reverse]
  refine ⟨⟨cs.takeWhile isBlank, ((cs.dropWhile isBlank).reverse.takeWhile isBlank).reverse, ?_, fun c hc => ?_⟩,
    fun c hc => ?_, fun c hc => ?_⟩
  · rw [List.append_assoc, back, front]
  · rcases List.mem_append.1 hc with hc | hc
    · exact List.all_eq_true.1 List.all_takeWhile c hc
    · exact List.all_eq_true.1 List.all_takeWhile c (List.mem_reverse.1 hc)
  · have first : c ∈ (cs.dropWhile isBlank).head? := by
      rw [← back, List.head?_append, hc]
      rfl
    exact head_dropWhile first
  · unfold trim at hc
    rw [List.getLast?_reverse] at hc
    exact head_dropWhile hc

theorem trim_of_trims {cs core : List Char} (h : Trims cs core) : trim cs = core := by
  obtain ⟨⟨before, after, rfl, blank⟩, first, last⟩ := h
  have hbefore : ∀ c ∈ before, isBlank c = true := fun c hc => blank c (List.mem_append_left _ hc)
  have hafter : ∀ c ∈ after, isBlank c = true := fun c hc => blank c (List.mem_append_right _ hc)
  unfold trim
  rw [List.append_assoc, List.dropWhile_append_of_pos hbefore]
  cases core with
  | nil =>
    rw [List.nil_append, List.dropWhile_eq_nil_iff.2 hafter]
    rfl
  | cons c core =>
    have hfirst : ∀ d ∈ (c :: core ++ after).head?, isBlank d = false := first
    have hlast : ∀ d ∈ (c :: core).reverse.head?, isBlank d = false := by
      rw [List.head?_reverse]
      exact last
    rw [dropWhile_of_head hfirst, List.reverse_append,
      List.dropWhile_append_of_pos fun d hd => hafter d (List.mem_reverse.1 hd), dropWhile_of_head hlast,
      List.reverse_reverse]

end Text

namespace Hex

theorem toList_number (least n : Nat) :
    (number least n).toList = '0' :: 'x' :: fixed upperDigit (max least (digitCount n)) n := by
  unfold number
  simp

theorem mem_fixed {digit : Nat → Char} {c : Char} : ∀ {count n : Nat}, c ∈ fixed digit count n → ∃ d < 16, c = digit d
  | count + 1, n, h => by
    rcases List.mem_append.1 h with h | h
    · exact mem_fixed h
    · exact ⟨n % 16, Nat.mod_lt n (by decide), List.mem_singleton.1 h⟩

theorem lt_of_digitCount (n : Nat) : n < 16 ^ digitCount n := by
  have h : n < 2 ^ (n.log2 + 1) := Nat.lt_log2_self
  have hpow : 16 ^ digitCount n = 2 ^ (4 * (n.log2 / 4 + 1)) := by
    unfold digitCount
    rw [Nat.pow_mul]
  rw [hpow]
  exact Nat.lt_of_lt_of_le h (Nat.pow_le_pow_right (by decide) (by omega))

theorem digitCount_le {n count : Nat} (positive : 0 < count) (h : n < 16 ^ count) : digitCount n ≤ count := by
  unfold digitCount
  by_cases hn : n = 0
  · rw [hn]
    exact positive
  · have hpow : 16 ^ count = 2 ^ (4 * count) := by rw [Nat.pow_mul]
    have hlog : n.log2 < 4 * count := (Nat.log2_lt hn).2 (hpow ▸ h)
    omega

end Hex

namespace Numeral

variable {radix n v d : Nat} {c : Char} {cs : List Char}

/-! ## Sign and digits -/

theorem not_isDigit_plus (d : Nat) (few : radix ≤ 36) : ¬ IsDigit radix '+' d := by
  intro h
  have := digit?_of_isDigit few h
  simp [digit?] at this

theorem ofDigits_of_digit (few : radix ≤ 36) (digit : IsDigit radix c d) (cs : List Char) :
    ofDigits radix (c :: cs) = extend radix 0 (c :: cs) := by
  have sign : c ≠ '+' := by
    rintro rfl
    exact not_isDigit_plus d few digit
  unfold ofDigits
  split
  · next h => cases h
  · next h => cases h; exact absurd rfl sign
  · next h => cases h; exact absurd rfl sign
  · rfl

/-- **A sign before digits changes nothing.** -/
theorem ofDigits_of_signed {body : List Char} (few : radix ≤ 36) (digit : IsDigit radix c d)
    (h : Signed (c :: cs) body) : ofDigits radix body = extend radix 0 (c :: cs) := by
  rcases h with rfl | rfl
  · exact ofDigits_of_digit few digit cs
  · rfl

/-- What is read after sign or no sign are digits or is refused at once. -/
theorem ofDigits_cases (radix : Nat) (body : List Char) : body = [] ∧ ofDigits radix body = .error .empty ∨
    body = ['+'] ∧ ofDigits radix body = .error .invalidDigit ∨
    ∃ digits, digits ≠ [] ∧ Signed digits body ∧ ofDigits radix body = extend radix 0 digits := by
  unfold ofDigits
  split
  · exact .inl ⟨rfl, rfl⟩
  · exact .inr (.inl ⟨rfl, rfl⟩)
  · next digits single => exact .inr (.inr ⟨digits, fun h => single (h ▸ rfl), .inr rfl, rfl⟩)
  · next nonempty _ _ => exact .inr (.inr ⟨body, nonempty, .inl rfl, rfl⟩)

theorem ofDigits_eq_empty_iff {body : List Char} : ofDigits radix body = .error .empty ↔ body = [] := by
  constructor
  · intro h
    rcases ofDigits_cases radix body with ⟨empty, -⟩ | ⟨-, invalid⟩ | ⟨digits, -, -, read⟩
    · exact empty
    · rw [invalid] at h
      cases h
    · rw [read] at h
      exact absurd h (extend_ne_empty 0 digits)
  · rintro rfl
    rfl

theorem ofDigits_eq_ok_iff (few : radix ≤ 36) {body : List Char} : ofDigits radix body = .ok v ↔
    v < limit ∧ Makes v radix body := by
  constructor
  · intro h
    rcases ofDigits_cases radix body with ⟨-, empty⟩ | ⟨-, invalid⟩ | ⟨digits, some, signed, read⟩
    · rw [empty] at h
      cases h
    · rw [invalid] at h
      cases h
    · rw [read, extend_eq_ok_iff few (by decide), continues_zero_iff] at h
      exact ⟨h.1, digits, some, signed, h.2⟩
  · rintro ⟨small, digits, some, signed, h⟩
    obtain ⟨c, cs, rfl⟩ := List.exists_cons_of_ne_nil some
    obtain ⟨d, -, digit, -, -⟩ := denotes_cons_iff.1 h
    rw [ofDigits_of_signed few digit signed, extend_eq_ok_iff few (by decide), continues_zero_iff]
    exact ⟨small, h⟩

theorem ofDigits_eq_overflow_iff (few : radix ≤ 36) {body : List Char} :
    ofDigits radix body = .error .overflow ↔ Overflows radix body := by
  constructor
  · intro h
    rcases ofDigits_cases radix body with ⟨-, empty⟩ | ⟨-, invalid⟩ | ⟨digits, -, signed, read⟩
    · rw [empty] at h
      cases h
    · rw [invalid] at h
      cases h
    · rw [read, extend_eq_overflow_iff few (by decide)] at h
      obtain ⟨digits, rest, v, rfl, h, beyond⟩ := h
      exact ⟨digits, rest, v, signed, continues_zero_iff.1 h, beyond⟩
  · rintro ⟨digits, rest, v, signed, h, beyond⟩
    cases digits with
    | nil =>
      rw [denotes_nil_iff.1 h] at beyond
      exact absurd beyond (by decide)
    | cons c cs =>
      obtain ⟨d, -, digit, -, -⟩ := denotes_cons_iff.1 h
      rw [ofDigits_of_signed few digit signed, extend_eq_overflow_iff few (by decide)]
      exact ⟨c :: cs, rest, v, rfl, continues_zero_iff.2 h, beyond⟩

/-! ## Announcements -/

theorem Announces.few {opening : List Char} (h : Announces opening radix) : radix ≤ 36 := by
  cases h <;> decide

/-- The text begins with an announcement of hexadecimal digits. -/
def Hexadecimal (cs : List Char) : Prop := ∃ x rest, (x = 'x' ∨ x = 'X') ∧ cs = '0' :: x :: rest

theorem parse_announced (text : String) : ∃ opening radix body, Announces opening radix ∧
    Text.trim text.toList = opening ++ body ∧ (opening = [] → ¬ Hexadecimal body) ∧ parse text = ofDigits radix body := by
  unfold parse
  split
  · next body h => exact ⟨_, 16, body, .small, h, fun h => (by cases h), rfl⟩
  · next body h => exact ⟨_, 16, body, .large, h, fun h => (by cases h), rfl⟩
  · next small large =>
    refine ⟨[], 10, _, .nothing, rfl, ?_, rfl⟩
    rintro - ⟨x, rest, rfl | rfl, h⟩
    · exact small rest h
    · exact large rest h

theorem not_isDigit_x {x : Char} (hx : x = 'x' ∨ x = 'X') (d : Nat) : ¬ IsDigit 10 x d := by
  intro h
  have digit := digit?_of_isDigit (by decide) h
  rcases hx with rfl | rfl <;> simp only [digit?] at digit <;> cases digit

/-- **A text is announced in one way only**, as no decimal number is one with `0x` at its beginning. -/
theorem announced_iff (kind : Nat → List Char → Prop) (decimal : ∀ body, Hexadecimal body → ¬ kind 10 body)
    {opening body : List Char} (announced : Announces opening radix) (greedy : opening = [] → ¬ Hexadecimal body) :
    Announced kind (opening ++ body) ↔ kind radix body := by
  constructor
  · rintro ⟨opening', radix', body', announced', same, h⟩
    cases announced with
    | nothing =>
      have plain := greedy rfl
      cases announced' with
      | nothing =>
        cases same
        exact h
      | small => exact absurd ⟨'x', body', .inl rfl, same⟩ plain
      | large => exact absurd ⟨'X', body', .inr rfl, same⟩ plain
    | small =>
      cases announced' with
      | nothing => exact absurd h (decimal body' ⟨'x', body, .inl rfl, same.symm⟩)
      | small =>
        cases same
        exact h
      | large => cases same
    | large =>
      cases announced' with
      | nothing => exact absurd h (decimal body' ⟨'X', body, .inr rfl, same.symm⟩)
      | small => cases same
      | large =>
        cases same
        exact h
  · exact fun h => ⟨opening, radix, body, announced, rfl, h⟩

/-- Of a text that begins with `0x`, no more than the zero is a decimal number. -/
theorem decimal_of_hexadecimal {body digits rest : List Char} (hexadecimal : Hexadecimal body)
    (signed : Signed (digits ++ rest) body) (h : Denotes 10 digits n) : n = 0 ∧ rest ≠ [] := by
  obtain ⟨x, cs, hx, rfl⟩ := hexadecimal
  have same : digits ++ rest = '0' :: x :: cs := by
    rcases signed with h | h
    · exact h.symm
    · cases h
  match digits, same, h with
  | [], same, h =>
    rw [List.nil_append] at same
    exact ⟨denotes_nil_iff.1 h, same ▸ List.cons_ne_nil _ _⟩
  | [c], same, h =>
    obtain ⟨rfl, rfl⟩ := List.cons.inj same
    obtain ⟨d, m, digit, hm, rfl⟩ := denotes_cons_iff.1 h
    have zero : d = 0 := digit.unique (by decide) ⟨by decide, .inl rfl⟩
    rw [zero, denotes_nil_iff.1 hm]
    exact ⟨rfl, List.cons_ne_nil _ _⟩
  | c :: y :: digits, same, h =>
    obtain ⟨-, same⟩ := List.cons.inj same
    obtain ⟨rfl, -⟩ := List.cons.inj same
    obtain ⟨-, m, -, hm, -⟩ := denotes_cons_iff.1 h
    obtain ⟨d, -, digit, -, -⟩ := denotes_cons_iff.1 hm
    exact absurd digit (not_isDigit_x hx d)

theorem not_makes_of_hexadecimal (body : List Char) (hexadecimal : Hexadecimal body) : ¬ Makes n 10 body := by
  rintro ⟨digits, -, signed, h⟩
  rw [← List.append_nil digits] at signed
  exact (decimal_of_hexadecimal hexadecimal signed h).2 rfl

theorem not_overflows_of_hexadecimal (body : List Char) (hexadecimal : Hexadecimal body) : ¬ Overflows 10 body := by
  rintro ⟨digits, rest, n, signed, h, beyond⟩
  rw [(decimal_of_hexadecimal hexadecimal signed h).1] at beyond
  exact absurd beyond (by decide)

/-- A digit is invalid in all texts that are neither numbers nor empty nor too large. -/
theorem reads_of_others {outcome : Except Flaw Nat} (number : ∀ n, outcome = .ok n ↔ n < limit ∧ Spells cs n)
    (empty : outcome = .error .empty ↔ Bare cs) (overflow : outcome = .error .overflow ↔ Exceeds cs) :
    Reads cs outcome := by
  refine ⟨number, empty, overflow, ?_⟩
  rw [← empty, ← overflow]
  constructor
  · rintro rfl
    exact ⟨fun n small spelled => (nomatch (number n).2 ⟨small, spelled⟩), nofun, nofun⟩
  · rintro ⟨unspelled, notEmpty, notOverflow⟩
    match outcome with
    | .ok n =>
      obtain ⟨small, spelled⟩ := (number n).1 rfl
      exact absurd spelled (unspelled n small)
    | .error .empty => exact absurd rfl notEmpty
    | .error .invalidDigit => rfl
    | .error .overflow => exact absurd rfl notOverflow

/-- **A text is read by the grammar.** -/
theorem reads_parse (text : String) : Reads (Text.trim text.toList) (parse text) := by
  obtain ⟨opening, radix, body, announced, htrim, greedy, hparse⟩ := parse_announced text
  rw [htrim, hparse]
  refine reads_of_others (fun n => ?_) ?_ ?_
  · unfold Spells
    rw [announced_iff (Makes n) not_makes_of_hexadecimal announced greedy]
    exact ofDigits_eq_ok_iff announced.few
  · have filled (body : List Char) (hexadecimal : Hexadecimal body) : body ≠ [] := by
      obtain ⟨x, rest, -, rfl⟩ := hexadecimal
      exact List.cons_ne_nil _ _
    unfold Bare
    rw [announced_iff (fun _ body => body = []) filled announced greedy]
    exact ofDigits_eq_empty_iff
  · unfold Exceeds
    rw [announced_iff Overflows not_overflows_of_hexadecimal announced greedy]
    exact ofDigits_eq_overflow_iff announced.few

/-- Digits that are too many are reported before a bad one that comes after them, and after a bad one that comes with them. -/
example : parse "18446744073709551616z" = .error .overflow ∧ parse "1844674407370955161z" = .error .invalidDigit := by decide

/-! ## What is written -/

theorem isDigit_letters {digit : Nat → Char} (letters : digit = Hex.lowerDigit ∨ digit = Hex.upperDigit) {d : Nat}
    (small : d < radix) : IsDigit radix (digit d) d := by
  rcases letters with rfl | rfl
  · exact ⟨small, .inl rfl⟩
  · exact ⟨small, .inr rfl⟩

/-- **Hexadecimal digits of a number** stand for it, if they are enough. -/
theorem denotes_fixed {digit : Nat → Char} (letters : digit = Hex.lowerDigit ∨ digit = Hex.upperDigit) :
    ∀ {count v : Nat}, v < 16 ^ count → Denotes 16 (Hex.fixed digit count v) v
  | 0, v, enough => by
    obtain rfl : v = 0 := by simpa using enough
    exact denotes_nil_iff.2 rfl
  | count + 1, v, enough => by
    have earlier : Denotes 16 (Hex.fixed digit count (v / 16)) (v / 16) := denotes_fixed letters (by
      rw [Nat.pow_succ] at enough
      omega)
    have last := denotes_singleton (isDigit_letters letters (Nat.mod_lt v (show 16 > 0 by decide)))
    have whole := earlier.append last
    rwa [List.length_singleton, Nat.pow_one, Nat.div_add_mod'] at whole

theorem digitChar_eq : ∀ d < 10, Nat.digitChar d = Hex.lowerDigit d := by decide

theorem denotes_toDigits (v : Nat) : Denotes 10 (Nat.toDigits 10 v) v := by
  induction v using Nat.strong_induction_on with
  | _ v ih =>
    rw [Nat.toDigits_eq_if (by decide)]
    have last := Nat.mod_lt v (show 10 > 0 by decide)
    by_cases small : v < 10
    · rw [if_pos small, digitChar_eq v small]
      exact denotes_singleton (isDigit_letters (.inl rfl) small)
    · rw [if_neg small, digitChar_eq _ last]
      have whole := (ih (v / 10) (by omega)).append (denotes_singleton (isDigit_letters (.inl rfl) last))
      rwa [List.length_singleton, Nat.pow_one, Nat.div_add_mod'] at whole

theorem denotes_zeros (zeros : Nat) (positive : 0 < radix) : Denotes radix (List.replicate zeros '0') 0 := by
  induction zeros with
  | zero => exact denotes_nil_iff.2 rfl
  | succ zeros ih => exact denotes_cons_iff.2 ⟨0, 0, isDigit_letters (.inl rfl) positive, ih, by simp⟩

theorem toDigits_ne_nil (v : Nat) : Nat.toDigits 10 v ≠ [] := by
  rw [Nat.toDigits_eq_if (by decide)]
  split
  · exact List.cons_ne_nil _ _
  · exact List.append_ne_nil_of_right_ne_nil _ (List.cons_ne_nil _ _)

/-- **What is written is spelled by the grammar**, with the number that was to be written. -/
theorem spells_of_renders (h : Renders v cs) : Spells cs v := by
  cases h with
  | decimal zeros =>
    have whole := (denotes_zeros zeros (by decide)).append (denotes_toDigits v)
    rw [Nat.zero_mul, Nat.zero_add] at whole
    exact ⟨[], 10, _, .nothing, rfl, _, List.append_ne_nil_of_right_ne_nil _ (toDigits_ne_nil v), .inl rfl, whole⟩
  | @hexadecimal opening digit count announced letters positive enough =>
    refine ⟨opening, 16, _, announced, rfl, _, fun none => ?_, .inl rfl, denotes_fixed letters enough⟩
    have hlength := Hex.length_fixed digit count v
    rw [none] at hlength
    exact absurd hlength (Nat.ne_of_lt positive)

theorem letters_not_blank : ∀ d < 36, Text.isBlank (Hex.lowerDigit d) = false ∧ Text.isBlank (Hex.upperDigit d) = false := by
  decide

theorem Denotes.not_blank (few : radix ≤ 36) (h : Denotes radix cs v) : ∀ c ∈ cs, Text.isBlank c = false := by
  induction cs generalizing v with
  | nil => exact fun c hc => absurd hc List.not_mem_nil
  | cons c cs ih =>
    obtain ⟨d, m, ⟨small, letter⟩, rest, -⟩ := denotes_cons_iff.1 h
    obtain ⟨lower, upper⟩ := letters_not_blank d (Nat.lt_of_lt_of_le small few)
    intro c' hc'
    rcases List.mem_cons.1 hc' with rfl | hc'
    · rcases letter with rfl | rfl
      · exact lower
      · exact upper
    · exact ih rest c' hc'

theorem Announces.not_blank {opening : List Char} (h : Announces opening radix) : ∀ c ∈ opening, Text.isBlank c = false := by
  intro c hc
  cases h with
  | nothing => cases hc
  | small | large =>
    rcases List.mem_pair.1 hc with rfl | rfl <;> rfl

theorem Spells.not_blank (h : Spells cs v) : ∀ c ∈ cs, Text.isBlank c = false := by
  obtain ⟨opening, radix, body, announced, rfl, digits, -, signed, denoted⟩ := h
  have hdigits := denoted.not_blank announced.few
  intro c hc
  rcases List.mem_append.1 hc with hc | hc
  · exact announced.not_blank c hc
  · rcases signed with rfl | rfl
    · exact hdigits c hc
    · rcases List.mem_cons.1 hc with rfl | hc
      · rfl
      · exact hdigits c hc

/-- **A number is read with any blanks around it.** -/
theorem parse_of_spells {before after : List Char} (spelled : Spells cs v) (small : v < limit)
    (blank : ∀ c ∈ before ++ after, Text.isBlank c = true) : parse (String.ofList (before ++ cs ++ after)) = .ok v := by
  have core : Text.trim (String.ofList (before ++ cs ++ after)).toList = cs := by
    refine Text.trim_of_trims ⟨⟨before, after, String.toList_ofList, blank⟩, fun c hc => ?_, fun c hc => ?_⟩
    · exact spelled.not_blank c (List.mem_of_mem_head? hc)
    · exact spelled.not_blank c (List.mem_of_mem_getLast? hc)
  exact ((reads_parse _).number v).2 ⟨small, core.symm ▸ spelled⟩

/-- **A number after `0x` is read back**, however many zeros it begins with. -/
theorem parse_number (least : Nat) (small : v < limit) : parse (Hex.number least v) = .ok v := by
  have positive : 0 < max least (Hex.digitCount v) := by
    unfold Hex.digitCount
    omega
  have enough : v < 16 ^ max least (Hex.digitCount v) :=
    Nat.lt_of_lt_of_le (Hex.lt_of_digitCount v) (Nat.pow_le_pow_right (by decide) (Nat.le_max_right _ _))
  have rendered := Renders.hexadecimal .small (.inr rfl) positive enough
  have text : Hex.number least v =
      String.ofList ([] ++ (['0', 'x'] ++ Hex.fixed Hex.upperDigit (max least (Hex.digitCount v)) v) ++ []) :=
    String.toList_inj.1 (by rw [Hex.toList_number, String.toList_ofList, List.append_nil]; rfl)
  rw [text]
  exact parse_of_spells (spells_of_renders rendered) small fun c h => absurd h List.not_mem_nil

end Numeral

namespace Hex

theorem number_inj {least least' v v' : Nat} (small : v < Numeral.limit) (small' : v' < Numeral.limit)
    (h : number least v = number least' v') : v = v' := by
  have hread := Numeral.parse_number least small
  rw [h, Numeral.parse_number least' small'] at hread
  exact (Except.ok.inj hread).symm

theorem length_number {count v : Nat} (positive : 0 < count) (enough : v < 16 ^ count) :
    (number count v).toList.length = count + 2 := by
  rw [toList_number, Nat.max_eq_left (digitCount_le positive enough)]
  simp [length_fixed]

/-! ## Bytes -/

variable {bytes bytes' : List Byte}

theorem pairs_dump : ∀ bytes : List Byte, Pairs (dump bytes).toList bytes
  | [] => .nil
  | b :: bytes => by
    rw [toList_dump_cons]
    exact .cons (length_fixed lowerDigit 2 b.toNat) (Numeral.denotes_fixed (.inl rfl) b.toNat_lt) (pairs_dump bytes)

theorem Pairs.unique {cs : List Char} (h : Pairs cs bytes) (h' : Pairs cs bytes') : bytes' = bytes := by
  induction h generalizing bytes' with
  | nil =>
    generalize htext : ([] : List Char) = text at h'
    cases h' with
    | nil => rfl
    | cons two =>
      obtain ⟨rfl, -⟩ := List.append_eq_nil_iff.1 htext.symm
      cases two
  | @cons pair cs b bytes two digits others ih =>
    generalize htext : pair ++ cs = text at h'
    cases h' with
    | nil =>
      obtain ⟨rfl, -⟩ := List.append_eq_nil_iff.1 htext
      cases two
    | cons two' digits' others' =>
      obtain ⟨rfl, rfl⟩ := List.append_inj htext (two.trans two'.symm)
      rw [ih others', UInt8.toNat_inj.1 (digits'.unique (by decide) digits)]

/-- **A dump shows its bytes**, each by two digits, and no others. -/
theorem pairs_dump_iff : Pairs (dump bytes).toList bytes' ↔ bytes' = bytes :=
  ⟨(pairs_dump bytes).unique, fun h => h ▸ pairs_dump bytes⟩

end Hex
end CoopCpu

import CoopCpu.Json.Value
/-!
# Proofs.JsonText — the scanner reads what the printer writes

A compact text is the spelling of one token after another, and the scanner gets those tokens back.  Nothing marks the
end of a number but the character after it, so two numbers must not stand side by side (`Token.Spaced`); the tokens of
a tree never do.  A character that may not go on with a number ends it (`Scanner.feed_of_hasRead`), and everything a
token other than digits begins with is such a character.
-/
namespace CoopCpu
namespace Json

/-! ## The tokens of a tree -/

mutual

/-- The tokens of a tree. -/
def tokens : Json → List Token
  | .null => [.null]
  | .bool b => [.bool b]
  | .natural n => [.natural n]
  | .number => [.number]
  | .text content => [.text content]
  | .array items => .openArray :: (itemTokens items ++ [.closeArray])
  | .object members => .openObject :: (memberTokens members ++ [.closeObject])

/-- The tokens of values with commas between them. -/
def itemTokens : List Json → List Token
  | [] => []
  | [item] => item.tokens
  | item :: rest => item.tokens ++ .comma :: itemTokens rest

/-- The tokens of members with commas between them. -/
def memberTokens : List (Quoted × Json) → List Token
  | [] => []
  | [(key, value)] => .text key :: .colon :: value.tokens
  | (key, value) :: rest => .text key :: .colon :: (value.tokens ++ .comma :: memberTokens rest)

end

namespace Token

/-- The characters a token is written with. -/
def spelling : Token → List Char
  | .openArray => ['[']
  | .closeArray => [']']
  | .openObject => ['\x7b']
  | .closeObject => ['\x7d']
  | .comma => [',']
  | .colon => [':']
  | .null => ['n', 'u', 'l', 'l']
  | .bool true => ['t', 'r', 'u', 'e']
  | .bool false => ['f', 'a', 'l', 's', 'e']
  | .natural n => Nat.toDigits 10 n
  | .number => ['-', '0']
  | .text content => (quoted content).toList

def isNumeral : Token → Bool
  | .natural _ | .number => true
  | _ => false

def isNatural : Token → Bool
  | .natural _ => true
  | _ => false

/-- No digits follow a number at once; `numeral` says whether the token before the list is a number. -/
def Spaced (numeral : Bool) : List Token → Prop
  | [] => True
  | t :: rest => (numeral = true → t.isNatural = false) ∧ Spaced t.isNumeral rest

theorem Spaced.weaken {numeral : Bool} : ∀ {ts : List Token}, Spaced true ts → Spaced numeral ts
  | [], _ => trivial
  | _ :: _, h => ⟨fun _ => h.1 rfl, h.2⟩

end Token

open Token (Spaced)

mutual

theorem spaced_tokens : ∀ (j : Json) (rest : List Token), Spaced true rest → Spaced false (j.tokens ++ rest)
  | .null, _, h | .bool _, _, h | .text _, _, h => ⟨nofun, h.weaken⟩
  | .natural _, _, h | .number, _, h => ⟨nofun, h⟩
  | .array items, rest, h => by
    have hrest : Spaced true (.closeArray :: rest) := ⟨fun _ => rfl, h.weaken⟩
    have := spaced_itemTokens items _ hrest
    simpa [tokens, Spaced, Token.isNumeral] using this
  | .object members, rest, h => by
    have hrest : Spaced true (.closeObject :: rest) := ⟨fun _ => rfl, h.weaken⟩
    have := spaced_memberTokens members _ hrest
    simpa [tokens, Spaced, Token.isNumeral] using this

theorem spaced_itemTokens : ∀ (items : List Json) (rest : List Token),
    Spaced true rest → Spaced false (itemTokens items ++ rest)
  | [], _, h => h.weaken
  | [item], rest, h => spaced_tokens item rest h
  | item :: next :: more, rest, h => by
    have hrest : Spaced true (.comma :: (itemTokens (next :: more) ++ rest)) :=
      ⟨fun _ => rfl, spaced_itemTokens (next :: more) rest h⟩
    have := spaced_tokens item _ hrest
    simpa [itemTokens] using this

theorem spaced_memberTokens : ∀ (members : List (Quoted × Json)) (rest : List Token),
    Spaced true rest → Spaced false (memberTokens members ++ rest)
  | [], _, h => h.weaken
  | [(key, value)], rest, h => by
    have := spaced_tokens value rest h
    simpa [memberTokens, Spaced, Token.isNumeral] using this
  | (key, value) :: next :: more, rest, h => by
    have hrest : Spaced true (.comma :: (memberTokens (next :: more) ++ rest)) :=
      ⟨fun _ => rfl, spaced_memberTokens (next :: more) rest h⟩
    have := spaced_tokens value _ hrest
    simpa [memberTokens, Spaced, Token.isNumeral] using this

end

/-! ## The printer -/

/-- The text of some tokens, one after another. -/
def spell (ts : List Token) : List Char := ts.flatMap Token.spelling

theorem spell_append (ts us : List Token) : spell (ts ++ us) = spell ts ++ spell us := by simp [spell]

theorem spell_cons (t : Token) (ts : List Token) : spell (t :: ts) = t.spelling ++ spell ts := by simp [spell]

mutual

theorem toList_renderAfter : ∀ (j : Json) (out : String), (renderAfter out j).toList = out.toList ++ spell j.tokens
  | .null, out | .bool true, out | .bool false, out | .number, out => by
    simp [renderAfter, tokens, spell, Token.spelling]
  | .natural n, out => by
    simp [renderAfter, tokens, spell, Token.spelling, Nat.toString_eq_repr, Nat.repr_eq_ofList_toDigits]
  | .text content, out => by simp [renderAfter, tokens, spell, Token.spelling]
  | .array items, out => by
    simp [renderAfter, toList_renderItems items, tokens, spell, Token.spelling]
  | .object members, out => by
    simp [renderAfter, toList_renderMembers members, tokens, spell, Token.spelling]

theorem toList_renderItems : ∀ (items : List Json) (out : String),
    (renderItems out items).toList = out.toList ++ spell (itemTokens items)
  | [], out => by simp [renderItems, itemTokens, spell]
  | [item], out => by simp [renderItems, itemTokens, toList_renderAfter item]
  | item :: next :: more, out => by
    simp [renderItems, itemTokens, toList_renderItems (next :: more), toList_renderAfter item, spell_append, spell_cons,
      Token.spelling]

theorem toList_renderMembers : ∀ (members : List (Quoted × Json)) (out : String),
    (renderMembers out members).toList = out.toList ++ spell (memberTokens members)
  | [], out => by simp [renderMembers, memberTokens, spell]
  | [(key, value)], out => by
    simp [renderMembers, memberTokens, toList_renderAfter value, spell_cons, Token.spelling]
  | (key, value) :: next :: more, out => by
    simp [renderMembers, memberTokens, toList_renderMembers (next :: more), toList_renderAfter value, spell_append,
      spell_cons, Token.spelling]

end

/-- **The compact text of a tree spells its tokens.** -/
theorem toList_render (j : Json) : j.render.toList = spell j.tokens := by
  have := toList_renderAfter j ""
  simpa [render] using this

/-! ## The scanner -/

namespace NumberPart

/-- A number without sign, point and exponent as it is read: zero stands alone, no other number begins with it. -/
def ofNat (n : Nat) : NumberPart := if n = 0 then .zero false else .whole (some n)

theorem token?_ofNat (n : Nat) : (ofNat n).token? = some (.natural n) := by
  unfold ofNat
  split
  · subst n; rfl
  · rfl

/-- Whether only a digit, a point or an exponent may go on with the number. -/
def isInteger : NumberPart → Bool
  | .zero _ | .whole _ => true
  | _ => false

theorem isInteger_ofNat (n : Nat) : (ofNat n).isInteger = true := by
  unfold ofNat
  split <;> rfl

end NumberPart

/-- Whether a number may go on with the character. -/
def continuesInteger (c : Char) : Bool := c.isDigit || c == '.' || c == 'e' || c == 'E'

theorem NumberPart.feed_eq_none {part : NumberPart} (hp : part.isInteger = true) {c : Char}
    (hc : continuesInteger c = false) : part.feed c = none := by
  simp only [continuesInteger, Bool.or_eq_false_iff, beq_eq_false_iff_ne] at hc
  obtain ⟨⟨⟨hdigit, hpoint⟩, he⟩, hE⟩ := hc
  cases part with
  | zero => simp [feed, hpoint, he, hE]
  | whole => simp [feed, hdigit, hpoint, he, hE]
  | _ => simp [isInteger] at hp

namespace Scanner

theorem feedAll_append (s : Scanner) : ∀ xs ys : List Char,
    s.feedAll (xs ++ ys) = (s.feedAll xs).bind fun s' => s'.feedAll ys
  | [], _ => rfl
  | x :: xs, ys => by
    simp only [List.cons_append, feedAll]
    cases s.feed x with
    | none => rfl
    | some s' => exact feedAll_append s' xs ys

theorem feedAll_cons {s s' : Scanner} {c : Char} (h : s.feed c = some s') (cs : List Char) :
    s.feedAll (c :: cs) = s'.feedAll cs := by
  simp [feedAll, h]

/-- The scanner has read these tokens, the last one first, which may be a number that has not been ended. -/
inductive HasRead : List Token → Scanner → Prop
  | between (ts : List Token) : HasRead ts ⟨.between, ts⟩
  | number {part : NumberPart} {t : Token} (ts : List Token) (hp : part.isInteger = true) (ht : part.token? = some t) :
    HasRead (t :: ts) ⟨.number part, ts⟩

theorem HasRead.finish {ts : List Token} {s : Scanner} (h : HasRead ts s) : s.finish = some ts := by
  cases h with
  | between => rfl
  | number ts hp ht => simp [Scanner.finish, ht]

/-- **A character that no number goes on with is read as after a blank.** -/
theorem feed_of_hasRead {ts : List Token} {s : Scanner} (h : HasRead ts s) {c : Char}
    (hc : continuesInteger c = false) : s.feed c = feedBetween ts c := by
  cases h with
  | between => rfl
  | number ts hp ht => simp [feed, NumberPart.feed_eq_none hp hc, ht]

theorem feedAll_of_hasRead {ts : List Token} {s : Scanner} (h : HasRead ts s) {c : Char}
    (hc : continuesInteger c = false) (cs : List Char) : s.feedAll (c :: cs) = feedAll ⟨.between, ts⟩ (c :: cs) := by
  simp only [feedAll]
  rw [feed_of_hasRead h hc]
  rfl

/-! ### Digits -/

theorem feed_firstDigit (ts : List Token) : ∀ d < 10,
    feed ⟨.between, ts⟩ d.digitChar = some ⟨.number (.ofNat d), ts⟩
  | 0, _ | 1, _ | 2, _ | 3, _ | 4, _ | 5, _ | 6, _ | 7, _ | 8, _ | 9, _ => rfl
  | d + 10, hd => by omega

theorem feed_digitChar (ts : List Token) {n d : Nat} (hn : n ≠ 0) (hd : d < 10) :
    feed ⟨.number (.ofNat n), ts⟩ d.digitChar = some ⟨.number (.ofNat (n * 10 + d)), ts⟩ := by
  have hdigit : d.digitChar.isDigit = true := by simp [hd]
  have hvalue : digitValue d.digitChar = d := Nat.toNat_digitChar_sub_48_of_lt_ten hd
  have hpart : NumberPart.ofNat n = .whole (some n) := if_neg hn
  have hnext : NumberPart.ofNat (n * 10 + d) = .whole (some (n * 10 + d)) := if_neg (by omega)
  simp [feed, hpart, hnext, NumberPart.feed, hdigit, hvalue]

theorem feedAll_toDigits (ts : List Token) (n : Nat) :
    feedAll ⟨.between, ts⟩ (Nat.toDigits 10 n) = some ⟨.number (.ofNat n), ts⟩ := by
  induction n using Nat.strongRecOn with
  | ind n ih =>
    rw [Nat.toDigits_eq_if (by decide)]
    split
    · rename_i hn
      rw [feedAll_cons (feed_firstDigit ts n hn)]
      rfl
    · have hq : n / 10 ≠ 0 := by omega
      have hlast := feed_digitChar ts hq (Nat.mod_lt n (by decide : 0 < 10))
      have hn : n / 10 * 10 + n % 10 = n := by omega
      rw [hn] at hlast
      rw [feedAll_append, ih (n / 10) (by omega), Option.bind_some, feedAll_cons hlast]
      rfl

/-! ### Quoted texts -/

theorem hexValue?_hexDigit : ∀ d < 16, hexValue? (hexDigit d) = some d := by decide

/-- The escape of a control character stands for that character. -/
theorem feedAll_unitEscape (ts : List Token) {w : Writing} (hw : w.half = none) {c : Char} (hc : c.toNat < 0x20) :
    feedAll ⟨.text w, ts⟩ ['\\', 'u', '0', '0', hexDigit (c.toNat / 16), hexDigit (c.toNat % 16)] =
      some ⟨.text (w.addChar c), ts⟩ := by
  have hhigh := hexValue?_hexDigit (c.toNat / 16) (by omega)
  have hlow := hexValue?_hexDigit (c.toNat % 16) (by omega)
  have hzero : hexValue? '0' = some 0 := by decide
  have hvalue : c.toNat / 16 * 16 + c.toNat % 16 = c.toNat := by omega
  have hunit : w.addUnit c.toNat = w.addChar c := by
    have hnotHigh : Writing.isHighSurrogate c.toNat = false := by simp [Writing.isHighSurrogate]; omega
    have hnotLow : Writing.isLowSurrogate c.toNat = false := by simp [Writing.isLowSurrogate]; omega
    simp [Writing.addUnit, hw, hnotHigh, hnotLow]
  simp [feedAll, feed, hzero, hhigh, hlow, hvalue, hunit]

/-- **An escaped character is read as itself.** -/
theorem feedAll_escape (ts : List Token) {w : Writing} (hw : w.half = none) (c : Char) :
    feedAll ⟨.text w, ts⟩ (escape c) = some ⟨.text (w.addChar c), ts⟩ := by
  unfold escape
  by_cases hquote : c = '"'
  · subst hquote; rfl
  by_cases hbackslash : c = '\\'
  · subst hbackslash; rfl
  by_cases hb : c = '\x08'
  · subst hb; rfl
  by_cases hf : c = '\x0c'
  · subst hf; rfl
  by_cases hn : c = '\n'
  · subst hn; rfl
  by_cases hr : c = '\r'
  · subst hr; rfl
  by_cases ht : c = '\t'
  · subst ht; rfl
  by_cases hcontrol : c.toNat < 0x20
  · simp only [hquote, hbackslash, hb, hf, hn, hr, ht, hcontrol, if_true, if_false]
    exact feedAll_unitEscape ts hw hcontrol
  · simp [hquote, hbackslash, hb, hf, hn, hr, ht, hcontrol, feedAll, feed]

theorem feedAll_escapes (ts : List Token) : ∀ (cs : List Char) (before : List Char),
    feedAll ⟨.text ⟨before, none, false⟩, ts⟩ (cs.flatMap escape) = some ⟨.text ⟨cs.reverse ++ before, none, false⟩, ts⟩
  | [], before => rfl
  | c :: cs, before => by
    rw [List.flatMap_cons, feedAll_append, feedAll_escape ts rfl c, Option.bind_some]
    have := feedAll_escapes ts cs (c :: before)
    simpa [Writing.addChar] using this

theorem feedAll_quoted (ts : List Token) (content : Quoted) :
    feedAll ⟨.between, ts⟩ (quoted content).toList = some ⟨.between, .text content :: ts⟩ := by
  cases content with
  | none => rfl
  | some s =>
    have hopen : feed ⟨.between, ts⟩ '"' = some ⟨.text Writing.start, ts⟩ := rfl
    have hclose : feed ⟨.text ⟨s.toList.reverse, none, false⟩, ts⟩ '"' = some ⟨.between, .text (some s) :: ts⟩ := by
      simp [feed, emit, Writing.content]
    have hbody := feedAll_escapes ts s.toList []
    rw [List.append_nil] at hbody
    rw [quoted, String.toList_ofList, List.cons_append, feedAll_cons hopen, feedAll_append, Writing.start, hbody,
      Option.bind_some, feedAll_cons hclose]
    rfl

/-! ### Tokens -/

/-- What a token other than digits begins with goes on with no number. -/
theorem spelling_eq_cons : ∀ t : Token, t.isNatural = false →
    ∃ c cs, t.spelling = c :: cs ∧ continuesInteger c = false
  | .openArray, _ | .closeArray, _ | .openObject, _ | .closeObject, _ | .comma, _ | .colon, _ | .null, _
  | .bool true, _ | .bool false, _ | .number, _ | .text none, _ => ⟨_, _, rfl, by decide⟩
  | .text (some s), _ => ⟨'"', s.toList.flatMap escape ++ ['"'], by simp [Token.spelling, quoted], by decide⟩

/-- **A token is read back between two others.** -/
theorem feedAll_spelling (ts : List Token) : ∀ t : Token,
    ∃ s, feedAll ⟨.between, ts⟩ t.spelling = some s ∧ HasRead (t :: ts) s ∧ (t.isNumeral = false → s.mode = .between)
  | .openArray | .closeArray | .openObject | .closeObject | .comma | .colon | .null | .bool true | .bool false =>
    ⟨_, rfl, .between _, fun _ => rfl⟩
  | .number => ⟨_, rfl, .number ts rfl rfl, nofun⟩
  | .natural n =>
    ⟨_, feedAll_toDigits ts n, .number ts (NumberPart.isInteger_ofNat n) (NumberPart.token?_ofNat n), nofun⟩
  | .text content => ⟨_, feedAll_quoted ts content, .between _, fun _ => rfl⟩

/-- **Spaced tokens are read back one after another.** -/
theorem feedAll_spell : ∀ (us ts : List Token) (s : Scanner) (numeral : Bool), HasRead ts s →
    (numeral = false → s.mode = .between) → Spaced numeral us → ∃ s', s.feedAll (spell us) = some s' ∧
      HasRead (us.reverse ++ ts) s'
  | [], ts, s, _, hs, _, _ => ⟨s, rfl, hs⟩
  | u :: us, ts, s, numeral, hs, hmode, hspaced => by
    obtain ⟨s₁, hread, hs₁, hmode₁⟩ := feedAll_spelling ts u
    have hstart : s.feedAll u.spelling = some s₁ := by
      cases numeral with
      | false =>
        cases hs with
        | between => exact hread
        | number => cases hmode rfl
      | true =>
        obtain ⟨c, cs, hspelling, hc⟩ := spelling_eq_cons u (hspaced.1 rfl)
        rw [hspelling] at hread ⊢
        rw [feedAll_of_hasRead hs hc, hread]
    obtain ⟨s₂, hrest, hs₂⟩ := feedAll_spell us (u :: ts) s₁ u.isNumeral hs₁ hmode₁ hspaced.2
    refine ⟨s₂, ?_, by simpa using hs₂⟩
    rw [spell_cons, feedAll_append, hstart, Option.bind_some, hrest]

end Scanner

/-- **Scanning inverts spelling**, for tokens that need no blank between them. -/
theorem scan_spell {ts : List Token} (h : Spaced false ts) : Token.scan (spell ts) = some ts := by
  obtain ⟨s, hs, hread⟩ := Scanner.feedAll_spell ts [] Scanner.start false (.between []) (fun _ => rfl) h
  rw [List.append_nil] at hread
  simp [Token.scan, hs, hread.finish]

/-- **The compact text of a tree scans to its tokens.** -/
theorem scan_render (j : Json) : Token.scan j.render.toList = some j.tokens := by
  have hspaced := spaced_tokens j [] trivial
  rw [List.append_nil] at hspaced
  rw [toList_render, scan_spell hspaced]

end Json
end CoopCpu

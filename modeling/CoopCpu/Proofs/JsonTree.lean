import CoopCpu.Proofs.JsonText
/-!
# Proofs.JsonTree — the tree is built back from its tokens

Where a value may begin, the tokens of a tree come to the same as delivering the tree at once (`feedAll_tokens`).  The
containers around it stay as they are on the stack; the items and members of one container are the induction.  With the
scanner this makes `Json.parse` invert `Json.render` on every tree.
-/
namespace CoopCpu
namespace Json

namespace Builder

theorem feedAll_append (b : Builder) : ∀ ts us : List Token,
    b.feedAll (ts ++ us) = (b.feedAll ts).bind fun b' => b'.feedAll us
  | [], _ => rfl
  | t :: ts, us => by
    simp only [List.cons_append, feedAll]
    cases b.feed t with
    | none => rfl
    | some b' => exact feedAll_append b' ts us

theorem feedAll_cons {b b' : Builder} {t : Token} (h : b.feed t = some b') (ts : List Token) :
    b.feedAll (t :: ts) = b'.feedAll ts := by
  simp [feedAll, h]

theorem feedAll_single (b : Builder) (t : Token) : b.feedAll [t] = b.feed t := by
  cases h : b.feed t <;> simp [feedAll, h]

end Builder

/-- No value begins with the end of an array. -/
theorem tokens_eq_cons : ∀ j : Json, ∃ t rest, j.tokens = t :: rest ∧ t ≠ .closeArray
  | .null | .bool _ | .natural _ | .number | .text _ | .array _ | .object _ => ⟨_, _, rfl, nofun⟩

theorem itemTokens_eq_cons : ∀ items : List Json, items ≠ [] →
    ∃ t rest, itemTokens items = t :: rest ∧ t ≠ .closeArray
  | [], h => absurd rfl h
  | [item], _ => tokens_eq_cons item
  | item :: next :: more, _ => by
    obtain ⟨t, rest, htokens, ht⟩ := tokens_eq_cons item
    exact ⟨t, rest ++ .comma :: itemTokens (next :: more), by simp [itemTokens, htokens], ht⟩

theorem memberTokens_eq_cons : ∀ members : List (Quoted × Json), members ≠ [] →
    ∃ key rest, memberTokens members = .text key :: rest
  | [], h => absurd rfl h
  | [(key, _)], _ | (key, _) :: _ :: _, _ => ⟨key, _, rfl⟩

namespace Builder

/-- The first item of an array is read like any other. -/
theorem feedAll_firstItem (frames : List Frame) {items : List Json} (hne : items ≠ []) (rest : List Token) :
    (building frames .firstItem).feedAll (itemTokens items ++ rest) =
      (building frames .value).feedAll (itemTokens items ++ rest) := by
  obtain ⟨t, ts, hts, ht⟩ := itemTokens_eq_cons items hne
  rw [hts]
  simp [feedAll, feed, ht]

/-- The first member of an object is read like any other. -/
theorem feedAll_firstKey (frames : List Frame) {members : List (Quoted × Json)} (hne : members ≠ [])
    (rest : List Token) : (building frames .firstKey).feedAll (memberTokens members ++ rest) =
      (building frames .key).feedAll (memberTokens members ++ rest) := by
  obtain ⟨key, ts, hts⟩ := memberTokens_eq_cons members hne
  rw [hts]
  simp [feedAll, feed]

/-- A key and a colon: the value of the member comes next. -/
theorem feedAll_member (key : Quoted) (done : List (Quoted × Json)) (outer : List Frame) (rest : List Token) :
    (building (.object done :: outer) .key).feedAll (.text key :: .colon :: rest) =
      (building (.member done key :: outer) .value).feedAll rest := rfl

mutual

/-- **The tokens of a tree deliver it.** -/
theorem feedAll_tokens : ∀ (j : Json) (frames : List Frame),
    (building frames .value).feedAll j.tokens = deliver j frames
  | .null, frames | .bool _, frames | .natural _, frames | .number, frames | .text _, frames => by
    simp only [tokens, feedAll_single]
    rfl
  | .array items, frames => by
    have hopen : (building frames .value).feed .openArray = some (building (.array [] :: frames) .firstItem) := rfl
    simp only [tokens]
    rw [feedAll_cons hopen]
    by_cases hne : items = []
    · subst hne
      simp only [itemTokens, List.nil_append, feedAll_single]
      rfl
    · rw [feedAll_firstItem _ hne, feedAll_append, feedAll_itemTokens items hne, Option.bind_some, feedAll_single]
      simp [feed, endContainer]
  | .object members, frames => by
    have hopen : (building frames .value).feed .openObject = some (building (.object [] :: frames) .firstKey) := rfl
    simp only [tokens]
    rw [feedAll_cons hopen]
    by_cases hne : members = []
    · subst hne
      simp only [memberTokens, List.nil_append, feedAll_single]
      rfl
    · rw [feedAll_firstKey _ hne, feedAll_append, feedAll_memberTokens members hne, Option.bind_some, feedAll_single]
      simp [feed, endContainer]

/-- Items land in their array in order. -/
theorem feedAll_itemTokens : ∀ (items : List Json), items ≠ [] → ∀ (done : List Json) (outer : List Frame),
    (building (.array done :: outer) .value).feedAll (itemTokens items) =
      some (building (.array (items.reverse ++ done) :: outer) .separator)
  | [], h, _, _ => absurd rfl h
  | [item], _, done, outer => by
    simp only [itemTokens]
    rw [feedAll_tokens item]
    rfl
  | item :: next :: more, _, done, outer => by
    have hcomma : (building (.array (item :: done) :: outer) .separator).feed .comma =
      some (building (.array (item :: done) :: outer) .value) := rfl
    simp only [itemTokens]
    rw [feedAll_append, feedAll_tokens item, deliver, Option.bind_some, feedAll_cons hcomma,
      feedAll_itemTokens (next :: more) (List.cons_ne_nil _ _)]
    simp

/-- Members land in their object in order. -/
theorem feedAll_memberTokens : ∀ (members : List (Quoted × Json)), members ≠ [] →
    ∀ (done : List (Quoted × Json)) (outer : List Frame),
    (building (.object done :: outer) .key).feedAll (memberTokens members) =
      some (building (.object (members.reverse ++ done) :: outer) .separator)
  | [], h, _, _ => absurd rfl h
  | [(key, value)], _, done, outer => by
    simp only [memberTokens]
    rw [feedAll_member, feedAll_tokens value]
    rfl
  | (key, value) :: next :: more, _, done, outer => by
    have hcomma : (building (.object ((key, value) :: done) :: outer) .separator).feed .comma =
      some (building (.object ((key, value) :: done) :: outer) .key) := rfl
    simp only [memberTokens]
    rw [feedAll_member, feedAll_append, feedAll_tokens value, deliver, Option.bind_some, feedAll_cons hcomma,
      feedAll_memberTokens (next :: more) (List.cons_ne_nil _ _)]
    simp

end

end Builder

theorem ofTokens?_tokens (j : Json) : ofTokens? j.tokens = some j := by
  simp only [ofTokens?, Builder.start]
  rw [Builder.feedAll_tokens j []]
  rfl

/-- **Reading a compact text gives the tree that was written**, whatever tree it is. -/
theorem parse_render (j : Json) : parse j.render = some j := by
  simp only [parse]
  rw [scan_render j]
  exact ofTokens?_tokens j

end Json
end CoopCpu

import CoopCpu.Proofs.MemoryAccess
import CoopCpu.Proofs.Steps
/-!
# Proofs.Encoding — an instruction and its bytes

Decoding finds an instruction exactly where its encoding stands (`decode_eq_ok_iff`): each width and each layout read back
what they write, and an entry of the table has its code and its operation to itself.  So decoding looks at no byte beyond
the last operand, and an instruction has one encoding (`decode_inverts_encode`).
-/
namespace CoopCpu

/-! ## Bytes and addresses -/

theorem toNat_pair (high low : Byte) : (Byte.pair high low).toNat = high.toNat * 256 + low.toNat := by
  have hhigh : high.toNat < 256 := high.toNat_lt
  have hlow : low.toNat < 256 := low.toNat_lt
  have hor := Nat.shiftLeft_add_eq_or_of_lt (b := low.toNat) (i := 8) (by omega) high.toNat
  simp only [Nat.shiftLeft_eq, Nat.reducePow] at hor
  unfold Byte.pair
  simp only [UInt16.toNat_or, UInt16.toNat_shiftLeft, UInt8.toNat_toUInt16, UInt16.reduceToNat, Nat.reduceMod,
    Nat.shiftLeft_eq, Nat.reducePow]
  rw [Nat.mod_eq_of_lt (by omega : high.toNat * 256 < 65536), ← hor]

theorem high_pair (high low : Byte) : Address.high (Byte.pair high low) = high := by
  have hlow : low.toNat < 256 := low.toNat_lt
  have hhigh : high.toNat < 256 := high.toNat_lt
  apply UInt8.toNat_inj.1
  unfold Address.high
  rw [UInt16.toNat_toUInt8, UInt16.toNat_shiftRight, toNat_pair]
  simp only [UInt16.reduceToNat, Nat.reduceMod, Nat.shiftRight_eq_div_pow, Nat.reducePow]
  omega

theorem low_pair (high low : Byte) : Address.low (Byte.pair high low) = low := by
  have hlow : low.toNat < 256 := low.toNat_lt
  apply UInt8.toNat_inj.1
  unfold Address.low
  rw [UInt16.toNat_toUInt8, toNat_pair]
  omega

theorem toUInt16_toUInt8_of_lt {v : UInt16} (h : v < 256) : v.toUInt8.toUInt16 = v := by
  have hlt : v.toNat < 256 := UInt16.lt_iff_toNat_lt.1 h
  apply UInt16.toNat_inj.1
  rw [UInt8.toNat_toUInt16, UInt16.toNat_toUInt8, Nat.mod_eq_of_lt hlt]

theorem toUInt16_lt (b : Byte) : b.toUInt16 < 256 := by
  rw [UInt16.lt_iff_toNat_lt, UInt8.toNat_toUInt16]
  exact b.toNat_lt

/-! ## Bytes in memory -/

namespace Memory

/-- The bytes stand in memory one after another from a position on, all of them at addresses. -/
def HoldsAt (m : Memory) (position : Nat) (bytes : List Byte) : Prop :=
  ∀ k (h : k < bytes.length), position + k < addressable ∧ m.bytes[position + k]? = some bytes[k]

theorem holdsAt_nil (m : Memory) (position : Nat) : m.HoldsAt position [] := fun _ h => absurd h (Nat.not_lt_zero _)

theorem byteAt_eq_ok_iff (m : Memory) (position : Nat) (b : Byte) :
    m.byteAt position = .ok b ↔ position < addressable ∧ m.bytes[position]? = some b := by
  unfold byteAt
  by_cases h : position < addressable
  · have hnat : (UInt16.ofNat position).toNat = position := UInt16.toNat_ofNat_of_lt' h
    rw [if_pos h, read_eq_ok_iff, get?, hnat]
    exact ⟨fun hb => ⟨h, hb⟩, fun hb => hb.2⟩
  · rw [if_neg h]
    exact ⟨fun hb => (by cases hb), fun hb => absurd hb.1 h⟩

theorem byteAt_congr {m m' : Memory} {position : Nat} (h : m'.bytes[position]? = m.bytes[position]?) :
    m'.byteAt position = m.byteAt position := by
  unfold byteAt
  by_cases hlt : position < addressable
  · have hnat : (UInt16.ofNat position).toNat = position := UInt16.toNat_ofNat_of_lt' hlt
    have hget : m'.get? (UInt16.ofNat position) = m.get? (UInt16.ofNat position) := by
      unfold get?
      rw [hnat, h]
    rw [if_pos hlt, if_pos hlt]
    unfold read
    rw [hget]
  · rw [if_neg hlt, if_neg hlt]

theorem byteAt_toNat (m : Memory) (a : Address) : m.byteAt a.toNat = m.read a := by
  have hlt : a.toNat < addressable := a.toNat_lt
  unfold byteAt
  rw [if_pos hlt, UInt16.ofNat_toNat]

theorem holdsAt_cons_iff (m : Memory) (position : Nat) (b : Byte) (rest : List Byte) :
    m.HoldsAt position (b :: rest) ↔ m.byteAt position = .ok b ∧ m.HoldsAt (position + 1) rest := by
  rw [byteAt_eq_ok_iff]
  constructor
  · intro h
    refine ⟨h 0 (Nat.succ_pos _), fun k hk => ?_⟩
    rw [Nat.add_assoc, Nat.add_comm 1 k]
    exact h (k + 1) (Nat.succ_lt_succ hk)
  · rintro ⟨hb, hrest⟩ k hk
    cases k with
    | zero => exact hb
    | succ k =>
      have := hrest k (Nat.lt_of_succ_lt_succ hk)
      rwa [Nat.add_assoc, Nat.add_comm 1 k] at this

theorem holdsAt_append_iff (m : Memory) : ∀ (position : Nat) (first second : List Byte),
    m.HoldsAt position (first ++ second) ↔ m.HoldsAt position first ∧ m.HoldsAt (position + first.length) second
  | position, [], second => ⟨fun h => ⟨m.holdsAt_nil position, h⟩, fun h => h.2⟩
  | position, b :: first, second => by
    rw [List.cons_append, holdsAt_cons_iff, holdsAt_cons_iff, holdsAt_append_iff m (position + 1) first second,
      List.length_cons, and_assoc, Nat.add_assoc, Nat.add_comm 1]

end Memory

namespace Width

theorem encode_byte_iff {value : UInt16} {bytes : List Byte} :
    byte.encode value = some bytes ↔ value < 256 ∧ bytes = [value.toUInt8] := by
  show (if value < 256 then some [value.toUInt8] else none) = some bytes ↔ _
  by_cases h : value < 256
  · rw [if_pos h]
    exact ⟨fun e => ⟨h, (Option.some.inj e).symm⟩, fun e => congrArg some e.2.symm⟩
  · rw [if_neg h]
    exact ⟨fun e => (by cases e), fun e => absurd e.1 h⟩

theorem length_encode {w : Width} {value : UInt16} {bytes : List Byte} (h : w.encode value = some bytes) :
    bytes.length = w.size := by
  cases w with
  | byte =>
    obtain ⟨-, rfl⟩ := encode_byte_iff.1 h
    rfl
  | word =>
    cases h
    rfl

/-- **A width reads back what it writes**, and nothing else. -/
theorem readAt_eq_ok_iff (m : Memory) (position : Nat) (w : Width) (value : UInt16) :
    w.readAt m position = .ok value ↔ ∃ bytes, w.encode value = some bytes ∧ m.HoldsAt position bytes := by
  cases w with
  | byte =>
    constructor
    · intro h
      obtain ⟨b, hb, h⟩ := eq_ok_of_bind h
      cases h
      refine ⟨[b], encode_byte_iff.2 ⟨toUInt16_lt b, ?_⟩, (m.holdsAt_cons_iff _ _ _).2 ⟨hb, m.holdsAt_nil _⟩⟩
      rw [UInt8.toUInt8_toUInt16]
    · rintro ⟨bytes, henc, hold⟩
      obtain ⟨hlt, rfl⟩ := encode_byte_iff.1 henc
      have hb := ((m.holdsAt_cons_iff _ _ _).1 hold).1
      show (m.byteAt position >>= fun b => pure b.toUInt16) = _
      rw [hb]
      exact congrArg Except.ok (toUInt16_toUInt8_of_lt hlt)
  | word =>
    constructor
    · intro h
      obtain ⟨high, hhigh, h⟩ := eq_ok_of_bind h
      obtain ⟨low, hlow, h⟩ := eq_ok_of_bind h
      cases h
      refine ⟨[high, low], ?_, ?_⟩
      · show some [Address.high (Byte.pair high low), Address.low (Byte.pair high low)] = _
        rw [high_pair, low_pair]
      · rw [Memory.holdsAt_cons_iff, Memory.holdsAt_cons_iff]
        exact ⟨hhigh, hlow, m.holdsAt_nil _⟩
    · rintro ⟨bytes, henc, hold⟩
      cases henc
      rw [Memory.holdsAt_cons_iff, Memory.holdsAt_cons_iff] at hold
      obtain ⟨hhigh, hlow, -⟩ := hold
      show (m.byteAt position >>= fun high => m.byteAt (position + 1) >>= fun low => pure (Byte.pair high low)) = _
      rw [hhigh, hlow]
      exact congrArg Except.ok (pair_high_low value)

theorem readAt_congr {m m' : Memory} {position : Nat} : ∀ {w : Width},
    (∀ k, k < w.size → m'.byteAt (position + k) = m.byteAt (position + k)) → w.readAt m' position = w.readAt m position
  | .byte, h => by
    have hfirst : m'.byteAt position = m.byteAt position := h 0 (by decide)
    unfold readAt
    rw [hfirst]
  | .word, h => by
    have hhigh : m'.byteAt position = m.byteAt position := h 0 (by decide)
    have hlow : m'.byteAt (position + 1) = m.byteAt (position + 1) := h 1 (by decide)
    unfold readAt
    rw [hhigh, hlow]

end Width

namespace Layout

theorem encode_cons {w : Width} {rest : Layout} {value : UInt16} {values : List UInt16} {bytes : List Byte} :
    encode (w :: rest) (value :: values) = some bytes ↔
      ∃ here there, w.encode value = some here ∧ encode rest values = some there ∧ bytes = here ++ there := by
  show (w.encode value >>= fun here => encode rest values >>= fun there => some (here ++ there)) = some bytes ↔ _
  cases w.encode value with
  | none => exact ⟨fun h => (by cases h), fun ⟨_, _, h, _⟩ => (by cases h)⟩
  | some here =>
    cases encode rest values with
    | none => exact ⟨fun h => (by cases h), fun ⟨_, _, _, h, _⟩ => (by cases h)⟩
    | some there =>
      constructor
      · intro h
        exact ⟨here, there, rfl, rfl, (Option.some.inj h).symm⟩
      · rintro ⟨_, _, hhere, hthere, rfl⟩
        cases hhere
        cases hthere
        rfl

theorem length_encode : ∀ {l : Layout} {values : List UInt16} {bytes : List Byte}, l.encode values = some bytes →
    bytes.length = l.size
  | [], [], _, h => by cases h; rfl
  | [], _ :: _, _, h => by cases h
  | _ :: _, [], _, h => by cases h
  | w :: rest, value :: values, bytes, h => by
    obtain ⟨here, there, hhere, hthere, rfl⟩ := encode_cons.1 h
    rw [List.length_append, Width.length_encode hhere, length_encode hthere]
    rfl

/-- **A layout reads back what it writes**, and nothing else. -/
theorem readAt_eq_ok_iff (m : Memory) : ∀ (l : Layout) (position : Nat) (values : List UInt16),
    readAt m position l = .ok values ↔ ∃ bytes, l.encode values = some bytes ∧ m.HoldsAt position bytes
  | [], position, values => by
    constructor
    · intro h
      cases h
      exact ⟨[], rfl, m.holdsAt_nil position⟩
    · rintro ⟨bytes, henc, -⟩
      cases values with
      | nil => rfl
      | cons value values => cases henc
  | w :: rest, position, values => by
    constructor
    · intro h
      obtain ⟨value, hvalue, h⟩ := eq_ok_of_bind h
      obtain ⟨more, hmore, h⟩ := eq_ok_of_bind h
      cases h
      obtain ⟨here, hhere, holdHere⟩ := (Width.readAt_eq_ok_iff m position w value).1 hvalue
      obtain ⟨there, hthere, holdThere⟩ := (readAt_eq_ok_iff m rest _ more).1 hmore
      rw [← Width.length_encode hhere] at holdThere
      exact ⟨here ++ there, encode_cons.2 ⟨here, there, hhere, hthere, rfl⟩,
        (m.holdsAt_append_iff _ _ _).2 ⟨holdHere, holdThere⟩⟩
    · rintro ⟨bytes, henc, hold⟩
      cases values with
      | nil => cases henc
      | cons value more =>
        obtain ⟨here, there, hhere, hthere, rfl⟩ := encode_cons.1 henc
        obtain ⟨holdHere, holdThere⟩ := (m.holdsAt_append_iff _ _ _).1 hold
        rw [Width.length_encode hhere] at holdThere
        have hvalue := (Width.readAt_eq_ok_iff m position w value).2 ⟨here, hhere, holdHere⟩
        have hmore := (readAt_eq_ok_iff m rest _ more).2 ⟨there, hthere, holdThere⟩
        unfold readAt
        rw [hvalue]
        show (readAt m (position + w.size) rest >>= fun values => pure (value :: values)) = _
        rw [hmore]
        rfl

/-- There is one value for each width, and those that have a byte fit in it. -/
def Fits : Layout → List UInt16 → Prop
  | [], [] => True
  | .byte :: rest, value :: values => value < 256 ∧ Fits rest values
  | .word :: rest, _ :: values => Fits rest values
  | _, _ => False

theorem encode_isSome_iff : ∀ (l : Layout) (values : List UInt16),
    (∃ bytes, l.encode values = some bytes) ↔ l.Fits values
  | [], [] => ⟨fun _ => trivial, fun _ => ⟨[], rfl⟩⟩
  | [], _ :: _ => ⟨fun ⟨_, h⟩ => (by cases h), fun h => h.elim⟩
  | .byte :: _, [] | .word :: _, [] => ⟨fun ⟨_, h⟩ => (by cases h), fun h => h.elim⟩
  | .byte :: rest, value :: values => by
    constructor
    · rintro ⟨bytes, h⟩
      obtain ⟨here, there, hhere, hthere, -⟩ := encode_cons.1 h
      exact ⟨(Width.encode_byte_iff.1 hhere).1, (encode_isSome_iff rest values).1 ⟨there, hthere⟩⟩
    · rintro ⟨hlt, hrest⟩
      obtain ⟨there, hthere⟩ := (encode_isSome_iff rest values).2 hrest
      exact ⟨_, encode_cons.2 ⟨_, there, Width.encode_byte_iff.2 ⟨hlt, rfl⟩, hthere, rfl⟩⟩
  | .word :: rest, value :: values => by
    constructor
    · rintro ⟨bytes, h⟩
      obtain ⟨-, there, -, hthere, -⟩ := encode_cons.1 h
      exact (encode_isSome_iff rest values).1 ⟨there, hthere⟩
    · intro hrest
      obtain ⟨there, hthere⟩ := (encode_isSome_iff rest values).2 hrest
      exact ⟨_, encode_cons.2 ⟨_, there, rfl, hthere, rfl⟩⟩

/-- **Reading a layout looks at no byte outside it.** -/
theorem readAt_congr {m m' : Memory} : ∀ (l : Layout) (position : Nat),
    (∀ k, k < l.size → m'.byteAt (position + k) = m.byteAt (position + k)) → readAt m' position l = readAt m position l
  | [], _, _ => rfl
  | w :: rest, position, h => by
    have hsize : size (w :: rest) = w.size + size rest := rfl
    have hw : w.readAt m' position = w.readAt m position :=
      Width.readAt_congr fun k hk => h k (by omega)
    have hrest : readAt m' (position + w.size) rest = readAt m (position + w.size) rest :=
      readAt_congr rest _ fun k hk => by
        rw [Nat.add_assoc]
        exact h (w.size + k) (by omega)
    unfold readAt
    rw [hw, hrest]

end Layout

theorem Operation.size_le_of_mem_layouts {op : Operation} {l : Layout} (h : l ∈ op.layouts) : l.size ≤ 3 := by
  have hall : ∀ l ∈ op.layouts, l.size ≤ 3 := by cases op <;> decide
  exact hall l h

/-- **The operands of an instruction are the numbers it was built from**, if these fit a layout of its operation. -/
theorem Instruction.raw_operands_ofOperands {op : Operation} {l : Layout} {raw : List UInt16} (hl : l ∈ op.layouts)
    (h : l.Fits raw) : (ofOperands op raw).operands.map Operand.raw = raw := by
  cases op with
  | halt | yield | stop =>
    obtain rfl := List.mem_singleton.1 hl
    match raw, h with
    | [], _ => rfl
  | spawn | jump =>
    obtain rfl := List.mem_singleton.1 hl
    match raw, h with
    | [_], _ => rfl
  | jumpRegister | increment | decrement | clear | shiftLeft | shiftRight | bitNot =>
    obtain rfl := List.mem_singleton.1 hl
    match raw, h with
    | [r], ⟨hr, _⟩ => exact congrArg (fun v => [v]) (toUInt16_toUInt8_of_lt hr)
  | jumpIfZero | jumpUnlessZero | store =>
    obtain rfl := List.mem_singleton.1 hl
    match raw, h with
    | [r, a], ⟨hr, _⟩ => exact congrArg (fun v => [v, a]) (toUInt16_toUInt8_of_lt hr)
  | load =>
    obtain rfl := List.mem_singleton.1 hl
    match raw, h with
    | [a, r], ⟨hr, _⟩ => exact congrArg (fun v => [a, v]) (toUInt16_toUInt8_of_lt hr)
  | loadIndirect | move | setValue | add | subtract | bitAnd | bitOr | bitXor | compare =>
    obtain rfl := List.mem_singleton.1 hl
    match raw, h with
    | [x, y], ⟨hx, hy, _⟩ =>
      show [x.toUInt8.toUInt16, y.toUInt8.toUInt16] = [x, y]
      rw [toUInt16_toUInt8_of_lt hx, toUInt16_toUInt8_of_lt hy]
  | testAndSet =>
    have hl : l = [.byte, .byte] ∨ l = [.word, .byte] := by simpa [Operation.layouts, Operation.layout] using hl
    rcases hl with rfl | rfl
    · match raw, h with
      | [a, o], ⟨_, ho, _⟩ => exact congrArg (fun v => [a, v]) (toUInt16_toUInt8_of_lt ho)
    · match raw, h with
      | [a, o], ⟨ho, _⟩ => exact congrArg (fun v => [a, v]) (toUInt16_toUInt8_of_lt ho)

/-- The operands of an instruction fit every layout of its operation, but for the address of a test-and-set in one byte. -/
theorem Instruction.fits_iff {i : Instruction} {l : Layout} (hl : l ∈ i.operation.layouts) :
    l.Fits (i.operands.map Operand.raw) ↔
      ∀ position offset, i = .testAndSet position offset → l = [.byte, .byte] → position < 256 := by
  cases i with
  | halt | yield | stop | spawn _ | jump _ =>
    obtain rfl := List.mem_singleton.1 hl
    exact ⟨fun _ _ _ h => (by cases h), fun _ => trivial⟩
  | jumpRegister _ | increment _ | decrement _ | clear _ | shiftLeft _ | shiftRight _ | bitNot _ | jumpIfZero _ _
  | jumpUnlessZero _ _ | store _ _ | load _ _ =>
    obtain rfl := List.mem_singleton.1 hl
    exact ⟨fun _ _ _ h => (by cases h), fun _ => ⟨toUInt16_lt _, trivial⟩⟩
  | loadIndirect _ _ | move _ _ | setValue _ _ | add _ _ | subtract _ _ | bitAnd _ _ | bitOr _ _ | bitXor _ _
  | compare _ _ =>
    obtain rfl := List.mem_singleton.1 hl
    exact ⟨fun _ _ _ h => (by cases h), fun _ => ⟨toUInt16_lt _, toUInt16_lt _, trivial⟩⟩
  | testAndSet position offset =>
    have hl : l = [.byte, .byte] ∨ l = [.word, .byte] := by
      simpa [operation, Operation.layouts, Operation.layout] using hl
    rcases hl with rfl | rfl
    · constructor
      · rintro ⟨hlt, -⟩ _ _ h -
        cases h
        exact hlt
      · exact fun h => ⟨h position offset rfl rfl, toUInt16_lt _, trivial⟩
    · exact ⟨fun _ _ _ _ h => (by cases h), fun _ => ⟨toUInt16_lt _, trivial⟩⟩

/-! ## Entries -/

/-- In a list whose keys are all different, looking a key up finds the element that has it. -/
theorem find?_key_iff {α β : Type} [BEq β] [LawfulBEq β] {key : α → β} {k : β} {a : α} : ∀ {l : List α},
    (l.map key).Nodup → (l.find? (fun x => key x == k) = some a ↔ a ∈ l ∧ key a = k)
  | [], _ => ⟨fun h => (by cases h), fun h => (by cases h.1)⟩
  | x :: l, hn => by
    obtain ⟨hx, hl⟩ := List.nodup_cons.1 hn
    by_cases h : key x = k
    · rw [List.find?_cons_of_pos (by simpa using h)]
      constructor
      · intro e
        cases e
        exact ⟨List.mem_cons_self, h⟩
      · rintro ⟨ha, hk⟩
        rcases List.mem_cons.1 ha with rfl | ha
        · rfl
        · exact absurd (List.mem_map.2 ⟨a, ha, hk.trans h.symm⟩) hx
    · rw [List.find?_cons_of_neg (by simpa using h), find?_key_iff hl]
      refine and_congr_left fun hk => ⟨List.mem_cons_of_mem x, fun ha => ?_⟩
      exact (List.mem_cons.1 ha).resolve_left fun e => h (e ▸ hk)

namespace Table

variable {t : Table} {m : Memory} {a : Address} {i : Instruction} {e : Entry} {bytes : List Byte}

theorem entry?_iff {code : Byte} : t.entry? code = some e ↔ e ∈ t.entries ∧ e.code = code :=
  find?_key_iff t.codes_nodup

theorem entryFor?_iff {op : Operation} : t.entryFor? op = some e ↔ e ∈ t.entries ∧ e.operation = op :=
  find?_key_iff t.operations_nodup

theorem encode_iff : t.encode i = some bytes ↔ ∃ e operands, t.entryFor? i.operation = some e ∧
    e.layout.encode (i.operands.map Operand.raw) = some operands ∧ bytes = e.code :: operands := by
  unfold encode
  cases t.entryFor? i.operation with
  | none => exact ⟨fun h => (by cases h), fun ⟨_, _, h, _⟩ => (by cases h)⟩
  | some e =>
    show (e.layout.encode (i.operands.map Operand.raw) >>= fun operands => pure (e.code :: operands)) = some bytes ↔ _
    cases henc : e.layout.encode (i.operands.map Operand.raw) with
    | none =>
      refine ⟨fun h => (by cases h), fun ⟨_, _, he, h, _⟩ => ?_⟩
      cases he
      rw [henc] at h
      cases h
    | some operands =>
      constructor
      · intro h
        exact ⟨e, operands, rfl, henc, (Option.some.inj h).symm⟩
      · rintro ⟨_, _, he, h, rfl⟩
        cases he
        rw [henc] at h
        cases h
        rfl

theorem decode_of_entry {opcode : Byte} (hread : m.read a = .ok opcode) (hentry : t.entry? opcode = some e) :
    t.decode m a = (Layout.readAt m (a.toNat + 1) e.layout).map (Instruction.ofOperands e.operation) := by
  unfold decode
  rw [hread]
  simp only [bind, Except.bind, hentry]
  cases Layout.readAt m (a.toNat + 1) e.layout with
  | error fault => rfl
  | ok raw => rfl

theorem decode_of_unknown {opcode : Byte} (hread : m.read a = .ok opcode) (hentry : t.entry? opcode = none) :
    t.decode m a = .error (.unknownOpcode opcode a) := by
  unfold decode
  rw [hread]
  simp only [bind, Except.bind, hentry]
  rfl

theorem decode_iff : t.decode m a = .ok i ↔ ∃ opcode e raw, m.read a = .ok opcode ∧ t.entry? opcode = some e ∧
    Layout.readAt m (a.toNat + 1) e.layout = .ok raw ∧ i = Instruction.ofOperands e.operation raw := by
  constructor
  · intro h
    obtain ⟨opcode, hread, -⟩ := eq_ok_of_bind h
    cases hentry : t.entry? opcode with
    | none => rw [decode_of_unknown hread hentry] at h; cases h
    | some e =>
      rw [decode_of_entry hread hentry] at h
      cases hraw : Layout.readAt m (a.toNat + 1) e.layout with
      | error fault => rw [hraw] at h; cases h
      | ok raw =>
        rw [hraw] at h
        exact ⟨opcode, e, raw, hread, hentry, hraw, (Except.ok.inj h).symm⟩
  · rintro ⟨opcode, e, raw, hread, hentry, hraw, rfl⟩
    rw [decode_of_entry hread hentry, hraw]
    rfl

/-- **An instruction is decoded exactly where its encoding stands.** -/
theorem decode_eq_ok_iff : t.decode m a = .ok i ↔ ∃ bytes, t.encode i = some bytes ∧ m.HoldsAt a.toNat bytes := by
  rw [decode_iff]
  constructor
  · rintro ⟨opcode, e, raw, hread, hentry, hraw, rfl⟩
    obtain ⟨hmem, rfl⟩ := entry?_iff.1 hentry
    obtain ⟨operands, henc, hold⟩ := (Layout.readAt_eq_ok_iff m _ _ _).1 hraw
    have hfits := (Layout.encode_isSome_iff _ _).1 ⟨operands, henc⟩
    refine ⟨e.code :: operands, encode_iff.2 ⟨e, operands, ?_, ?_, rfl⟩, ?_⟩
    · rw [Instruction.operation_ofOperands, entryFor?_iff]
      exact ⟨hmem, rfl⟩
    · rw [Instruction.raw_operands_ofOperands e.layout_mem hfits]
      exact henc
    · rw [Memory.holdsAt_cons_iff, Memory.byteAt_toNat]
      exact ⟨hread, hold⟩
  · rintro ⟨bytes, henc, hold⟩
    obtain ⟨e, operands, hentry, hoperands, rfl⟩ := encode_iff.1 henc
    obtain ⟨hmem, hop⟩ := entryFor?_iff.1 hentry
    rw [Memory.holdsAt_cons_iff, Memory.byteAt_toNat] at hold
    have hraw := (Layout.readAt_eq_ok_iff m _ _ _).2 ⟨operands, hoperands, hold.2⟩
    refine ⟨e.code, e, _, hold.1, entry?_iff.2 ⟨hmem, rfl⟩, hraw, ?_⟩
    rw [hop, Instruction.ofOperands_operands]

/-- How many bytes decoding looks at: the opcode, and the operands of its entry if it has one. -/
def extent (t : Table) (m : Memory) (a : Address) : Nat :=
  match (m.get? a).bind t.entry? with
  | some e => 1 + e.layout.size
  | none => 1

theorem extent_of_entry {opcode : Byte} (hread : m.get? a = some opcode) (hentry : t.entry? opcode = some e) :
    t.extent m a = 1 + e.layout.size := by
  unfold extent
  rw [hread, Option.bind_some, hentry]

theorem one_le_extent (t : Table) (m : Memory) (a : Address) : 1 ≤ t.extent m a := by
  unfold extent
  cases (m.get? a).bind t.entry? with
  | none => exact Nat.le_refl 1
  | some e => exact Nat.le_add_right 1 _

/-- **Decoding looks at no byte beyond the last operand**, whether it succeeds or not. -/
theorem decode_congr {m' : Memory}
    (h : ∀ k, k < t.extent m a → m'.bytes[a.toNat + k]? = m.bytes[a.toNat + k]?) : t.decode m' a = t.decode m a := by
  have hget : m'.get? a = m.get? a := h 0 (t.one_le_extent m a)
  have hread : m'.read a = m.read a := by
    unfold Memory.read
    rw [hget]
  cases hr : m.read a with
  | error fault =>
    unfold decode
    rw [hread, hr]
    rfl
  | ok opcode =>
    rw [hr] at hread
    cases hentry : t.entry? opcode with
    | none => rw [decode_of_unknown hread hentry, decode_of_unknown hr hentry]
    | some e =>
      have hextent := extent_of_entry ((Memory.read_eq_ok_iff m a opcode).1 hr) hentry
      have hraw : Layout.readAt m' (a.toNat + 1) e.layout = Layout.readAt m (a.toNat + 1) e.layout :=
        Layout.readAt_congr e.layout _ fun k hk => Memory.byteAt_congr (by
          rw [Nat.add_assoc]
          exact h (1 + k) (by omega))
      rw [decode_of_entry hread hentry, decode_of_entry hr hentry, hraw]

/-- **When an instruction has an encoding**: the table has its operation, and a short address fits in a byte. -/
theorem encode_isSome_iff : (∃ bytes, t.encode i = some bytes) ↔ ∃ e ∈ t.entries, e.operation = i.operation ∧
    ∀ position offset, i = .testAndSet position offset → e.layout = [.byte, .byte] → position < 256 := by
  have fits {e : Entry} (hop : e.operation = i.operation) := Instruction.fits_iff (hop ▸ e.layout_mem)
  constructor
  · rintro ⟨bytes, h⟩
    obtain ⟨e, operands, hentry, henc, -⟩ := encode_iff.1 h
    obtain ⟨hmem, hop⟩ := entryFor?_iff.1 hentry
    exact ⟨e, hmem, hop, (fits hop).1 ((Layout.encode_isSome_iff _ _).1 ⟨operands, henc⟩)⟩
  · rintro ⟨e, hmem, hop, hshort⟩
    obtain ⟨operands, henc⟩ := (Layout.encode_isSome_iff _ _).2 ((fits hop).2 hshort)
    exact ⟨_, encode_iff.2 ⟨e, operands, entryFor?_iff.2 ⟨hmem, hop⟩, henc, rfl⟩⟩

theorem length_of_decode (h : t.decode m a = .ok i) (henc : t.encode i = some bytes) :
    bytes.length = t.extent m a ∧ t.extent m a ≤ 4 := by
  obtain ⟨opcode, e, raw, hread, hentry, -, rfl⟩ := decode_iff.1 h
  obtain ⟨e', operands, hentry', hoperands, rfl⟩ := encode_iff.1 henc
  rw [Instruction.operation_ofOperands, entryFor?_iff.2 ⟨(entry?_iff.1 hentry).1, rfl⟩] at hentry'
  cases hentry'
  have hextent := extent_of_entry ((Memory.read_eq_ok_iff m a opcode).1 hread) hentry
  have hsize := Operation.size_le_of_mem_layouts e.layout_mem
  have hlength := Layout.length_encode hoperands
  rw [List.length_cons, hextent]
  omega

/-- **Decoding and encoding are inverse.**  An instruction has an encoding if the table has its operation, unless its address
is to stand in one byte and does not fit.  Where the encoding stands the instruction is decoded, and an instruction that
was decoded has its encoding there, which is all that decoding looks at: the opcode and its operands, at most four bytes.
Equal instructions have equal encodings. -/
theorem decode_inverts_encode (t : Table) (m : Memory) (a : Address) :
    (∀ i, (∃ bytes, t.encode i = some bytes) ↔ ∃ e ∈ t.entries, e.operation = i.operation ∧
      ∀ position offset, i = .testAndSet position offset → e.layout = [.byte, .byte] → position < 256) ∧
    (∀ i bytes, t.encode i = some bytes → m.HoldsAt a.toNat bytes → t.decode m a = .ok i) ∧
    (∀ i, t.decode m a = .ok i → ∃ bytes, t.encode i = some bytes ∧ m.HoldsAt a.toNat bytes ∧
      bytes.length = t.extent m a ∧ t.extent m a ≤ 4) ∧
    (∀ m' : Memory, (∀ k, k < t.extent m a → m'.bytes[a.toNat + k]? = m.bytes[a.toNat + k]?) →
      t.decode m' a = t.decode m a) ∧
    ∀ (m' : Memory) (a' : Address) i j bytes bytes', t.encode i = some bytes → t.encode j = some bytes' →
      m.HoldsAt a.toNat bytes → m'.HoldsAt a'.toNat bytes' → t.decode m a = t.decode m' a' → bytes = bytes' := by
  refine ⟨fun i => encode_isSome_iff, fun i bytes henc hold => decode_eq_ok_iff.2 ⟨bytes, henc, hold⟩, fun i h => ?_,
    fun m' h => decode_congr h, fun m' a' i j bytes bytes' hi hj hold hold' h => ?_⟩
  · obtain ⟨bytes, henc, hold⟩ := decode_eq_ok_iff.1 h
    exact ⟨bytes, henc, hold, length_of_decode h henc⟩
  · rw [decode_eq_ok_iff.2 ⟨bytes, hi, hold⟩, decode_eq_ok_iff.2 ⟨bytes', hj, hold'⟩] at h
    obtain rfl := Except.ok.inj h
    exact Option.some.inj (hi.symm.trans hj)

/-- A memory that holds a load from address `0x1234`, after a byte of something else. -/
def loadFrom1234 : Memory := ⟨#[7, 8, 0x12, 0x34, 2]⟩

theorem loadFrom1234_decodes : builtIn.encode (.load 0x1234 2) = some [8, 0x12, 0x34, 2] ∧
    loadFrom1234.HoldsAt (1 : Address).toNat [8, 0x12, 0x34, 2] ∧ builtIn.decode loadFrom1234 1 = .ok (.load 0x1234 2) ∧
    builtIn.extent loadFrom1234 1 = 4 := by
  have encoded : builtIn.encode (.load 0x1234 2) = some [8, 0x12, 0x34, 2] := by decide
  have held : loadFrom1234.HoldsAt (1 : Address).toNat [8, 0x12, 0x34, 2] := by unfold Memory.HoldsAt; decide
  obtain ⟨-, decodes, inverts, -⟩ := decode_inverts_encode builtIn loadFrom1234 1
  have decoded := decodes _ _ encoded held
  obtain ⟨bytes, henc, -, hlength, -⟩ := inverts _ decoded
  rw [encoded] at henc
  cases henc
  exact ⟨encoded, held, decoded, hlength.symm⟩

end Table
end CoopCpu

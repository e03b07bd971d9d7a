import CoopCpu.Proofs.Encoding
import CoopCpu.Proofs.Numerals
import CoopCpu.Proofs.TableRecords
/-!
# Proofs.InstructionText — the text of an instruction says which instruction it is

A text is words with single blanks between them, the mnemonic first and a comma after every operand but the last, and no
word has a blank in it; so the words can be told apart (`Instruction.splitOn_text`).  Mnemonics differ, and an operand shows
what kind it is by the way it is written, and then which (`Operand.text_injective`).  What is listed under a table as the
same instruction is therefore the same bytes (`Instruction.text_unambiguous`).
-/
namespace CoopCpu

namespace Hex

theorem byte_injective : Function.Injective byte := fun b b' h =>
  UInt8.toNat_inj.1 (number_inj (Nat.lt_trans b.toNat_lt (by decide)) (Nat.lt_trans b'.toNat_lt (by decide)) h)

theorem address_injective : Function.Injective address := fun a a' h =>
  UInt16.toNat_inj.1 (number_inj (Nat.lt_trans a.toNat_lt (by decide)) (Nat.lt_trans a'.toNat_lt (by decide)) h)

theorem length_byte (b : Byte) : (byte b).toList.length = 4 := length_number (by decide) b.toNat_lt

theorem length_address (a : Address) : (address a).toList.length = 6 := length_number (by decide) a.toNat_lt

theorem blank_notMem_number (least n : Nat) : ' ' ∉ (number least n).toList := by
  intro h
  have hdigit : ∀ d < 16, upperDigit d ≠ ' ' := by decide
  have hmem : ' ' ∈ fixed upperDigit (max least (digitCount n)) n := by simpa [toList_number] using h
  obtain ⟨d, hd, hc⟩ := mem_fixed hmem
  exact hdigit d hd hc.symm

end Hex

/-! ## Registers -/

namespace Register

/-- The code of a register. -/
def code : Register → Byte
  | .general r => UInt8.ofNat r.val
  | .runningThread => 0x80
  | .activeSlots => 0x81
  | .programCounter => 0x82
  | .equalFlag => 0x84
  | .greaterFlag => 0x85
  | .lessFlag => 0x86
  | .overflowFlag => 0x87

theorem code_of_ofCode? {c : Byte} {r : Register} (h : ofCode? c = some r) : r.code = c := by
  unfold ofCode? general? at h
  by_cases general : c.toNat < 8
  · rw [dif_pos general] at h
    cases h
    exact UInt8.ofNat_toNat
  · rw [dif_neg general] at h
    grind [code]

def all : List Register := (List.finRange 8).map .general ++
  [.runningThread, .activeSlots, .programCounter, .equalFlag, .greaterFlag, .lessFlag, .overflowFlag]

theorem mem_all (r : Register) : r ∈ all := by
  cases r with
  | general r => exact List.mem_append_left _ (List.mem_map.2 ⟨r, List.mem_finRange r, rfl⟩)
  | _ => decide

theorem name_injective : Function.Injective name := fun r r' h =>
  List.inj_on_of_nodup_map (l := all) (by decide) (mem_all r) (mem_all r') h

/-- A name begins with neither a digit nor a cross, and has no blank in it. -/
theorem name_shape (r : Register) : r.name.toList.head?.any Char.isDigit = false ∧
    r.name.toList.head? ≠ some '#' ∧ ' ' ∉ r.name.toList := by
  have hall : ∀ r ∈ all, r.name.toList.head?.any Char.isDigit = false ∧
      r.name.toList.head? ≠ some '#' ∧ ' ' ∉ r.name.toList := by decide
  exact hall r (mem_all r)

theorem codeText_of_some {c : Byte} {r : Register} (h : ofCode? c = some r) : codeText c = r.name := by
  unfold codeText
  rw [h]

theorem codeText_of_none {c : Byte} (h : ofCode? c = none) : codeText c = "#" ++ Hex.byte c := by
  unfold codeText
  rw [h]

/-- **A register code can be told from its text.** -/
theorem codeText_injective : Function.Injective codeText := by
  have beside {c c' : Byte} {r : Register} (named : ofCode? c = some r) (unnamed : ofCode? c' = none) :
      codeText c ≠ codeText c' := by
    rw [codeText_of_some named, codeText_of_none unnamed]
    intro h
    have hhead := r.name_shape.2.1
    rw [h] at hhead
    exact hhead (by simp)
  intro c c' h
  cases named : ofCode? c with
  | some r =>
    cases named' : ofCode? c' with
    | some r' =>
      rw [codeText_of_some named, codeText_of_some named'] at h
      rw [← code_of_ofCode? named, ← code_of_ofCode? named', name_injective h]
    | none => exact absurd h (beside named named')
  | none =>
    cases named' : ofCode? c' with
    | some r' => exact absurd h.symm (beside named' named)
    | none =>
      rw [codeText_of_none named, codeText_of_none named', String.append_right_inj] at h
      exact Hex.byte_injective h

theorem codeText_shape (c : Byte) :
    (codeText c).toList.head?.any Char.isDigit = false ∧ ' ' ∉ (codeText c).toList := by
  cases named : ofCode? c with
  | some r =>
    rw [codeText_of_some named]
    exact ⟨r.name_shape.1, r.name_shape.2.2⟩
  | none =>
    rw [codeText_of_none named]
    have hbyte := Hex.blank_notMem_number 2 c.toNat
    exact ⟨by simp, by simpa [Hex.byte] using hbyte⟩

end Register

/-! ## Operands -/

namespace Operand

/-- What the text of an operand shows of its kind: a register begins with no digit, a bit number is written without `x`, and
values and addresses differ in length. -/
def mark (text : List Char) : Nat :=
  if text.head?.any Char.isDigit then if 'x' ∈ text then text.length else 1 else 0

/-- The mark of the operands of a kind. -/
def kindMark : Operand → Nat
  | .register _ => 0
  | .bitNumber _ => 1
  | .value _ => 4
  | .address _ => 6

theorem toList_text_bitNumber (offset : Byte) : (text (.bitNumber offset)).toList = Nat.toDigits 10 offset.toNat := by
  show (toString offset.toNat).toList = _
  rw [Nat.toString_eq_repr, Nat.repr_eq_ofList_toDigits, String.toList_ofList]

theorem isDigit_of_mem_bitNumber {offset : Byte} {c : Char} (h : c ∈ (text (.bitNumber offset)).toList) :
    c.isDigit = true :=
  Nat.isDigit_of_mem_toDigits (by decide) (by decide) (toList_text_bitNumber offset ▸ h)

theorem mark_text (o : Operand) : mark o.text.toList = o.kindMark := by
  unfold mark
  cases o with
  | register c =>
    have hhead := (Register.codeText_shape c).1
    exact if_neg (by simp [text, hhead])
  | value b =>
    have hlength := Hex.length_byte b
    simp only [text, Hex.byte, Hex.toList_number] at hlength ⊢
    simpa [kindMark] using hlength
  | address a =>
    have hlength := Hex.length_address a
    simp only [text, Hex.address, Hex.toList_number] at hlength ⊢
    simpa [kindMark] using hlength
  | bitNumber offset =>
    have noX : 'x' ∉ (text (.bitNumber offset)).toList := fun h => absurd (isDigit_of_mem_bitNumber h) (by decide)
    obtain ⟨c, cs, hcons⟩ := List.exists_cons_of_ne_nil (Nat.toDigits_ne_nil (n := offset.toNat) (b := 10))
    rw [← toList_text_bitNumber] at hcons
    have hdigit : c.isDigit = true := isDigit_of_mem_bitNumber (hcons ▸ List.mem_cons_self)
    rw [if_neg noX, hcons]
    exact if_pos hdigit

/-- **An operand can be told from its text**, whatever its kind. -/
theorem text_injective : Function.Injective text := by
  intro o o' h
  have hkind : o.kindMark = o'.kindMark := by rw [← mark_text, h, mark_text]
  cases o <;> cases o' <;> try cases hkind
  case register => rw [Register.codeText_injective h]
  case value => rw [Hex.byte_injective h]
  case address => rw [Hex.address_injective h]
  case bitNumber offset offset' =>
    have hdigits := congrArg String.toList h
    rw [toList_text_bitNumber, toList_text_bitNumber] at hdigits
    have hnat : offset.toNat = offset'.toNat := by
      rw [← Nat.ofDigitChars_ten_toDigits (n := offset.toNat), hdigits, Nat.ofDigitChars_ten_toDigits]
    rw [UInt8.toNat_inj.1 hnat]

theorem blank_notMem_text (o : Operand) : ' ' ∉ o.text.toList := by
  cases o with
  | register c => exact (Register.codeText_shape c).2
  | value b => exact Hex.blank_notMem_number 2 b.toNat
  | address a => exact Hex.blank_notMem_number 4 a.toNat
  | bitNumber offset => exact fun h => absurd (isDigit_of_mem_bitNumber h) (by decide)

end Operand

/-! ## Instructions -/

theorem Operation.blank_notMem_mnemonic (op : Operation) : ' ' ∉ op.mnemonic.toList := by cases op <;> decide

/-- The words of a list as they stand in a text, with a comma after each but the last. -/
def withCommas : List (List Char) → List (List Char)
  | [] => []
  | [word] => [word]
  | word :: next :: rest => (word ++ [',']) :: withCommas (next :: rest)

theorem withCommas_ne_nil (word : List Char) : ∀ rest, withCommas (word :: rest) ≠ []
  | [] => List.cons_ne_nil _ _
  | _ :: _ => List.cons_ne_nil _ _

theorem intercalate_commas : ∀ words, [',', ' '].intercalate words = [' '].intercalate (withCommas words)
  | [] => rfl
  | [_] => rfl
  | word :: next :: rest => by
    rw [List.intercalate_cons_cons, intercalate_commas (next :: rest), withCommas,
      List.intercalate_cons_of_ne_nil (withCommas_ne_nil next rest)]
    simp

theorem mem_withCommas {c : Char} (comma : c ≠ ',') : ∀ {words word}, word ∈ withCommas words → c ∈ word →
    ∃ w ∈ words, c ∈ w
  | [w], word, h, hc => ⟨w, List.mem_cons_self, List.mem_singleton.1 h ▸ hc⟩
  | w :: next :: rest, word, h, hc => by
    rcases List.mem_cons.1 h with rfl | h
    · exact ⟨w, List.mem_cons_self, by simpa [comma] using hc⟩
    · obtain ⟨w', hw', hc'⟩ := mem_withCommas comma h hc
      exact ⟨w', List.mem_cons_of_mem _ hw', hc'⟩

theorem withCommas_injective : Function.Injective withCommas
  | [], [], _ => rfl
  | [], _ :: rest, h => absurd h.symm (withCommas_ne_nil _ rest)
  | _ :: rest, [], h => absurd h (withCommas_ne_nil _ rest)
  | [_], [_], h => h
  | [_], _ :: next :: rest, h => absurd (List.cons.inj h).2.symm (withCommas_ne_nil next rest)
  | _ :: next :: rest, [_], h => absurd (List.cons.inj h).2 (withCommas_ne_nil next rest)
  | w :: next :: rest, w' :: next' :: rest', h => by
    obtain ⟨hword, hrest⟩ := List.cons.inj h
    rw [List.append_cancel_right hword, withCommas_injective hrest]

namespace Instruction

/-- The words of the text of an instruction. -/
def words (i : Instruction) : List (List Char) :=
  i.operation.mnemonic.toList :: withCommas (i.operands.map fun o => o.text.toList)

theorem toList_text (i : Instruction) : i.text.toList = [' '].intercalate i.words := by
  unfold text words
  cases h : i.operands with
  | nil => exact List.intercalate_singleton.symm
  | cons o rest =>
    rw [List.map_cons, List.intercalate_cons_of_ne_nil (withCommas_ne_nil _ _), ← intercalate_commas]
    simp [Function.comp_def]

theorem blank_notMem_words {i : Instruction} {word : List Char} (h : word ∈ i.words) : ' ' ∉ word := by
  rcases List.mem_cons.1 h with rfl | h
  · exact i.operation.blank_notMem_mnemonic
  · intro hblank
    obtain ⟨w, hw, hblank⟩ := mem_withCommas (by decide) h hblank
    obtain ⟨o, -, rfl⟩ := List.mem_map.1 hw
    exact o.blank_notMem_text hblank

/-- **The blanks of a text stand between its words.** -/
theorem splitOn_text (i : Instruction) : i.text.toList.splitOn ' ' = i.words := by
  rw [toList_text]
  exact List.splitOn_intercalate ' ' (fun _ h => blank_notMem_words h) (List.cons_ne_nil _ _)

theorem words_injective : Function.Injective words := by
  intro i j h
  obtain ⟨hmnemonic, hoperands⟩ := List.cons.inj h
  have hoperation : i.operation = j.operation := Operation.mnemonic_injective (String.toList_inj.1 hmnemonic)
  have htexts : Function.Injective fun o : Operand => o.text.toList := fun o o' ho =>
    Operand.text_injective (String.toList_inj.1 ho)
  rw [← ofOperands_operands i, ← ofOperands_operands j, hoperation,
    List.map_injective_iff.2 htexts (withCommas_injective hoperands)]

theorem text_injective : Function.Injective text := fun i j h =>
  words_injective (by rw [← splitOn_text, h, splitOn_text])

end Instruction

/-- **The text of an instruction says which instruction it is**, with all its operands; so two places where a table decodes
instructions of the same text hold the same bytes, the opcode and those of the operands. -/
theorem Instruction.text_unambiguous :
    (∀ i j : Instruction, i.text = j.text → i = j) ∧
    ∀ (t : Table) (m m' : Memory) (a a' : Address) (i j : Instruction),
      t.decode m a = .ok i → t.decode m' a' = .ok j → i.text = j.text →
      ∃ opcode operands, m.HoldsAt a.toNat (opcode :: operands) ∧ m'.HoldsAt a'.toNat (opcode :: operands) ∧
        t.extent m a = 1 + operands.length ∧ t.extent m' a' = 1 + operands.length := by
  refine ⟨fun _ _ h => text_injective h, fun t m m' a a' i j decoded decoded' h => ?_⟩
  obtain rfl := text_injective h
  obtain ⟨bytes, encoded, held⟩ := Table.decode_eq_ok_iff.1 decoded
  obtain ⟨bytes', encoded', held'⟩ := Table.decode_eq_ok_iff.1 decoded'
  obtain rfl : bytes = bytes' := Option.some.inj (encoded.symm.trans encoded')
  have hlength := (Table.length_of_decode decoded encoded).1
  have hlength' := (Table.length_of_decode decoded' encoded).1
  obtain ⟨e, operands, -, -, rfl⟩ := Table.encode_iff.1 encoded
  rw [List.length_cons, Nat.add_comm] at hlength hlength'
  exact ⟨e.code, operands, held, held', hlength.symm, hlength'.symm⟩

end CoopCpu

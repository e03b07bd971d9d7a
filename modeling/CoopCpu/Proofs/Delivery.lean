import CoopCpu.History
import CoopCpu.Proofs.Service
/-!
# Proofs.Delivery — every byte that is pushed is delivered once and in order

As long as the bytes that a scripted device exchanges lie in memory, a tick takes the first byte of its queue exactly if the
turn of the device comes and it asks (`wantsService_iff`), and does with it what `Machine.Delivers` says.  What has been taken
and what still waits is therefore, in any history, what waited at first and what has arrived (`delivers_in_order`).
-/
namespace CoopCpu

theorem Scripted.wantsService_iff (d : Scripted) : d.wantsService = true ↔ d.enabled = true ∧ d.queue ≠ [] := by
  unfold wantsService
  rw [Bool.and_eq_true, Bool.not_eq_true', List.isEmpty_eq_false_iff]

/-- What befalls a scripted device. -/
def Scripted.undergo : Device.Event → Scripted → Scripted
  | .arrival bytes, d => d.push bytes
  | .closing, d => d
  | .enabling, d => { d with enabled := true }
  | .disabling, d => { d with enabled := false }

namespace Device

theorem undergo_scripted (d : Scripted) : ∀ e : Event, undergo e (.scripted d) = .scripted (d.undergo e)
  | .arrival _ | .closing | .enabling | .disabling => rfl

theorem service_scripted {m : Memory} {d : Scripted} (wants : d.wantsService = true) {handed : Byte}
    (output : m.get? (scripted d).outputLocation = some handed) (input : (scripted d).inputLocation.toNat < m.size) :
    service m (.scripted d) = (m.set (scripted d).inputLocation (d.serve handed).1, .scripted (d.serve handed).2, none) :=
  service_of_read (d := .scripted d) wants output input

end Device

namespace Machine

variable {m : Machine} {k : Nat} {d : Scripted}

/-- Device number `k` is this scripted device, and the bytes that it exchanges lie in memory. -/
structure HasTape (m : Machine) (k : Nat) (d : Scripted) : Prop where
  attached : m.devices[k]? = some (.scripted d)
  output : (Device.scripted d).outputLocation.toNat < m.core.memory.size
  input : (Device.scripted d).inputLocation.toNat < m.core.memory.size

/-- What the next tick does with the byte that it takes from scripted device number `k`. -/
structure Delivers (m : Machine) (k : Nat) (d : Scripted) (byte : Byte) : Prop where
  first : d.queue = byte :: d.queue.tail
  /-- The device is handed the byte at its output location, as the instruction and the devices before it have left it. -/
  exchanged : ∃ handed, (m.memoryAt k).get? (Device.scripted d).outputLocation = some handed ∧
    m.tick.devices[k]? = some (.scripted { d with queue := d.queue.tail, record := d.record.push handed })
  lands : (m.memoryAt (k + 1)).get? (Device.scripted d).inputLocation = some byte
  /-- It stays there unless another device is served after it and delivers into the same place. -/
  stays : (∀ j d', k < j → m.Serves j d' → d'.inputLocation ≠ (Device.scripted d).inputLocation) →
    m.tick.core.memory.get? (Device.scripted d).inputLocation = some byte

/-! ## One tick -/

theorem HasTape.delivers (h : m.HasTape k d) (reaches : m.Reaches k (.scripted d)) (wants : d.wantsService = true) :
    ∃ byte, m.taken k = some byte ∧ m.Delivers k d byte := by
  have output : (Device.scripted d).outputLocation.toNat < (m.memoryAt k).size := by rw [size_memoryAt]; exact h.output
  have input : (Device.scripted d).inputLocation.toNat < (m.memoryAt k).size := by rw [size_memoryAt]; exact h.input
  obtain ⟨handed, hhanded⟩ := (Memory.get?_eq_some_iff _ _).2 output
  have hservice := Device.service_scripted wants hhanded input
  have done : (Device.service (m.memoryAt k) (.scripted d)).2.2 = none := by rw [hservice]
  obtain ⟨hnext, before⟩ := Device.memoryAt_next reaches.reached done
  cases hqueue : d.queue with
  | nil => exact absurd hqueue ((d.wantsService_iff).1 wants).2
  | cons byte rest =>
    have hbyte : (d.serve handed).1 = byte := by
      unfold Scripted.serve
      rw [hqueue]
      rfl
    have lands : (m.memoryAt (k + 1)).get? (Device.scripted d).inputLocation = some byte := by
      have : m.memoryAt (k + 1) = (m.memoryAt k).set (Device.scripted d).inputLocation byte := by
        rw [← hbyte]
        exact hnext.trans (congrArg Prod.fst hservice)
      rw [this, Memory.get?_set, if_pos ⟨rfl, input⟩]
    refine ⟨byte, ?_, by rw [hqueue]; rfl, ⟨handed, hhanded, ?_⟩, lands, fun unserved => ?_⟩
    · rw [taken_of_reaches reaches, Device.taken_of_read (d := .scripted d) wants hhanded]
      exact congrArg some hbyte
    · rw [(getElem?_devices_tick h.attached).1 reaches, hservice]
      rfl
    · rw [← lands]
      exact bytes_tick reaches.running reaches.unfaulted before fun j d' hj serves hplace =>
        unserved j d' hj serves (UInt16.toNat_inj.1 hplace)

/-- **A tick takes a byte exactly if the device's turn comes and it asks**, and leaves the device alone otherwise. -/
theorem HasTape.taken_cases (h : m.HasTape k d) :
    (m.Reaches k (.scripted d) ∧ d.wantsService = true ∧ ∃ byte, m.taken k = some byte ∧ m.Delivers k d byte) ∨
    ¬ (m.Reaches k (.scripted d) ∧ d.wantsService = true) ∧ m.taken k = none ∧
      m.tick.devices[k]? = some (.scripted d) := by
  by_cases reaches : m.Reaches k (.scripted d)
  · cases wants : d.wantsService with
    | true => exact .inl ⟨reaches, rfl, h.delivers reaches wants⟩
    | false =>
      refine .inr ⟨fun hn => Bool.noConfusion hn.2, ?_, ?_⟩
      · rw [taken_of_reaches reaches, Device.taken_of_idle (d := .scripted d) _ wants]
      · rw [(getElem?_devices_tick h.attached).1 reaches, Device.service_of_idle (d := .scripted d) _ wants]
        rfl
  · exact .inr ⟨fun hn => reaches hn.1, taken_of_not_reaches h.attached reaches,
      (getElem?_devices_tick h.attached).2 reaches⟩

/-! ## A history -/

/-- What an occurrence, or a history of them, leaves of a scripted device: `taken` was taken from it and `arrived` arrived. -/
structure TapeGoesOn (d d' : Scripted) (taken arrived : List Byte) : Prop where
  name : d'.name = d.name
  location : d'.location = d.location
  queue : taken ++ d'.queue = d.queue ++ arrived
  record : d'.record.size = d.record.size + taken.length

theorem TapeGoesOn.refl (d : Scripted) : TapeGoesOn d d [] [] := ⟨rfl, rfl, (List.append_nil _).symm, rfl⟩

theorem TapeGoesOn.trans {d d' d'' : Scripted} {taken taken' arrived arrived' : List Byte}
    (h : TapeGoesOn d d' taken arrived) (h' : TapeGoesOn d' d'' taken' arrived') :
    TapeGoesOn d d'' (taken ++ taken') (arrived ++ arrived') where
  name := h'.name.trans h.name
  location := h'.location.trans h.location
  queue := by rw [List.append_assoc, h'.queue, ← List.append_assoc, h.queue, List.append_assoc]
  record := by rw [h'.record, h.record, List.length_append, Nat.add_assoc]

theorem tapeGoesOn_undergo (d : Scripted) : ∀ e : Device.Event,
    TapeGoesOn d (d.undergo e) [] (match e with | .arrival bytes => bytes | _ => [])
  | .arrival _ => ⟨rfl, rfl, rfl, rfl⟩
  | .closing | .enabling | .disabling => ⟨rfl, rfl, (List.append_nil _).symm, rfl⟩

theorem HasTape.of_goesOn {m' : Machine} {d' : Scripted} {taken arrived : List Byte} (h : m.HasTape k d)
    (goesOn : TapeGoesOn d d' taken arrived) (attached : m'.devices[k]? = some (.scripted d'))
    (size : m'.core.memory.size = m.core.memory.size) : m'.HasTape k d' where
  attached := attached
  output := by
    show (d'.location + 2).toNat < _
    rw [goesOn.location, size]
    exact h.output
  input := by
    show (d'.location + 1).toNat < _
    rw [goesOn.location, size]
    exact h.input

theorem HasTape.tick (h : m.HasTape k d) : ∃ d', m.tick.HasTape k d' ∧ TapeGoesOn d d' (m.taken k).toList [] := by
  rcases h.taken_cases with ⟨-, -, byte, htaken, delivers⟩ | ⟨-, htaken, attached⟩
  · obtain ⟨handed, -, attached⟩ := delivers.exchanged
    have goesOn : TapeGoesOn d { d with queue := d.queue.tail, record := d.record.push handed } [byte] [] :=
      ⟨rfl, rfl, by rw [List.append_nil, List.singleton_append]; exact delivers.first.symm, Array.size_push _⟩
    rw [htaken]
    exact ⟨_, h.of_goesOn goesOn attached (size_tick m), goesOn⟩
  · rw [htaken]
    exact ⟨d, h.of_goesOn (.refl d) attached (size_tick m), .refl d⟩

theorem HasTape.undergo (h : m.HasTape k d) (o : Occurrence) :
    ∃ d', (m.undergo o).HasTape k d' ∧ TapeGoesOn d d' (m.takenBy k o) (o.arrivals k) := by
  cases o with
  | tick => exact h.tick
  | befalls j e =>
    by_cases hj : j = k
    · subst hj
      have goesOn := tapeGoesOn_undergo d e
      refine ⟨d.undergo e, h.of_goesOn goesOn ?_ rfl, ?_⟩
      · show (m.devices.modify j (Device.undergo e))[j]? = _
        rw [List.getElem?_modify_eq, h.attached]
        exact congrArg some (Device.undergo_scripted d e)
      · cases e <;> simpa [takenBy, Occurrence.arrivals] using goesOn
    · -- what befalls another device is nothing to this one
      refine ⟨d, h.of_goesOn (.refl d) ?_ rfl, ?_⟩
      · show (m.devices.modify j (Device.undergo e))[k]? = _
        rw [List.getElem?_modify_ne _ _ hj, h.attached]
      · cases e <;> simpa [takenBy, Occurrence.arrivals, hj] using TapeGoesOn.refl d
  | befallsAll e =>
    have goesOn := tapeGoesOn_undergo d e
    refine ⟨d.undergo e, h.of_goesOn goesOn ?_ rfl, ?_⟩
    · show (m.devices.map (Device.undergo e))[k]? = _
      rw [List.getElem?_map, h.attached]
      exact congrArg some (Device.undergo_scripted d e)
    · cases e <;> exact goesOn

/-- **In a history nothing is lost, repeated or put in another order.** -/
theorem HasTape.after : ∀ {m : Machine} {d : Scripted} (_ : m.HasTape k d) (history : List Occurrence),
    ∃ d', (m.after history).HasTape k d' ∧
      TapeGoesOn d d' (m.takenIn k history) (history.flatMap (Occurrence.arrivals k))
  | _, d, h, [] => ⟨d, h, .refl d⟩
  | _, _, h, o :: rest => by
    obtain ⟨d', h', first⟩ := h.undergo o
    obtain ⟨d'', h'', goesOn⟩ := HasTape.after h' rest
    rw [List.flatMap_cons]
    exact ⟨d'', h'', first.trans goesOn⟩

/-- **Bytes are delivered once each and in order.**  Let the bytes that a scripted device exchanges lie in memory.  After any
history of ticks and of whatever befalls the devices, the bytes taken from it and those that still wait are those that
waited at first and those that have arrived, and its record has grown by one for each byte taken.  And then, as always, a
tick takes a byte exactly if the instruction and the devices before it do not halt the machine and the device is enabled
with a byte waiting; it delivers that byte, and without one leaves the device as it was. -/
theorem delivers_in_order (m : Machine) (k : Nat) (d : Scripted) (h : m.HasTape k d) (history : List Occurrence) :
    ∃ d', (m.after history).devices[k]? = some (.scripted d') ∧ d'.name = d.name ∧ d'.location = d.location ∧
      m.takenIn k history ++ d'.queue = d.queue ++ history.flatMap (Occurrence.arrivals k) ∧
      d'.record.size = d.record.size + (m.takenIn k history).length ∧
      ((∃ byte, (m.after history).taken k = some byte) ↔
        (m.after history).Reaches k (.scripted d') ∧ d'.enabled = true ∧ d'.queue ≠ []) ∧
      (∀ byte, (m.after history).taken k = some byte → (m.after history).Delivers k d' byte) ∧
      ((m.after history).taken k = none → (m.after history).tick.devices[k]? = some (.scripted d')) := by
  obtain ⟨d', h', goesOn⟩ := h.after history
  refine ⟨d', h'.attached, goesOn.name, goesOn.location, goesOn.queue, goesOn.record, ?_⟩
  rw [← d'.wantsService_iff]
  rcases h'.taken_cases with ⟨reaches, wants, byte, htaken, delivers⟩ | ⟨passed, htaken, attached⟩
  · refine ⟨⟨fun _ => ⟨reaches, wants⟩, fun _ => ⟨byte, htaken⟩⟩, fun byte' h => ?_, fun h => ?_⟩
    · obtain rfl : byte = byte' := Option.some.inj (htaken.symm.trans h)
      exact delivers
    · rw [htaken] at h
      cases h
  · refine ⟨⟨fun h => ?_, fun h => absurd h passed⟩, fun byte h => ?_, fun _ => attached⟩
    · obtain ⟨byte, h⟩ := h
      rw [htaken] at h
      cases h
    · rw [htaken] at h
      cases h

/-- A thread that stores its program counter twice and then yields, beside three tapes: the window of the first one goes
round the end of memory and overlaps with that of the second. -/
def conversing : Machine :=
  { Machine.new ⟨#[0, 0, 0, 0, 9, 0x82, 0, 2, 9, 0x82, 0, 2, 1, 0, 0, 0, 0, 0, 0]⟩ 4 Table.builtIn with
    devices := [.scripted ⟨"first", 0xFFFF, true, [3, 4], #[]⟩, .scripted ⟨"second", 0, true, [7], #[]⟩,
      .scripted ⟨"third", 16, true, [9], #[]⟩] }

/-- The second tape is disabled for one tick after a byte has arrived. -/
def interrupted : List Occurrence := [.tick, .befalls 1 (.arrival [5]), .befallsAll .disabling, .tick, .befalls 1 .enabling]

theorem conversing_delivers : conversing.HasTape 1 ⟨"second", 0, true, [7], #[]⟩ ∧
    (conversing.Delivers 1 ⟨"second", 0, true, [7], #[]⟩ 7 ∧ conversing.tick.core.memory.get? 1 = some 7) ∧
    ∃ d', (conversing.after interrupted).devices[1]? = some (.scripted d') ∧
      conversing.takenIn 1 interrupted = [7] ∧ [7] ++ d'.queue = [7] ++ [5] ∧ d'.record.size = 1 ∧
      (conversing.after interrupted).Delivers 1 d' 5 := by
  have tape : conversing.HasTape 1 ⟨"second", 0, true, [7], #[]⟩ := ⟨rfl, by decide, by decide⟩
  obtain ⟨d, attached, -, -, -, -, -, first, -⟩ := delivers_in_order conversing 1 _ tape []
  obtain rfl : d = ⟨"second", 0, true, [7], #[]⟩ := Device.scripted.inj (Option.some.inj (attached.symm.trans rfl))
  have delivers := first 7 (by decide)
  refine ⟨tape, ⟨delivers, delivers.stays fun j d' hj serves => ?_⟩, ?_⟩
  · match j, hj, serves.reaches.device with
    | 2, _, later =>
      obtain rfl := Option.some.inj later
      decide
  · obtain ⟨d', attached', -, -, queue, record, -, second, -⟩ := delivers_in_order conversing 1 _ tape interrupted
    have taken : conversing.takenIn 1 interrupted = [7] := by decide
    have arrived : interrupted.flatMap (Occurrence.arrivals 1) = [5] := by decide
    rw [taken] at queue record
    rw [arrived] at queue
    exact ⟨d', attached', taken, queue, record, second 5 (by decide)⟩

end Machine
end CoopCpu

import CoopCpu.Device.Keyboard
/-!
# Proofs.KeyQueue — the keys of a keyboard as one queue

A key that has arrived waits at the source and then in the pending place.  `Keyboard.keys` is the queue of both: arriving
keys go to its end, polling and closing leave it alone, and a serving takes its first key once a poll has made it pending.
-/
namespace CoopCpu
namespace Keyboard

variable {k : Keyboard}

/-- The keys still to deliver, the pending one first. -/
def keys (k : Keyboard) : List Byte := k.pending.toList ++ k.source.elim [] KeySource.waiting

theorem keys_of_pending {key : Byte} (h : k.pending = some key) :
    k.keys = key :: k.source.elim [] KeySource.waiting := by
  unfold keys
  rw [h]
  rfl

theorem keys_poll (k : Keyboard) : k.poll.keys = k.keys := by
  obtain ⟨source, pending, recent, echo, shown⟩ := k
  rcases pending with _ | key
  · rcases source with _ | ⟨_ | ⟨key, waiting⟩, _ | _⟩ <;> rfl
  · rfl

/-- **A poll makes the first key pending**, if there is one. -/
theorem pending_poll (k : Keyboard) : k.poll.pending = k.keys.head? := by
  obtain ⟨source, pending, recent, echo, shown⟩ := k
  rcases pending with _ | key
  · rcases source with _ | ⟨_ | ⟨key, waiting⟩, _ | _⟩ <;> rfl
  · rfl

theorem recent_poll (k : Keyboard) : k.poll.recent = k.recent := by
  unfold poll
  split <;> rfl

theorem keys_close (k : Keyboard) : k.close.keys = k.keys := by
  unfold keys close
  cases k.source <;> rfl

/-! ## The line to the source -/

/-- Keys can still arrive. -/
def Listens (k : Keyboard) : Prop := ∃ waiting, k.source = some ⟨waiting, false⟩

theorem receive_of_listens (h : k.Listens) (keys : List Byte) :
    (k.receive keys).Listens ∧ (k.receive keys).keys = k.keys ++ keys := by
  obtain ⟨waiting, hsource⟩ := h
  have hreceive : k.receive keys = { k with source := some ⟨waiting ++ keys, false⟩ } := by
    unfold receive
    rw [hsource]
  rw [hreceive]
  refine ⟨⟨waiting ++ keys, rfl⟩, ?_⟩
  unfold Keyboard.keys
  rw [hsource]
  exact (List.append_assoc _ _ _).symm

theorem receive_of_not_listens (h : ¬ k.Listens) (keys : List Byte) : k.receive keys = k := by
  unfold receive
  split
  · next waiting hsource => exact absurd ⟨waiting, hsource⟩ h
  · rfl

theorem recent_receive (k : Keyboard) (keys : List Byte) : (k.receive keys).recent = k.recent := by
  unfold receive
  split <;> rfl

theorem listens_poll_iff : k.poll.Listens ↔ k.Listens := by
  obtain ⟨source, pending, recent, echo, shown⟩ := k
  rcases pending with _ | key
  · rcases source with _ | ⟨_ | ⟨key, waiting⟩, _ | _⟩
    -- a closed source is given up only when it is empty, and then no key can arrive before or after
    · exact Iff.rfl
    · exact Iff.rfl
    · exact ⟨fun ⟨_, h⟩ => (nomatch h), fun ⟨_, h⟩ => (nomatch h)⟩
    · exact ⟨fun _ => ⟨key :: waiting, rfl⟩, fun _ => ⟨waiting, rfl⟩⟩
    · exact ⟨fun ⟨_, h⟩ => (nomatch h), fun ⟨_, h⟩ => (nomatch h)⟩
  · exact Iff.rfl

theorem not_listens_close (k : Keyboard) : ¬ k.close.Listens := by
  rintro ⟨waiting, hsource⟩
  obtain ⟨s, -, hs⟩ := Option.map_eq_some_iff.1 hsource
  cases hs

/-! ## Serving -/

theorem serve_of_none (h : k.pending = none) : k.serve = (0, k) := by
  unfold serve
  rw [h]

theorem serve_of_some {key : Byte} (h : k.pending = some key) : k.serve = (key, { k with
    pending := none
    recent := (k.recent ++ [key]).drop (k.recent.length + 1 - recentLimit)
    shown := if k.echo then k.shown ++ [key] else k.shown }) := by
  unfold serve
  rw [h]

theorem source_serve (k : Keyboard) : k.serve.2.source = k.source := by
  cases h : k.pending with
  | none => rw [serve_of_none h]
  | some key => rw [serve_of_some h]

theorem pending_serve (k : Keyboard) : k.serve.2.pending = none := by
  cases h : k.pending with
  | none => rw [serve_of_none h, h]
  | some key => rw [serve_of_some h]

/-- The last bytes of a list that has grown are among the last ones of before and the new one. -/
theorem last_append (limit : Nat) (taken : List Byte) (key : Byte) :
    (taken.drop (taken.length - limit) ++ [key]).drop ((taken.drop (taken.length - limit)).length + 1 - limit) =
      (taken ++ [key]).drop ((taken ++ [key]).length - limit) := by
  rw [← List.drop_append_of_le_length (Nat.sub_le _ _), List.drop_drop, List.length_drop, List.length_append,
    List.length_singleton]
  congr 1
  omega

/-- The keyboard remembers the last ones of the keys that it has delivered. -/
def Remembers (k : Keyboard) (delivered : List Byte) : Prop :=
  k.recent = delivered.drop (delivered.length - recentLimit)

theorem Remembers.serve {delivered : List Byte} (h : k.Remembers delivered) :
    k.serve.2.Remembers (delivered ++ k.pending.toList) := by
  cases hpending : k.pending with
  | none =>
    rw [serve_of_none hpending, Option.toList_none, List.append_nil]
    exact h
  | some key =>
    rw [serve_of_some hpending]
    unfold Remembers
    rw [h]
    exact last_append recentLimit delivered key

end Keyboard
end CoopCpu

import CoopCpu.Device.Keyboard.Use
import CoopCpu.Proofs.KeyQueue
/-!
# Proofs.KeyConservation — no key is lost or delivered twice, and the last ones are remembered

A key goes from the source to the pending place and from there to whoever serves the keyboard, and polling, closing and
serving keep the order (`Keyboard.deliveredBy_append_keys`).  So what has been delivered and what is still there is what
has arrived, however the uses of the keyboard follow one another, until it is disabled; from then on nothing changes any
more (`Keyboard.Silent.after`).
-/
namespace CoopCpu
namespace Keyboard

variable {k : Keyboard} {u : Use} {isOpen : Bool} {delivered : List Byte}

theorem deliveredBy_serving (k : Keyboard) : k.deliveredBy .serving = k.pending.toList := by
  unfold deliveredBy
  cases h : k.pending with
  | none => rfl
  | some key => rw [serve_of_some h]; rfl

/-! ## The keys there are -/

/-- **The line is open or closed as it was left**, as long as the keyboard is not disabled. -/
theorem listens_undergo (line : k.Listens ↔ isOpen = true) (h : u ≠ .disabling) :
    (k.undergo u).Listens ↔ u.leavesOpen isOpen = true := by
  cases u with
  | arrival keys =>
    by_cases listens : k.Listens
    · exact iff_of_true (receive_of_listens listens keys).1 (line.1 listens)
    · show (k.receive keys).Listens ↔ isOpen = true
      rw [receive_of_not_listens listens, line]
  | closing => exact iff_of_false k.not_listens_close Bool.false_ne_true
  | asking => exact listens_poll_iff.trans line
  | serving =>
    unfold Listens undergo
    rw [source_serve]
    exact line
  | disabling => exact absurd rfl h

/-- **What is delivered and what is left is what there was and what arrives.** -/
theorem deliveredBy_append_keys (line : k.Listens ↔ isOpen = true) (h : u ≠ .disabling) :
    k.deliveredBy u ++ (k.undergo u).keys = k.keys ++ u.arriving isOpen := by
  cases u with
  | arrival keys =>
    show (k.receive keys).keys = k.keys ++ if isOpen then keys else []
    by_cases listens : k.Listens
    · rw [(receive_of_listens listens keys).2, if_pos (line.1 listens)]
    · rw [receive_of_not_listens listens, if_neg (fun h => listens (line.2 h)), List.append_nil]
  | closing => exact k.keys_close.trans (List.append_nil _).symm
  | asking => exact k.keys_poll.trans (List.append_nil _).symm
  | serving =>
    show k.deliveredBy .serving ++ k.serve.2.keys = k.keys ++ []
    rw [deliveredBy_serving, List.append_nil]
    unfold keys
    rw [source_serve, pending_serve]
    rfl
  | disabling => exact absurd rfl h

theorem deliveredIn_append_keys : ∀ {uses : List Use} {k : Keyboard} {isOpen : Bool}, (k.Listens ↔ isOpen = true) →
    .disabling ∉ uses → k.deliveredIn uses ++ (k.after uses).keys = k.keys ++ Use.arrivals isOpen uses
  | [], _, _, _, _ => (List.append_nil _).symm
  | u :: rest, k, isOpen, line, enabled => by
    have hu : u ≠ .disabling := fun h => enabled (h ▸ List.mem_cons_self)
    have hrest := deliveredIn_append_keys (listens_undergo line hu) fun h => enabled (List.mem_cons_of_mem u h)
    show k.deliveredBy u ++ (k.undergo u).deliveredIn rest ++ ((k.undergo u).after rest).keys =
      k.keys ++ (u.arriving isOpen ++ Use.arrivals (u.leavesOpen isOpen) rest)
    rw [List.append_assoc, hrest, ← List.append_assoc, deliveredBy_append_keys line hu, List.append_assoc]

/-! ## The pending key -/

theorem pending_undergo {key : Byte} (pending : k.pending = some key) (unserved : u ≠ .serving)
    (enabled : u ≠ .disabling) : (k.undergo u).pending = some key := by
  cases u with
  | arrival keys =>
    show (k.receive keys).pending = some key
    unfold receive
    split <;> exact pending
  | closing => exact pending
  | asking =>
    show k.poll.pending = some key
    rw [pending_poll, keys_of_pending pending]
    rfl
  | serving => exact absurd rfl unserved
  | disabling => exact absurd rfl enabled

theorem pending_after {key : Byte} : ∀ {uses : List Use} {k : Keyboard}, k.pending = some key → .serving ∉ uses →
    .disabling ∉ uses → (k.after uses).pending = some key
  | [], _, pending, _, _ => pending
  | u :: rest, k, pending, unserved, enabled => by
    have step : (k.undergo u).pending = some key :=
      pending_undergo pending (fun h => unserved (h ▸ List.mem_cons_self)) fun h => enabled (h ▸ List.mem_cons_self)
    show ((k.undergo u).after rest).pending = some key
    exact pending_after step (fun h => unserved (List.mem_cons_of_mem u h)) fun h => enabled (List.mem_cons_of_mem u h)

/-- **A keyboard wants to be served when it has a key left**, pending or at its source. -/
theorem wantsService_iff (k : Keyboard) : k.wantsService = true ↔ k.keys ≠ [] := by
  unfold wantsService
  rw [pending_poll, List.isSome_head?]

theorem wantsService_after {uses : List Use} (wants : k.wantsService = true) (unserved : .serving ∉ uses)
    (enabled : .disabling ∉ uses) : (k.poll.after uses).wantsService = true := by
  obtain ⟨key, pending⟩ := Option.isSome_iff_exists.1 wants
  rw [wantsService_iff, keys_of_pending (pending_after pending unserved enabled)]
  exact List.cons_ne_nil _ _

/-! ## The keys remembered -/

theorem Remembers.suffix (h : k.Remembers delivered) :
    k.recent <:+ delivered ∧ k.recent.length = min recentLimit delivered.length := by
  rw [h]
  refine ⟨List.drop_suffix _ _, ?_⟩
  rw [List.length_drop]
  omega

theorem Remembers.undergo (h : k.Remembers delivered) (u : Use) :
    (k.undergo u).Remembers (delivered ++ k.deliveredBy u) := by
  -- only a serving delivers a key
  have unserved {k' : Keyboard} (hk : k'.recent = k.recent) : k'.Remembers (delivered ++ []) := by
    rw [List.append_nil]
    exact hk.trans h
  cases u with
  | arrival keys => exact unserved (k.recent_receive keys)
  | closing => exact unserved rfl
  | asking => exact unserved k.recent_poll
  | disabling => exact unserved rfl
  | serving =>
    rw [deliveredBy_serving]
    exact h.serve

theorem Remembers.after : ∀ {uses : List Use} {k : Keyboard} {delivered : List Byte}, k.Remembers delivered →
    (k.after uses).Remembers (delivered ++ k.deliveredIn uses)
  | [], k, delivered, h => by
    rw [deliveredIn, List.append_nil]
    exact h
  | u :: rest, k, delivered, h => by
    have hrest : ((k.undergo u).after rest).Remembers _ := (h.undergo u).after
    rw [List.append_assoc] at hrest
    exact hrest

/-! ## A keyboard that is disabled -/

/-- There is no source and no key is pending. -/
def Silent (k : Keyboard) : Prop := k.source = none ∧ k.pending = none

theorem silent_disable (k : Keyboard) : k.disable.Silent := ⟨rfl, rfl⟩

namespace Silent

theorem undergo (h : k.Silent) (u : Use) : k.undergo u = k ∧ k.deliveredBy u = [] := by
  obtain ⟨source, pending, recent, echo, shown⟩ := k
  obtain ⟨rfl, rfl⟩ := h
  cases u <;> exact ⟨rfl, rfl⟩

theorem after (h : k.Silent) : ∀ uses : List Use, k.after uses = k ∧ k.deliveredIn uses = []
  | [] => ⟨rfl, rfl⟩
  | u :: rest => by
    unfold Keyboard.after deliveredIn
    rw [(h.undergo u).1, (h.undergo u).2]
    exact h.after rest

theorem keys_eq_nil (h : k.Silent) : k.keys = [] := by
  unfold keys
  rw [h.1, h.2]
  rfl

theorem wantsService (h : k.Silent) : k.wantsService = false :=
  Bool.eq_false_iff.2 fun wants => k.wantsService_iff.1 wants h.keys_eq_nil

end Silent

/-! ## A keyboard in use -/

theorem listens_listeningTo (s : KeySource) : (listeningTo s).Listens ↔ (!s.closed) = true := by
  obtain ⟨waiting, closed⟩ := s
  rw [Bool.not_eq_true']
  refine ⟨fun ⟨_, hsource⟩ => ?_, fun h => ⟨waiting, ?_⟩⟩
  · cases hsource
    rfl
  · cases h
    rfl

/-- **A keyboard loses no key and delivers none twice.**  Let a new keyboard be used in any way.  Until it is disabled, what
its servings have delivered and the keys still there are what was waiting at its source and what has arrived, in that order.
Asking it takes no key away, and it wants to be served when there is a key; once it has wanted that, it does so until it is
served or disabled.  A serving without a pending key delivers 0 and changes nothing.  It remembers the last ones of all keys
delivered, as many as it can.  Disabled, it stays as it is, whatever is done with it, and delivers nothing; it still
remembers those keys. -/
theorem keys_conserved (s : KeySource) (uses : List Use) :
    let k := (listeningTo s).after uses
    let delivered := (listeningTo s).deliveredIn uses
    (.disabling ∉ uses → delivered ++ k.keys = s.waiting ++ Use.arrivals (!s.closed) uses) ∧
    k.poll.keys = k.keys ∧ (k.wantsService = true ↔ k.keys ≠ []) ∧
    (k.wantsService = true → ∀ more : List Use, .serving ∉ more → .disabling ∉ more →
      (k.poll.after more).wantsService = true) ∧
    (k.pending = none → k.serve = (0, k)) ∧
    k.recent <:+ delivered ∧ k.recent.length = min recentLimit delivered.length ∧
    k.disable.recent = k.recent ∧
    ∀ more : List Use, k.disable.after more = k.disable ∧ k.disable.deliveredIn more = [] ∧
      (k.disable.after more).wantsService = false := by
  intro k delivered
  have nothing : (listeningTo s).Remembers [] := rfl
  have remembered : k.Remembers delivered := nothing.after
  obtain ⟨last, count⟩ := remembered.suffix
  refine ⟨fun enabled => ?_, k.keys_poll, k.wantsService_iff, fun wants _ => wantsService_after wants, serve_of_none,
    last, count, rfl, fun more => ?_⟩
  · exact deliveredIn_append_keys (listens_listeningTo s) enabled
  · obtain ⟨unchanged, silent⟩ := k.silent_disable.after more
    refine ⟨unchanged, silent, ?_⟩
    rw [unchanged]
    exact k.silent_disable.wantsService

/-- Both keys that arrive are delivered, the second after the source has been closed; what is sent after that is lost. -/
example :
    let k := listeningTo ⟨[], false⟩
    let uses : List Use := [.arrival [7, 8], .asking, .closing, .arrival [9], .serving, .serving, .asking, .serving, .asking]
    k.deliveredIn uses = [7, 8] ∧ (k.after uses).recent = [7, 8] ∧ (k.after uses).source = none := by decide

end Keyboard
end CoopCpu

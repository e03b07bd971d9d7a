import CoopCpu.Proofs.MemoryAccess
/-!
# Proofs.Placement — an image in a memory

An image that is loaded stands at its address, whole, and the bytes before and after it are those that were there
(`Memory.Placed`).  One that is longer than the rest of the memory is refused, and the memory stays as it was.  Only an
empty image that is to stand beyond the end is neither placed nor refused for its length (`load_places_iff`).
-/
namespace CoopCpu
namespace Memory

variable {m m' : Memory} {start : Address} {image : Array Byte}

/-- The number of bytes from an address to the end. -/
def room (m : Memory) (start : Address) : Nat := m.size - start.toNat

structure Placed (m : Memory) (start : Address) (image : Array Byte) (m' : Memory) : Prop where
  size : m'.size = m.size
  inside : ∀ i, i < image.size → m'.bytes[start.toNat + i]? = image[i]?
  outside : ∀ p, p < start.toNat ∨ start.toNat + image.size ≤ p → m'.bytes[p]? = m.bytes[p]?

theorem placed_of_fits (fits : start.toNat + image.size ≤ m.size) : m.Placed start image
    ⟨m.bytes.extract 0 start.toNat ++ image ++ m.bytes.extract (start.toNat + image.size) m.size⟩ := by
  have whole : m.bytes.size = m.size := rfl
  have before : (m.bytes.extract 0 start.toNat).size = start.toNat := by rw [Array.size_extract]; omega
  have through : (m.bytes.extract 0 start.toNat ++ image).size = start.toNat + image.size := by
    rw [Array.size_append, before]
  refine ⟨?_, fun i hi => ?_, ?_⟩
  · show (_ : Array Byte).size = m.size
    rw [Array.size_append, through, Array.size_extract]
    omega
  · rw [Array.getElem?_append_left (by omega), Array.getElem?_append_right (by omega), before, Nat.add_sub_cancel_left]
  · rintro p (below | above)
    · rw [Array.getElem?_append_left (by omega), Array.getElem?_append_left (by omega), Array.getElem?_extract,
        if_pos (by omega), Nat.zero_add]
    · rw [Array.getElem?_append_right (by omega), through, Array.getElem?_extract]
      by_cases inside : p < m.size
      · rw [if_pos (by omega), Nat.add_sub_cancel' above]
      · rw [if_neg (by omega), Array.getElem?_eq_none (by omega)]

/-! ## Loading -/

theorem load_of_fits (fits : start.toNat + image.size ≤ m.size) :
    ∃ m', m.load start image = .ok m' ∧ m.Placed start image m' := by
  refine ⟨_, ?_, placed_of_fits fits⟩
  unfold load
  rw [if_neg (by omega), if_neg (by omega)]

theorem load_of_large (large : m.room start < image.size) :
    m.load start image = .error (.tooLarge image.size (m.room start)) :=
  if_pos large

theorem load_of_beyond (empty : image.size = 0) (beyond : m.size < start.toNat) :
    m.load start image = .error .startBeyondEnd := by
  unfold load
  rw [if_neg (by omega), if_pos beyond]

/-- **What is loaded fits, and stands where it was to stand.** -/
theorem placed_of_load (h : m.load start image = .ok m') :
    start.toNat + image.size ≤ m.size ∧ m.Placed start image m' := by
  by_cases large : m.room start < image.size
  · rw [load_of_large large] at h
    cases h
  · unfold room at large
    by_cases beyond : m.size < start.toNat
    · rw [load_of_beyond (by omega) beyond] at h
      cases h
    · have fits : start.toNat + image.size ≤ m.size := by omega
      obtain ⟨loaded, hload, placed⟩ := load_of_fits fits
      rw [hload] at h
      cases h
      exact ⟨fits, placed⟩

/-- What is left of a memory: what a change has come to, or the memory as it was if the change is refused. -/
def after (m : Memory) (outcome : Except LoadError Memory) : Memory := outcome.toOption.getD m

/-- Loading as one counts on it: an image is placed if there is room for it, and otherwise it is refused, with its length and
the room there is, and changes nothing. -/
structure Places (m : Memory) (start : Address) (image : Array Byte) (outcome : Except LoadError Memory) : Prop where
  accepted : (∃ m', outcome = .ok m') ↔ image.size ≤ m.room start
  refused : ∀ e, outcome = .error e → e = .tooLarge image.size (m.room start)
  placed : image.size ≤ m.room start → m.Placed start image (m.after outcome)
  unchanged : m.room start < image.size → m.after outcome = m

theorem places_of_fits (fits : start.toNat + image.size ≤ m.size) : m.Places start image (m.load start image) := by
  have enough : image.size ≤ m.room start := by unfold room; omega
  obtain ⟨m', hload, placed⟩ := load_of_fits fits
  rw [hload]
  exact ⟨⟨fun _ => enough, fun _ => ⟨m', rfl⟩⟩, fun _ h => (by cases h), fun _ => placed,
    fun large => absurd enough (Nat.not_le.2 large)⟩

theorem places_of_large (large : m.room start < image.size) : m.Places start image (m.load start image) := by
  rw [load_of_large large]
  exact ⟨⟨fun ⟨_, h⟩ => (by cases h), fun enough => absurd enough (Nat.not_le.2 large)⟩, fun _ h => (by cases h; rfl),
    fun enough => absurd enough (Nat.not_le.2 large), fun _ => rfl⟩

theorem not_places_of_beyond (empty : image.size = 0) (beyond : m.size < start.toNat) :
    ¬ m.Places start image (m.load start image) := by
  intro places
  cases places.refused _ (load_of_beyond empty beyond)

/-- **Loading places an image or refuses it as a whole**, but for an empty image beyond the end: for that there is room, and
yet no place. -/
theorem load_places_iff (m : Memory) (start : Address) (image : Array Byte) :
    (m.Places start image (m.load start image) ↔ (image.size = 0 → start.toNat ≤ m.size)) ∧
    (m.load start image = .error .startBeyondEnd ↔ image.size = 0 ∧ m.size < start.toNat) := by
  by_cases stray : image.size = 0 ∧ m.size < start.toNat
  · obtain ⟨empty, beyond⟩ := stray
    refine ⟨⟨fun places => absurd places (not_places_of_beyond empty beyond), fun within => ?_⟩,
      fun _ => ⟨empty, beyond⟩, fun _ => load_of_beyond empty beyond⟩
    exact absurd (within empty) (Nat.not_le.2 beyond)
  · have places : m.Places start image (m.load start image) := by
      by_cases large : m.room start < image.size
      · exact places_of_large large
      · exact places_of_fits (by unfold room at large; omega)
    refine ⟨⟨fun _ empty => ?_, fun _ => places⟩, fun h => ?_, fun h => absurd h stray⟩
    · exact Nat.le_of_not_lt fun beyond => stray ⟨empty, beyond⟩
    · cases places.refused _ h

/-- **An empty image is not placed beyond the end**, though there is room for it. -/
theorem empty_beyond_not_placed :
    (#[] : Array Byte).size ≤ room ⟨#[0, 0, 0, 0]⟩ 5 ∧ load ⟨#[0, 0, 0, 0]⟩ 5 #[] = .error .startBeyondEnd ∧
      ¬ Places ⟨#[0, 0, 0, 0]⟩ 5 #[] (load ⟨#[0, 0, 0, 0]⟩ 5 #[]) :=
  ⟨by decide, rfl, not_places_of_beyond rfl (by decide)⟩

end Memory
end CoopCpu

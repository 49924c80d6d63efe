import AttestedImaging.Proofs.Table

/-!
# When the software provider has room

A search for a free handle comes back empty only when every handle is live, so an allocation is
granted exactly while fewer handles are live than `capacity` says.
-/

namespace AttestedImaging

namespace Software

/-! ## Free handles -/

theorem toNat_successor (h : Handle) :
    (successor h).raw.toNat = if h.raw.toNat = 0xFFFFFFFF then 1 else h.raw.toNat + 1 := by
  unfold successor
  by_cases hlast : h.raw = 0xFFFFFFFF
  · rw [if_pos hlast, if_pos (by rw [hlast]; rfl)]
    rfl
  · have hne : h.raw.toNat ≠ 0xFFFFFFFF := fun hn => hlast (UInt32.toNat_inj.mp hn)
    have hlt := h.raw.toNat_lt
    rw [if_neg hlast, if_neg hne, UInt32.toNat_add]
    simp only [UInt32.toNat_one]
    omega

theorem toNat_iterate_successor {i : Nat} (hi : i < 0xFFFFFFFF) (h : Handle) :
    (successor^[i] h).raw.toNat =
      if h.raw.toNat + i ≤ 0xFFFFFFFF then h.raw.toNat + i else h.raw.toNat + i - 0xFFFFFFFF := by
  induction i with
  | zero =>
    have := h.raw.toNat_lt
    rw [if_pos (by omega)]
    rfl
  | succ i ih =>
    have := h.raw.toNat_lt
    rw [Function.iterate_succ_apply', toNat_successor, ih (by omega)]
    split_ifs <;> omega

theorem iterate_successor_inj {i j : Nat} (hi : i < 0xFFFFFFFF) (hj : j < 0xFFFFFFFF) {h : Handle}
    (he : successor^[i] h = successor^[j] h) : i = j := by
  have := h.raw.toNat_lt
  have hn := congrArg (fun k : Handle => k.raw.toNat) he
  simp only [toNat_iterate_successor hi, toNat_iterate_successor hj] at hn
  split_ifs at hn <;> omega

theorem successor_ne_zero (h : Handle) : (successor h).raw ≠ 0 := by
  intro h0
  have hn := toNat_successor h
  rw [h0, UInt32.toNat_zero] at hn
  split_ifs at hn

theorem firstFree?_eq_none {entries : Assoc Handle Entry} {tries : Nat} {start : Handle}
    (h : firstFree? entries tries start = none) {i : Nat} (hi : i < tries) :
    successor^[i] start ∈ entries.keys := by
  induction tries generalizing start i with
  | zero => omega
  | succ tries ih =>
    rw [firstFree?] at h
    split at h
    · rename_i hlive
      cases i with
      | zero =>
        refine Classical.byContradiction fun hout => ?_
        have hnone : entries.get? start = none := (Assoc.get?_eq_none_iff start entries).mpr hout
        rw [Assoc.contains, hnone] at hlive
        cases hlive
      | succ i => exact ih h (by omega)
    · cases h

theorem firstFree?_ne_zero {entries : Assoc Handle Entry} {tries : Nat} {start h : Handle}
    (hfree : firstFree? entries tries start = some h) (hstart : start.raw ≠ 0) : h.raw ≠ 0 := by
  induction tries generalizing start with
  | zero => cases hfree
  | succ tries ih =>
    rw [firstFree?] at hfree
    split at hfree
    · exact ih hfree (successor_ne_zero start)
    · cases hfree
      exact hstart

theorem firstFree?_ne_none {entries : Assoc Handle Entry} (hroom : entries.length < 0xFFFFFFFF)
    (start : Handle) : firstFree? entries (entries.length + 1) start ≠ none := by
  intro h
  have hnodup : ((List.range (entries.length + 1)).map (successor^[·] start)).Nodup := by
    refine List.Nodup.map_on (fun i hi j hj he => ?_) List.nodup_range
    rw [List.mem_range] at hi hj
    exact iterate_successor_inj (by omega) (by omega) he
  have hlive : (List.range (entries.length + 1)).map (successor^[·] start) ⊆ entries.keys := by
    intro k hk
    obtain ⟨i, hi, rfl⟩ := List.mem_map.mp hk
    exact firstFree?_eq_none h (List.mem_range.mp hi)
  have hle := hnodup.length_le_of_subset hlive
  simp [Assoc.keys] at hle

/-! ## Room in the table -/

/-- How many handles can be live at once: as many as the limit allows, and no more than there are. A
handle is a word other than 0. -/
def capacity (s : Software) : Nat := min s.limit 0xFFFFFFFF

/-- What holds of a provider that has only been used by its calls. -/
structure Regular (s : Software) : Prop where
  nodup : s.entries.keys.Nodup
  nonzero : ∀ k ∈ s.entries.keys, k.raw ≠ 0
  next : s.next.raw ≠ 0

theorem regular_initial (limit : Nat) (randomness : Randomness) :
    Regular { limit, randomness } :=
  ⟨List.nodup_nil, by simp [Assoc.keys], show (1 : UInt32) ≠ 0 by decide⟩

theorem Regular.put {s : Software} (hs : s.Regular) {h : Handle} (hnew : s.entries.get? h = none)
    (hzero : h.raw ≠ 0) (entry : Entry) :
    Regular { s with entries := s.entries.put h entry, next := successor h } where
  nodup := by
    have hout := (Assoc.get?_eq_none_iff h s.entries).mp hnew
    rw [Assoc.keys_put_of_get?_none entry hnew]
    refine List.nodup_append.mpr ⟨hs.nodup, List.nodup_singleton h, ?_⟩
    rintro k hk k' hk' rfl
    rw [List.mem_singleton.mp hk'] at hk
    exact hout hk
  nonzero k hk := by
    rw [Assoc.keys_put_of_get?_none entry hnew, List.mem_append, List.mem_singleton] at hk
    rcases hk with hk | rfl
    · exact hs.nonzero k hk
    · exact hzero
  next := successor_ne_zero h

theorem Regular.erase {s : Software} (hs : s.Regular) (h : Handle) :
    Regular { s with entries := s.entries.erase h } where
  nodup := (Assoc.keys_erase_sublist h s.entries).nodup hs.nodup
  nonzero k hk := hs.nonzero k ((Assoc.keys_erase_sublist h s.entries).subset hk)
  next := hs.next

theorem Regular.of_randomness {s : Software} (hs : s.Regular) (randomness : Randomness) :
    Regular { s with randomness } := ⟨hs.nodup, hs.nonzero, hs.next⟩

theorem Regular.live_lt {s : Software} (hs : s.Regular) {h : Handle}
    (hnew : s.entries.get? h = none) (hzero : h.raw ≠ 0) : s.live < 0xFFFFFFFF := by
  have hout := (Assoc.get?_eq_none_iff h s.entries).mp hnew
  -- With the new one the handles are different words, none of which is 0.
  have hnodup : ((h :: s.entries.keys).map fun k => k.raw.toNat).Nodup := by
    refine List.Nodup.map_on (fun k _ k' _ he => ?_) (List.nodup_cons.mpr ⟨hout, hs.nodup⟩)
    have hraw : k.raw = k'.raw := UInt32.toNat_inj.mp he
    cases k
    cases k'
    exact congrArg Handle.mk hraw
  have hrange : ((h :: s.entries.keys).map fun k => k.raw.toNat) ⊆ List.range' 1 0xFFFFFFFF := by
    intro n hn
    obtain ⟨k, hk, rfl⟩ := List.mem_map.mp hn
    have hk0 : k.raw ≠ 0 := by
      rcases List.mem_cons.mp hk with rfl | hk
      · exact hzero
      · exact hs.nonzero k hk
    have hpos : k.raw.toNat ≠ 0 := fun h0 => hk0 (UInt32.toNat_inj.mp h0)
    have hlt := k.raw.toNat_lt
    rw [List.mem_range'_1]
    omega
  have hle := hnodup.length_le_of_subset hrange
  rw [List.length_map, List.length_cons, Assoc.keys, List.length_map, List.length_range'] at hle
  exact hle

/-- An allocation adds an entry under a new handle if there is room, and is refused otherwise. -/
theorem Regular.insert_cases {s t : Software} (hs : s.Regular) {entry : Entry}
    {answer : Except ProviderError Handle} (h : s.insert entry = (answer, t)) :
    (∃ k, answer = .ok k ∧ s.live < s.capacity ∧ s.entries.get? k = none ∧ k.raw ≠ 0 ∧
      t = { s with entries := s.entries.put k entry, next := successor k }) ∨
    (answer = .error (.slotsExhausted s.limit) ∧ ¬ s.live < s.capacity ∧ t = s) := by
  rcases insert_inv h with ⟨k, hfresh, rfl, rfl⟩ | ⟨hfresh, rfl, rfl⟩
  · have hnew := get?_of_fresh? hfresh
    have hzero : k.raw ≠ 0 ∧ s.live < s.limit := by
      unfold fresh? at hfresh
      split at hfresh
      · rename_i hroom
        exact ⟨firstFree?_ne_zero hfresh hs.next, hroom⟩
      · cases hfresh
    have hroom : s.live < s.capacity := Nat.lt_min.mpr ⟨hzero.2, hs.live_lt hnew hzero.1⟩
    exact .inl ⟨k, rfl, hroom, hnew, hzero.1, rfl⟩
  · refine .inr ⟨rfl, fun hroom => ?_, rfl⟩
    rw [capacity, Nat.lt_min] at hroom
    rw [fresh?, if_pos hroom.1] at hfresh
    exact firstFree?_ne_none hroom.2 _ hfresh

theorem Regular.allocate {s s' : Software} (hs : s.Regular) {request : Allocation}
    {answer : Except ProviderError Handle} (h : allocate request s = (answer, s')) :
    s'.Regular ∧ s'.limit = s.limit := by
  rcases allocate_inv h with ⟨entry, randomness, -, hinsert⟩ | ⟨-, rfl⟩
  · have hdrawn := hs.of_randomness randomness
    rcases hdrawn.insert_cases hinsert with ⟨k, -, -, hnew, hzero, rfl⟩ | ⟨-, -, rfl⟩
    · exact ⟨hdrawn.put hnew hzero entry, rfl⟩
    · exact ⟨hdrawn, rfl⟩
  · exact ⟨hs, rfl⟩

theorem Regular.release {s s' : Software} (hs : s.Regular) {x : Holding} {found : Bool}
    (h : release x s = (found, s')) : s'.Regular ∧ s'.limit = s.limit := by
  rcases release_inv h with ⟨entry, -, -, -, rfl⟩ | ⟨-, -, rfl⟩
  · exact ⟨hs.erase x.handle, rfl⟩
  · exact ⟨hs, rfl⟩

theorem Regular.answers {s t : Software} (hs : s.Regular) {calls : List Call}
    (h : provider.Answers s calls t) : t.Regular ∧ t.limit = s.limit := by
  induction h with
  | nil => exact ⟨hs, rfl⟩
  | allocate ha _ ih =>
    obtain ⟨hs', hlimit⟩ := hs.allocate ha
    exact ⟨(ih hs').1, (ih hs').2.trans hlimit⟩
  | compute hc _ ih =>
    cases hc
    exact ih hs
  | release hr _ ih =>
    obtain ⟨hs', hlimit⟩ := hs.release hr
    exact ⟨(ih hs').1, (ih hs').2.trans hlimit⟩

end Software

end AttestedImaging

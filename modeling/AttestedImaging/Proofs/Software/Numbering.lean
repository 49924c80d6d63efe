import AttestedImaging.Proofs.Software

/-!
# Which handles are given out

The search for a free handle starts after the one that was given out last. Until the numbers come round
all handles from there on are free, so the first of them is taken: handles are numbered in the order in
which they are given out, and one that has been given up does not come back.
-/

namespace AttestedImaging

def Call.issued? : Call → Option Handle
  | .allocate _ answer => answer.toOption
  | .compute _ _ | .release _ => none

namespace Software

theorem release_subset {x : Holding} {s t : Software} {found : Bool}
    (h : release x s = (found, t)) : t.entries.keys ⊆ s.entries.keys ∧ t.next = s.next := by
  rcases release_inv h with ⟨entry, -, -, -, rfl⟩ | ⟨-, -, rfl⟩
  · exact ⟨(Assoc.keys_erase_sublist x.handle s.entries).subset, rfl⟩
  · exact ⟨fun _ hk => hk, rfl⟩

/-- `n` handles have been given out, numbered from 1. -/
structure Numbered (n : Nat) (s : Software) : Prop where
  next : s.next.raw.toNat = n + 1
  live : ∀ k ∈ s.entries.keys, k.raw.toNat ≤ n

namespace Numbered

variable {n : Nat} {s t : Software}

theorem initial (limit : Nat) (randomness : Randomness) : Numbered 0 { limit, randomness } :=
  ⟨rfl, by simp [Assoc.keys]⟩

theorem fresh?_eq (hs : s.Numbered n) {k : Handle} (hk : s.fresh? = some k) : k = s.next := by
  have hfree : s.next ∉ s.entries.keys := by
    intro hin
    have := hs.live s.next hin
    have := hs.next
    omega
  have hget : s.entries.get? s.next = none := (Assoc.get?_eq_none_iff _ _).mpr hfree
  have hcontains : s.entries.contains s.next = false := by rw [Assoc.contains, hget]; rfl
  unfold fresh? at hk
  split at hk
  · rw [firstFree?, hcontains] at hk
    exact (Option.some.inj hk).symm
  · cases hk

theorem granted (hs : s.Numbered n) (hn : n + 1 < 0xFFFFFFFF) {request : Allocation} {k : Handle}
    (h : allocate request s = (.ok k, t)) : k.raw.toNat = n + 1 ∧ t.Numbered (n + 1) := by
  rcases allocate_inv h with ⟨entry, randomness, -, hinsert⟩ | ⟨⟨e, he⟩, -⟩
  · rcases insert_inv hinsert with ⟨k', hfresh, hok, rfl⟩ | ⟨-, he, -⟩
    · obtain rfl := Except.ok.inj hok
      have hfresh : s.fresh? = some k := hfresh
      have hnew := get?_of_fresh? hfresh
      obtain rfl := hs.fresh?_eq hfresh
      refine ⟨hs.next, ?_, fun k hk => ?_⟩
      · rw [toNat_successor, hs.next]
        split_ifs
        · omega
        · rfl
      · rw [Assoc.keys_put_of_get?_none _ hnew, List.mem_append, List.mem_singleton] at hk
        rcases hk with hk | rfl
        · have := hs.live k hk
          omega
        · exact hs.next.le
    · cases he
  · cases he

theorem refused (hs : s.Numbered n) {request : Allocation} {e : ProviderError}
    (h : allocate request s = (.error e, t)) : t.Numbered n := by
  rcases allocate_inv h with ⟨entry, randomness, -, hinsert⟩ | ⟨-, rfl⟩
  · rcases insert_inv hinsert with ⟨k, -, hok, -⟩ | ⟨-, -, rfl⟩
    · cases hok
    · exact ⟨hs.next, hs.live⟩
  · exact hs

theorem released (hs : s.Numbered n) {x : Holding} {found : Bool} (h : release x s = (found, t)) :
    t.Numbered n := by
  obtain ⟨hsubset, hnext⟩ := release_subset h
  exact ⟨by rw [hnext, hs.next], fun k hk => hs.live k (hsubset hk)⟩

/-- None of the handles that were given out before comes to be live again. -/
theorem answers (hs : s.Numbered n) {calls : List Call} (ha : provider.Answers s calls t)
    (hfew : n + (calls.filterMap Call.issued?).length < 0xFFFFFFFF) :
    (calls.filterMap Call.issued?).map (·.raw.toNat) =
        List.range' (n + 1) (calls.filterMap Call.issued?).length ∧
      t.Numbered (n + (calls.filterMap Call.issued?).length) ∧
      ∀ h, h.raw.toNat ≤ n → h ∉ s.entries.keys → h ∉ t.entries.keys := by
  -- The bound is on all that is given out, so each number is taken while there are more to come.
  induction ha generalizing n with
  | nil => exact ⟨rfl, hs, fun h _ hout => hout⟩
  | @allocate request answer s s' t calls hk _ ih =>
    have hk : allocate request s = (answer, s') := hk
    rcases answer with e | k
    · have hentries : s'.entries = s.entries := keepsTable.refused hk
      have hrest := ih (hs.refused hk) hfew
      rw [hentries] at hrest
      exact hrest
    · have hcons : (Call.allocate request (.ok k) :: calls).filterMap Call.issued? =
          k :: calls.filterMap Call.issued? := rfl
      rw [hcons, List.length_cons] at hfew ⊢
      obtain ⟨hnumber, hs'⟩ := hs.granted (by omega) hk
      obtain ⟨hnumbers, ht, hout⟩ := ih hs' (by omega)
      refine ⟨?_, ?_, fun h hle hnot => ?_⟩
      · rw [List.map_cons, hnumber, hnumbers, List.range'_succ]
      · rwa [Nat.add_assoc, Nat.add_comm 1] at ht
      · apply hout h (by omega)
        obtain ⟨entry, hnew, -, hput⟩ := keepsTable.granted hk
        rw [hput, Assoc.keys_put_of_get?_none _ hnew, List.mem_append, List.mem_singleton]
        rintro (hin | rfl)
        · exact hnot hin
        · omega
  | compute hc _ ih =>
    cases hc
    exact ih hs hfew
  | @release x found s s' t calls hr _ ih =>
    obtain ⟨hnumbers, ht, hout⟩ := ih (hs.released hr) hfew
    have hsubset := (release_subset hr).1
    exact ⟨hnumbers, ht, fun h hle hnot => hout h hle fun hin => hnot (hsubset hin)⟩

end Numbered

end Software

end AttestedImaging

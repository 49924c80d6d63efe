import AttestedImaging.Proofs.Attestation.Keyed
import AttestedImaging.Proofs.Software.Numbering

/-!
# What an invocation leaves of the provider

Operations that have ended leave nothing but a search that goes on further on, and a key that was
released is gone. Other keys stand as before, and there is no less room than there was.
-/

namespace AttestedImaging.Software

def without (freed : Option Handle) (entries : Assoc Handle Entry) : Assoc Handle Entry :=
  freed.elim entries fun k => entries.erase k

/-- What is left after so many operations, and after this key was released. -/
def spent (operations : Nat) (freed : Option Handle) (s : Software) : Software :=
  let t := pass^[operations] s
  { t with entries := without freed t.entries }

variable {k : Handle} {d : P256.Scalar} {s : Software}

theorem released_key {t : Software} (hk : s.key k = .ok d)
    (ha : provider.Answers s (Call.releases [.key k]) t) :
    t = { s with entries := s.entries.erase k } := by
  have hget : s.entries.get? k = some (.key d) := key_eq_ok_iff.mp hk
  cases ha with
  | release hr ha =>
  obtain rfl := ha.of_nil
  have hrelease : release (.key k) s = (true, { s with entries := s.entries.erase k }) := by
    simp [release, Holding.handle, hget, matchesHolding, Entry.isOperation]
  exact (congrArg Prod.snd (hrelease.symm.trans hr)).symm

theorem passes_eq (n : Nat) (s : Software) : ∃ next, pass^[n] s = { s with next } := by
  induction n with
  | zero => exact ⟨s.next, rfl⟩
  | succ n ih =>
    obtain ⟨next, hn⟩ := ih
    rw [Function.iterate_succ_apply', hn]
    exact ⟨_, rfl⟩

theorem spent_eq (n : Nat) (freed : Option Handle) (s : Software) : ∃ next,
    s.spent n freed = { s with entries := without freed s.entries, next } := by
  obtain ⟨next, hn⟩ := passes_eq n s
  exact ⟨next, by rw [spent, hn]⟩

theorem without_subset (freed : Option Handle) (entries : Assoc Handle Entry) :
    (without freed entries).keys.Sublist entries.keys := by
  rcases freed with _ | k
  · exact List.Sublist.refl _
  · exact Assoc.keys_erase_sublist k entries

theorem without_comm (freed freed' : Option Handle) (entries : Assoc Handle Entry) :
    without freed' (without freed entries) = without freed (without freed' entries) := by
  rcases freed with _ | k
  · rfl
  · rcases freed' with _ | k'
    · rfl
    · exact Assoc.erase_comm k k' entries

theorem live_spent_le (n : Nat) (freed : Option Handle) (s : Software) :
    (s.spent n freed).live ≤ s.live := by
  obtain ⟨next, hspent⟩ := spent_eq n freed s
  have hle := (without_subset freed s.entries).length_le
  rw [Assoc.keys, Assoc.keys, List.length_map, List.length_map] at hle
  rw [hspent]
  exact hle

theorem capacity_spent (n : Nat) (freed : Option Handle) (s : Software) :
    (s.spent n freed).capacity = s.capacity := by
  obtain ⟨next, hspent⟩ := spent_eq n freed s
  rw [hspent]
  rfl

theorem Ready.spent (h : Ready k d s) {freed : Option Handle} (hfreed : freed ≠ some k) (n : Nat) :
    Ready k d (s.spent n freed) := by
  have hpasses := h.passes n
  refine ⟨?_, ?_, ?_⟩
  · rcases freed with _ | k'
    · exact hpasses.regular
    · exact hpasses.regular.erase k'
  · have hget := key_eq_ok_iff.mp hpasses.key
    apply key_eq_ok_iff.mpr
    rcases freed with _ | k'
    · exact hget
    · have hne : k' ≠ k := fun hk => hfreed (by rw [hk])
      exact (Assoc.get?_erase k' k _).trans ((if_neg hne).trans hget)
  · rw [capacity_spent]
    exact (live_spent_le n freed s).trans_lt h.room

theorem Numbered.pass {m : Nat} (hs : s.Numbered m) (hroom : s.live < s.capacity)
    (hm : m + 1 < 0xFFFFFFFF) : s.pass.Numbered (m + 1) := by
  have hsome : s.fresh? ≠ none := by
    rw [capacity, Nat.lt_min] at hroom
    rw [fresh?, if_pos hroom.1]
    exact firstFree?_ne_none hroom.2 s.next
  obtain ⟨h, hfresh⟩ := Option.ne_none_iff_exists'.mp hsome
  obtain rfl := hs.fresh?_eq hfresh
  refine ⟨?_, fun k hk => (hs.live k hk).trans (Nat.le_succ m)⟩
  rw [Software.pass, hfresh, Option.elim_some, toNat_successor, hs.next]
  split_ifs
  · omega
  · rfl

theorem Numbered.spent {m : Nat} (hs : s.Numbered m) (hroom : s.live < s.capacity) {n : Nat}
    (hm : m + n < 0xFFFFFFFF) (freed : Option Handle) : (s.spent n freed).Numbered (m + n) := by
  have hpasses : (Software.pass^[n] s).Numbered (m + n) := by
    induction n with
    | zero => exact hs
    | succ n ih =>
      obtain ⟨next, hn⟩ := passes_eq n s
      have hstep := ih (by omega)
      rw [Function.iterate_succ_apply']
      apply hstep.pass
      · rw [hn]
        exact hroom
      · omega
  exact ⟨hpasses.next, fun k hk => hpasses.live k ((without_subset freed _).subset hk)⟩

end AttestedImaging.Software

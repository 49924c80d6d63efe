import AttestedImaging.Proofs.Bytes
import AttestedImaging.Proofs.Table

/-!
# What becomes of the key of a signing operation

An operation that signs has a copy of its key. Its entry stays as it is until the operation itself is
released, so it signs with the key that it was made from, whatever becomes of the key's own handle.
-/

namespace AttestedImaging

/-- The big-endian bytes of a number, without zero bytes in front. -/
structure Bytes.Shortest (bytes : Bytes) (n : Nat) : Prop where
  value : toNat bytes = n
  front : bytes.head? ≠ some 0

theorem Bytes.shortest_strip {width n : Nat} (hn : n < 256 ^ width) :
    (strip (ofNat width n)).Shortest n where
  value := by rw [toNat_strip, toNat_ofNat, Nat.mod_eq_of_lt hn]
  front := head?_strip (ofNat width n)

namespace Software

open P256 (Scalar)

/-! ## Entries -/

theorem release_keeps {s t : Software} {h : Handle} {entry : Entry}
    (hget : s.entries.get? h = some entry) {x : Holding} {found : Bool}
    (hr : release x s = (found, t)) (hx : x ≠ Entry.holding (h, entry)) :
    t.entries.get? h = some entry := by
  rcases release_inv hr with ⟨other, hother, hm, -, rfl⟩ | ⟨-, -, rfl⟩
  · rw [Assoc.get?_erase, if_neg ?_, hget]
    -- A release that hits the entry is that of its own holding.
    rintro rfl
    rw [hget] at hother
    obtain rfl := Option.some.inj hother
    apply hx
    cases x <;> cases entry <;> simp [matchesHolding, Entry.isOperation] at hm <;> rfl
  · exact hget

theorem entry_stays {s t : Software} {calls : List Call} (ha : provider.Answers s calls t)
    {h : Handle} {entry : Entry} (hget : s.entries.get? h = some entry)
    (hheld : .release (Entry.holding (h, entry)) ∉ calls) : t.entries.get? h = some entry := by
  induction ha with
  | nil => exact hget
  | @allocate request answer s s' t calls hk _ ih =>
    refine ih ?_ fun hin => hheld (List.mem_cons_of_mem _ hin)
    rcases answer with e | k
    · rwa [keepsTable.refused hk]
    · obtain ⟨new, hnew, -, hput⟩ := keepsTable.granted hk
      -- What is granted was free, so it is not the handle of the entry.
      have hne : k ≠ h := by
        rintro rfl
        rw [hnew] at hget
        cases hget
      rwa [hput, Assoc.get?_put, if_neg hne]
  | compute hc _ ih =>
    cases hc
    exact ih hget fun hin => hheld (List.mem_cons_of_mem _ hin)
  | @release x found s s' t calls hr _ ih =>
    refine ih ?_ fun hin => hheld (List.mem_cons_of_mem _ hin)
    exact release_keeps hget hr fun hx => hheld (by rw [hx]; exact List.mem_cons_self)

/-! ## Answers that depend on an entry alone -/

/-- The operation signs with this key. There is no signature of a digest if one of its numbers would
be 0. -/
structure Signs (op : Handle) (d : Scalar) (s : Software) : Prop where
  signed : ∀ digest signature, digest.length = 32 → Ecdsa.sign? d digest = some signature →
    provider.compute (.sign op digest) s = (.ok signature.bytes, s)
  unsigned : ∀ digest, digest.length = 32 → Ecdsa.sign? d digest = none →
    ∃ text, provider.compute (.sign op digest) s = (.error (.backend text), s)
  misfit : ∀ digest, digest.length ≠ 32 →
    ∃ text, provider.compute (.sign op digest) s = (.error (.backend text), s)

/-- The coordinates that are exported are those of the public point of this key. -/
structure Exports (k : Handle) (d : Scalar) (s : Software) : Prop where
  point : ∀ x y, d.publicPoint? = some (x, y) →
    (∃ bytes, provider.compute (.coordinate k .x) s = (.ok bytes, s) ∧ bytes.Shortest x.val) ∧
      ∃ bytes, provider.compute (.coordinate k .y) s = (.ok bytes, s) ∧ bytes.Shortest y.val
  infinity : d.publicPoint? = none → ∀ which,
    ∃ text, provider.compute (.coordinate k which) s = (.error (.backend text), s)

theorem signs_of_entry {s : Software} {op : Handle} {d : Scalar}
    (hop : s.entries.get? op = some (.sign d)) : Signs op d s := by
  have hcompute : ∀ digest, provider.compute (.sign op digest) s = (signature d digest, s) := by
    intro digest
    simp only [provider, compute, hop]
  constructor
  · intro digest signature hlength hsign
    simp only [hcompute, Software.signature, if_pos hlength, hsign]
  · intro digest hlength hsign
    rw [hcompute, signature, if_pos hlength, hsign]
    exact ⟨_, rfl⟩
  · intro digest hlength
    rw [hcompute, signature, if_neg hlength]
    exact ⟨_, rfl⟩

theorem exports_of_key {s : Software} {k : Handle} {d : Scalar} (hk : s.key k = .ok d) :
    Exports k d s := by
  have hcompute : ∀ which, provider.compute (.coordinate k which) s = (coordinate which d, s) := by
    intro which
    simp only [provider, compute, hk]
    rfl
  have hsize : P256.p < 256 ^ 32 := by decide
  constructor
  · intro x y hpoint
    rw [hcompute, hcompute, coordinate, coordinate, hpoint]
    exact ⟨⟨_, rfl, Bytes.shortest_strip (x.isLt.trans hsize)⟩,
      ⟨_, rfl, Bytes.shortest_strip (y.isLt.trans hsize)⟩⟩
  · intro hnone which
    rw [hcompute, coordinate, hnone]
    exact ⟨_, rfl⟩

theorem key_stays {s t : Software} {calls : List Call} (ha : provider.Answers s calls t)
    {k : Handle} {d : Scalar} (hk : s.key k = .ok d) (hheld : .release (.key k) ∉ calls) :
    t.key k = .ok d :=
  key_eq_ok_iff.mpr (entry_stays ha (key_eq_ok_iff.mp hk) hheld)

theorem allocate_sign_ok {u v : Software} {k op : Handle}
    (h : allocate (.sign k) u = (.ok op, v)) :
    ∃ d, u.key k = .ok d ∧ u.entries.get? op = none ∧ v.entries = u.entries.put op (.sign d) := by
  unfold allocate at h
  rcases hkey : u.key k with e | d
  · simp [hkey] at h
  · simp only [hkey] at h
    rcases insert_inv h with ⟨_, hfresh, hok, rfl⟩ | ⟨-, he, -⟩
    · obtain rfl := Except.ok.inj hok
      exact ⟨d, rfl, get?_of_fresh? hfresh, rfl⟩
    · cases he

/-- An operation signs with the key from which it was made until it is released itself, whatever becomes of
the key. -/
theorem sign_operation_keeps_key {u t : Software} {k op : Handle} {later : List Call}
    (hsign : provider.Answers u (.allocate (.sign k) (.ok op) :: later) t) :
    ∃ d, u.key k = .ok d ∧ (.release (.operation op) ∉ later → Signs op d t) ∧
      (.release (.key k) ∉ later → Exports k d t) ∧
      ∀ s earlier d', provider.Answers s earlier u → s.key k = .ok d' →
        .release (.key k) ∉ earlier → Exports k d s := by
  cases hsign with
  | @allocate _ _ _ v _ _ hallocate hlater =>
  obtain ⟨d, hkey, hnew, hput⟩ := allocate_sign_ok hallocate
  refine ⟨d, hkey, fun hheld => ?_, fun hkept => ?_, ?_⟩
  · have hop : v.entries.get? op = some (.sign d) := by rw [hput, Assoc.get?_put, if_pos rfl]
    exact signs_of_entry (entry_stays hlater hop hheld)
  · have hne : op ≠ k := by
      rintro rfl
      rw [key_eq_ok_iff.mp hkey] at hnew
      cases hnew
    have hk : v.entries.get? k = some (.key d) := by
      rw [hput, Assoc.get?_put, if_neg hne, key_eq_ok_iff.mp hkey]
    exact exports_of_key (key_stays hlater (key_eq_ok_iff.mpr hk) hkept)
  · intro s earlier d' hearlier hk hkept
    have hsame : u.key k = .ok d' := key_stays hearlier hk hkept
    obtain rfl := Except.ok.inj (hkey.symm.trans hsame)
    exact exports_of_key hk

/-- A key is made, an operation is allocated for it, and it is released. Another key is made. -/
theorem sign_operation_keeps_key_released : ∃ t,
    provider.Answers { entries := [(⟨1⟩, .key (Randomness.counted 0))], next := ⟨2⟩ }
      [.allocate (.sign ⟨1⟩) (.ok ⟨2⟩), .release (.key ⟨1⟩), .allocate .key (.ok ⟨3⟩)] t ∧
    Signs ⟨2⟩ (Randomness.counted 0) t := by
  have hsign : provider.Answers { entries := [(⟨1⟩, .key (Randomness.counted 0))], next := ⟨2⟩ }
      [.allocate (.sign ⟨1⟩) (.ok ⟨2⟩), .release (.key ⟨1⟩), .allocate .key (.ok ⟨3⟩)] _ :=
    .allocate rfl (.release rfl (.allocate rfl (.nil _)))
  obtain ⟨d, hkey, hsigns, -⟩ := sign_operation_keeps_key hsign
  obtain rfl : Randomness.counted 0 = d := Except.ok.inj hkey
  exact ⟨_, hsign, hsigns (by simp)⟩

end Software

end AttestedImaging

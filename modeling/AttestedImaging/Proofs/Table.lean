import AttestedImaging.Proofs.Ledger
import AttestedImaging.Provider.Fault
import AttestedImaging.Provider.Software

/-!
# The table of the software provider

A provider keeps a table if every handle it hands out is a new entry, every release of a live holding
takes its entry out, and nothing else changes the table. The software provider does this, also with
any faults that do not forge handles. The entries of such a table are then exactly the outstanding
holdings.
-/

namespace AttestedImaging

/-- What a table entry is a holding of. -/
def Entry.holding : Handle × Entry → Holding
  | (h, entry) => if entry.isOperation then .operation h else .key h

theorem Entry.holding_handle (e : Handle × Entry) : (Entry.holding e).handle = e.1 := by
  rcases e with ⟨h, entry⟩
  cases he : entry.isOperation <;> simp [holding, he, Holding.handle]

variable {σ : Type}

/-- The provider's handles are those of this table. -/
structure KeepsTable (P : Provider σ) (entries : σ → Assoc Handle Entry) : Prop where
  refused : ∀ {request s e s'}, P.allocate request s = (.error e, s') → entries s' = entries s
  granted : ∀ {request s h s'}, P.allocate request s = (.ok h, s') → ∃ entry,
    (entries s).get? h = none ∧ (entry.isOperation = true ↔ request ≠ .key) ∧
      entries s' = (entries s).put h entry
  computed : ∀ {request s answer s'}, P.compute request s = (answer, s') → entries s' = entries s
  released : ∀ {x s found s' e}, P.release x s = (found, s') →
    (entries s).get? x.handle = some e → Entry.holding (x.handle, e) = x →
      entries s' = (entries s).erase x.handle

/-! ## The software provider -/

namespace Software

theorem key_eq_ok_iff {s : Software} {k : Handle} {d : P256.Scalar} :
    s.key k = .ok d ↔ s.entries.get? k = some (.key d) := by
  unfold key
  split <;> simp_all

theorem get?_of_firstFree? {entries : Assoc Handle Entry} {tries : Nat} {start h : Handle}
    (hfree : firstFree? entries tries start = some h) : entries.get? h = none := by
  induction tries generalizing start with
  | zero => cases hfree
  | succ tries ih =>
    rw [firstFree?] at hfree
    split at hfree
    · exact ih hfree
    · rename_i hc
      obtain rfl := Option.some.inj hfree
      simpa [Assoc.contains] using hc

theorem get?_of_fresh? {s : Software} {h : Handle} (hfresh : s.fresh? = some h) :
    s.entries.get? h = none := by
  unfold fresh? at hfresh
  split at hfresh
  · exact get?_of_firstFree? hfresh
  · cases hfresh

theorem insert_inv {entry : Entry} {s t : Software} {answer : Except ProviderError Handle}
    (h : s.insert entry = (answer, t)) :
    (∃ k, s.fresh? = some k ∧ answer = .ok k ∧
      t = { s with entries := s.entries.put k entry, next := successor k }) ∨
    (s.fresh? = none ∧ answer = .error (.slotsExhausted s.limit) ∧ t = s) := by
  unfold insert at h
  rcases hfresh : s.fresh? with _ | k <;> rw [hfresh] at h <;> cases h
  · exact .inr ⟨rfl, rfl, rfl⟩
  · exact .inl ⟨k, rfl, rfl, rfl⟩

theorem fresh?_of_insert {entry : Entry} {s t : Software} {answer : Except ProviderError Handle}
    (h : s.insert entry = (answer, t)) : s.fresh? = answer.toOption := by
  rcases insert_inv h with ⟨k, hfresh, rfl, -⟩ | ⟨hfresh, rfl, -⟩
  · exact hfresh
  · exact hfresh

theorem allocate_inv {request : Allocation} {s t : Software} {answer : Except ProviderError Handle}
    (h : allocate request s = (answer, t)) :
    (∃ entry randomness, (entry.isOperation = true ↔ request ≠ .key) ∧
      insert entry { s with randomness } = (answer, t)) ∨
    ((∃ e, answer = .error e) ∧ t = s) := by
  cases request with
  | digest => exact .inl ⟨.digest, s.randomness, by simp [Entry.isOperation], h⟩
  | key => exact .inl ⟨.key _, s.randomness.scalar.2, by simp [Entry.isOperation], h⟩
  | sign k =>
    simp only [allocate] at h
    split at h
    · exact .inl ⟨.sign _, s.randomness, by simp [Entry.isOperation], h⟩
    · cases h
      exact .inr ⟨⟨_, rfl⟩, rfl⟩

theorem release_inv {x : Holding} {s t : Software} {found : Bool} (h : release x s = (found, t)) :
    (∃ entry, s.entries.get? x.handle = some entry ∧ matchesHolding x entry = true ∧ found = true ∧
      t = { s with entries := s.entries.erase x.handle }) ∨
    ((∀ entry, s.entries.get? x.handle = some entry → matchesHolding x entry = false) ∧
      found = false ∧ t = s) := by
  unfold release at h
  rcases hget : s.entries.get? x.handle with _ | entry <;> rw [hget] at h
  · cases h
    refine .inr ⟨?_, rfl, rfl⟩
    intro entry he
    cases he
  · by_cases hm : matchesHolding x entry = true
    · simp only [if_pos hm] at h
      cases h
      exact .inl ⟨entry, rfl, hm, rfl, rfl⟩
    · simp only [if_neg hm] at h
      cases h
      refine .inr ⟨?_, rfl, rfl⟩
      intro other he
      obtain rfl := Option.some.inj he
      exact Bool.eq_false_iff.mpr hm

theorem keepsTable : KeepsTable provider Software.entries where
  refused {request s e s'} h := by
    rcases allocate_inv h with ⟨entry, randomness, -, hinsert⟩ | ⟨-, rfl⟩
    · rcases insert_inv hinsert with ⟨k, -, hok, -⟩ | ⟨-, -, rfl⟩
      · cases hok
      · rfl
    · rfl
  granted {request s h s'} hg := by
    rcases allocate_inv hg with ⟨entry, randomness, hop, hinsert⟩ | ⟨⟨e, he⟩, -⟩
    · rcases insert_inv hinsert with ⟨k, hfresh, hok, rfl⟩ | ⟨-, he, -⟩
      · obtain rfl := Except.ok.inj hok
        exact ⟨entry, get?_of_fresh? hfresh, hop, rfl⟩
      · cases he
    · cases he
  computed h := by
    cases h
    rfl
  released {x s found s' e} h hget hholding := by
    have hmatches : matchesHolding x e = true := by
      rw [← hholding]
      cases he : e.isOperation <;> simp [Entry.holding, he, matchesHolding]
    rcases release_inv h with ⟨entry, -, -, -, rfl⟩ | ⟨hmiss, -, -⟩
    · rfl
    · rw [hmiss e hget] at hmatches
      cases hmatches

end Software

/-! ## Faults -/

theorem onCall?_ne_forge {faults : List Fault} (hfaults : ∀ f ∈ faults, ∀ h, f.effect ≠ .forge h)
    (kind : CallKind) (count : Nat) (h : Handle) :
    Fault.onCall? faults kind count ≠ some (.forge h) := by
  intro heffect
  obtain ⟨f, hf, hforge⟩ := Option.map_eq_some_iff.mp heffect
  exact hfaults f (List.mem_of_find?_eq_some hf) h hforge

theorem withFaults_allocate {P : Provider σ} {faults : List Fault}
    (hfaults : ∀ f ∈ faults, ∀ h, f.effect ≠ .forge h) {request : Allocation}
    {s s' : Counted σ} {answer : Except ProviderError Handle}
    (h : (P.withFaults faults).allocate request s = (answer, s')) :
    ((∃ e, answer = .error e) ∧ s'.inner = s.inner) ∨
      P.allocate request s.inner = (answer, s'.inner) := by
  simp only [Provider.withFaults, Counted.next] at h
  split at h
  · rename_i heq
    cases h
    exact .inl ⟨⟨_, rfl⟩, (congrArg Counted.inner (Prod.mk.inj heq).2).symm⟩
  · rename_i heq
    exact absurd (Prod.mk.inj heq).1 (onCall?_ne_forge hfaults _ _ _)
  · rename_i heq
    cases heq
    cases h
    exact .inr rfl

theorem withFaults_compute {P : Provider σ} {faults : List Fault} {request : Computation}
    {s s' : Counted σ} {answer : Except ProviderError Bytes}
    (h : (P.withFaults faults).compute request s = (answer, s')) :
    s'.inner = s.inner ∨ s'.inner = (P.compute request s.inner).2 := by
  simp only [Provider.withFaults, Counted.next] at h
  split at h
  · rename_i heq
    cases h
    exact .inl (congrArg Counted.inner (Prod.mk.inj heq).2).symm
  · rename_i heq
    cases heq
    cases h
    exact .inr rfl

theorem KeepsTable.withFaults {P : Provider σ} {entries : σ → Assoc Handle Entry}
    (hP : KeepsTable P entries) {faults : List Fault}
    (hfaults : ∀ f ∈ faults, ∀ h, f.effect ≠ .forge h) :
    KeepsTable (P.withFaults faults) fun s => entries s.inner where
  refused h := by
    rcases withFaults_allocate hfaults h with ⟨-, hsame⟩ | hinner
    · rw [hsame]
    · exact hP.refused hinner
  granted h := by
    rcases withFaults_allocate hfaults h with ⟨⟨e, he⟩, -⟩ | hinner
    · cases he
    · exact hP.granted hinner
  computed h := by
    rcases withFaults_compute h with hsame | hinner
    · rw [hsame]
    · rw [hinner]
      exact hP.computed rfl
  released h hget hholding := by
    cases h
    exact hP.released rfl hget hholding

/-! ## The entries and the holdings -/

/-- The entries are these holdings, each under a handle of its own. -/
structure Tallies (entries : Assoc Handle Entry) (m : Multiset Holding) : Prop where
  nodup : entries.keys.Nodup
  holdings_eq : (entries.map Entry.holding : Multiset Holding) = m

theorem Tallies.put {entries : Assoc Handle Entry} {m : Multiset Holding} {h : Handle}
    (ht : Tallies entries m) (entry : Entry) (hnew : entries.get? h = none) :
    Tallies (entries.put h entry) (Entry.holding (h, entry) ::ₘ m) := by
  rw [Assoc.put_of_get?_none entry hnew]
  constructor
  · rw [Assoc.keys, List.map_append]
    have hout := (Assoc.get?_eq_none_iff h entries).mp hnew
    refine List.nodup_append.mpr ⟨ht.nodup, by simp, ?_⟩
    intro k hk k' hk'
    obtain rfl : k' = h := by simpa using hk'
    rintro rfl
    exact hout hk
  · rw [List.map_append, ← Multiset.coe_add, ht.holdings_eq, add_comm]
    rfl

theorem Tallies.erase {entries : Assoc Handle Entry} {m : Multiset Holding} {x : Holding}
    (ht : Tallies entries (x ::ₘ m)) : ∃ entry, entries.get? x.handle = some entry ∧
      Entry.holding (x.handle, entry) = x ∧ Tallies (entries.erase x.handle) m := by
  have hmem : x ∈ (entries.map Entry.holding : Multiset Holding) := by
    rw [ht.holdings_eq]
    exact Multiset.mem_cons_self x m
  obtain ⟨⟨h, entry⟩, hentry, rfl⟩ := List.mem_map.mp (Multiset.mem_coe.mp hmem)
  rw [Entry.holding_handle]
  refine ⟨entry, Assoc.get?_of_mem ht.nodup hentry, rfl, ?_, ?_⟩
  · exact (Assoc.keys_erase_sublist h entries).nodup ht.nodup
  · have hperm := (Assoc.perm_cons_erase ht.nodup hentry).map Entry.holding
    have hcons : (entries.map Entry.holding : Multiset Holding) =
        Entry.holding (h, entry) ::ₘ ((entries.erase h).map Entry.holding : List Holding) := by
      rw [Multiset.cons_coe]
      exact Multiset.coe_eq_coe.mpr hperm
    rw [ht.holdings_eq] at hcons
    exact ((Multiset.cons_inj_right _).mp hcons).symm

theorem KeepsTable.tallies {P : Provider σ} {entries : σ → Assoc Handle Entry}
    (hP : KeepsTable P entries) {m m' : Multiset Holding} {calls : List Call} {s t : σ}
    (hsettles : Settles m calls m') (hanswers : P.Answers s calls t)
    (h : Tallies (entries s) m) : Tallies (entries t) m' := by
  -- The answers follow the account call by call, and the table follows both.
  induction hsettles generalizing s with
  | nil m =>
    rw [hanswers.of_nil]
    exact h
  | acquire hc rest ih =>
    cases hanswers with
    | @allocate request answer _ _ _ _ hallocate hrest =>
      rcases answer with e | k
      · rw [Call.acquired?_refused] at hc
        cases hc
      · obtain ⟨entry, hnew, hkind, hput⟩ := hP.granted hallocate
        have hholding : Entry.holding (k, entry) = if request = .key then .key k else .operation k := by
          by_cases hrequest : request = .key
          · simp [Entry.holding, hkind, hrequest]
          · simp [Entry.holding, hkind.mpr hrequest, hrequest]
        rw [Call.acquired?_granted, Option.some.injEq, ← hholding] at hc
        refine ih hrest ?_
        rw [hput, ← hc]
        exact h.put entry hnew
    | compute => cases hc
    | release => cases hc
  | release x rest ih =>
    cases hanswers with
    | release hr hrest =>
      obtain ⟨entry, hget, hholding, herase⟩ := h.erase
      refine ih hrest ?_
      rw [hP.released hr hget hholding]
      exact herase
  | other ha hr rest ih =>
    cases hanswers with
    | @allocate request answer _ _ _ _ hallocate hrest =>
      rcases answer with e | k
      · refine ih hrest ?_
        rw [hP.refused hallocate]
        exact h
      · rw [Call.acquired?_granted] at ha
        cases ha
    | compute hcompute hrest =>
      refine ih hrest ?_
      rw [hP.computed hcompute]
      exact h
    | release hrelease hrest => cases hr

theorem Tallies.handle_ne {entries : Assoc Handle Entry} {r m : Multiset Holding} {x : Holding}
    (ht : Tallies entries (r + x ::ₘ m)) {k : Handle} {entry : Entry}
    (hget : entries.get? k = some entry) (hr : Entry.holding (k, entry) ∈ r) : x.handle ≠ k := by
  rintro rfl
  rw [Multiset.add_cons] at ht
  obtain ⟨entry', hget', hholding, herased⟩ := ht.erase
  obtain rfl := Option.some.inj (hget.symm.trans hget')
  -- Without its entry the holding would still have to be in the table.
  have hmem := Multiset.mem_add.mpr (.inl hr : Entry.holding (x.handle, entry) ∈ r ∨ _ ∈ m)
  rw [← herased.holdings_eq, hholding] at hmem
  obtain ⟨⟨k', e'⟩, hentry, hx⟩ := List.mem_map.mp (Multiset.mem_coe.mp hmem)
  have hk : k' = x.handle := by rw [← hx, Entry.holding_handle]
  have hnone : (entries.erase x.handle).get? x.handle = none := by
    rw [Assoc.get?_erase, if_pos rfl]
  rw [Assoc.get?_of_mem herased.nodup (hk ▸ hentry)] at hnone
  cases hnone

/-- Holdings that are no business of the calls stay, and their handles are not given out. -/
theorem KeepsTable.framed {P : Provider σ} {entries : σ → Assoc Handle Entry}
    (hP : KeepsTable P entries) {r m m' : Multiset Holding} {calls : List Call} {s t : σ}
    (hsettles : Settles m calls m') (hanswers : P.Answers s calls t)
    (h : Tallies (entries s) (r + m)) {k : Handle} {entry : Entry}
    (hget : (entries s).get? k = some entry) (hr : Entry.holding (k, entry) ∈ r) :
    (entries t).get? k = some entry ∧ ∀ request, Call.allocate request (.ok k) ∉ calls := by
  induction hsettles generalizing s with
  | nil m =>
    rw [hanswers.of_nil]
    exact ⟨hget, fun _ => List.not_mem_nil⟩
  | @acquire c x m m' calls hc rest ih =>
    cases hanswers with
    | @allocate request answer _ _ _ _ ha hrest =>
      rcases answer with e | k'
      · rw [Call.acquired?_refused] at hc
        cases hc
      · obtain ⟨entry', hnew, -, hput⟩ := hP.granted ha
        have hne : k' ≠ k := by
          rintro rfl
          rw [hnew] at hget
          cases hget
        have htallies := hP.tallies (.acquire hc (.nil (x ::ₘ (r + m)))) (.allocate ha (.nil _)) h
        rw [← Multiset.add_cons] at htallies
        obtain ⟨hkept, hothers⟩ := ih hrest htallies (by rwa [hput, Assoc.get?_put, if_neg hne])
        refine ⟨hkept, fun request' hmem => ?_⟩
        rcases List.mem_cons.mp hmem with hcall | hmem
        · cases hcall
          exact hne rfl
        · exact hothers request' hmem
    | compute => cases hc
    | release => cases hc
  | release x rest ih =>
    cases hanswers with
    | release hrelease hrest =>
      have hne := h.handle_ne hget hr
      rw [Multiset.add_cons] at h
      obtain ⟨entry', hget', hholding, herased⟩ := h.erase
      have herase := hP.released hrelease hget' hholding
      obtain ⟨hkept, hothers⟩ := ih hrest (by rwa [herase])
        (by rwa [herase, Assoc.get?_erase, if_neg hne])
      refine ⟨hkept, fun request hmem => ?_⟩
      rcases List.mem_cons.mp hmem with hcall | hmem
      · cases hcall
      · exact hothers request hmem
  | @other c m m' calls ha hnone rest ih =>
    -- Neither a refusal nor a computation changes the table.
    have hstep : ∃ s', P.Answers s' calls t ∧ entries s' = entries s := by
      cases hanswers with
      | @allocate request answer _ _ _ _ hallocate hrest =>
        rcases answer with e | k'
        · exact ⟨_, hrest, hP.refused hallocate⟩
        · rw [Call.acquired?_granted] at ha
          cases ha
      | compute hcompute hrest => exact ⟨_, hrest, hP.computed hcompute⟩
      | release => cases hnone
    obtain ⟨s', hrest, hsame⟩ := hstep
    obtain ⟨hkept, hothers⟩ := ih hrest (by rwa [hsame]) (by rwa [hsame])
    refine ⟨hkept, fun request hmem => ?_⟩
    rcases List.mem_cons.mp hmem with rfl | hmem
    · rw [Call.acquired?_granted] at ha
      cases ha
    · exact hothers request hmem

end AttestedImaging

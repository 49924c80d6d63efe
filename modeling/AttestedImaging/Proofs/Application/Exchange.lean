import AttestedImaging.Proofs.Application.Census
import AttestedImaging.Proofs.Application.Steps
import AttestedImaging.Proofs.Invocation.Keyed

/-!
# Invocations in any order

Invocations in sessions that hold their keys meet in the provider only: each takes a handle at a time
and gives it back. As long as there is room for one more handle none of them can tell what the others
have done, so a batch of them in different sessions can be executed in any order.
-/

namespace AttestedImaging

namespace Application

open Invocation (slots)

/-- The application without its record of calls and events. -/
def unrecorded {σ : Type} (a : Application σ) : Application σ :=
  { a with device := .ofProvider a.device.provider }

def searchingFrom (next : Handle) (a : Application Software) : Application Software :=
  { a with device := { a.device with provider := { a.device.provider with next } } }

/-- How a request turns out that is made in this session with this key. -/
structure Turnout where
  number : Nat
  session : Session
  key : Handle
  scalar : P256.Scalar
  ending : Invocation.Ending

namespace Turnout

instance : Inhabited Turnout where
  default := ⟨0, { id := 0 }, ⟨0⟩, Randomness.counted 0,
    .rejected (slots [] (.ofContents []) (.ofContents [])) {}⟩

def reply (τ : Turnout) : Reply := .answered τ.ending.status τ.ending.parameters

def left (τ : Turnout) : Session := { τ.session with context := τ.ending.context }

/-- The application after the request. -/
def settle (a : Application Software) (τ : Turnout) : Application Software :=
  { a with
    sessions := a.sessions.set τ.number (some τ.left)
    device := { a.device with
      provider := a.device.provider.spent τ.ending.operations τ.ending.freed } }

/-- The application is in a state in which the request turns out like this. -/
structure Stands (τ : Turnout) (a : Application Software) : Prop where
  session : a.session? τ.number = some τ.session
  ready : Software.Ready τ.key τ.scalar a.device.provider

theorem stands_unrecorded {τ : Turnout} {a : Application Software} :
    τ.Stands a.unrecorded ↔ τ.Stands a :=
  ⟨fun h => ⟨h.session, h.ready⟩, fun h => ⟨h.session, h.ready⟩⟩

/-- The request turns out like this wherever it can. -/
structure Tells (config : Config) (request : Request) (τ : Turnout) : Prop where
  number : request.session? = some τ.number
  operations : τ.ending.operations ≤ 2
  freed : τ.ending.freed = none ∨ τ.ending.freed = some τ.key
  serves : (∀ image bundle gray, request = .invoke τ.number 0 (slots image bundle gray) →
    Ecdsa.Serves τ.scalar [(Sha256.hash (Grayscale.gray image)).bytes]) → τ.ending.freed = none
  step : ∀ a : Application Software, a.config = config → τ.Stands a →
    (a.step Software.provider request).1 = τ.reply ∧
      (a.step Software.provider request).2.unrecorded = settle a.unrecorded τ

/-- They have neither the session nor the key in common. -/
def Apart (τ τ' : Turnout) : Prop := τ.number ≠ τ'.number ∧ τ.key ≠ τ'.key

instance : Std.Symm Apart := ⟨fun _ _ h => ⟨h.1.symm, h.2.symm⟩⟩

theorem Stands.settle {τ τ' : Turnout} {a : Application Software} (h : τ'.Stands a)
    (hapart : τ.Apart τ') (hfreed : τ.ending.freed = none ∨ τ.ending.freed = some τ.key) :
    τ'.Stands (Turnout.settle a τ) := by
  refine ⟨?_, h.ready.spent ?_ _⟩
  · rw [session?_eq_some_iff, Turnout.settle, List.getElem?_set_ne hapart.1]
    exact session?_eq_some_iff.mp h.session
  · rcases hfreed with hf | hf
    · rw [hf]
      nofun
    · rw [hf]
      exact fun hk => hapart.2 (Option.some.inj hk)

theorem settle_provider (a : Application Software) (τ : Turnout) :
    (settle a τ).device.provider = a.device.provider.spent τ.ending.operations τ.ending.freed := rfl

end Turnout

open Turnout (settle Apart)

/-! ## Batches -/

/-- One after the other, requests turn out as each of them would have alone. -/
theorem run_settles {config : Config} {τ : Request → Turnout} {order : List Request}
    (htells : ∀ r ∈ order, (τ r).Tells config r) (hapart : (order.map τ).Pairwise Apart)
    {a : Application Software} (hconfig : a.config = config) (hstands : ∀ r ∈ order, (τ r).Stands a) :
    (a.run Software.provider order).1 = order.map (fun r => (τ r).reply) ∧
      (a.run Software.provider order).2.unrecorded = (order.map τ).foldl settle a.unrecorded := by
  -- The first request touches neither the sessions nor the keys of the others, so these still stand.
  induction order generalizing a with
  | nil => exact ⟨rfl, rfl⟩
  | cons r rest ih =>
    obtain ⟨hhead, hrest⟩ := List.pairwise_cons.mp hapart
    have hr := htells r List.mem_cons_self
    obtain ⟨hreply, hsettle⟩ := hr.step a hconfig (hstands r List.mem_cons_self)
    have hconfig' : (a.step Software.provider r).2.unrecorded.config = config := by
      rw [hsettle]
      exact hconfig
    have hstands' : ∀ r' ∈ rest, (τ r').Stands (a.step Software.provider r).2 := by
      intro r' hr'
      rw [← Turnout.stands_unrecorded, hsettle]
      have hbefore := Turnout.stands_unrecorded.mpr (hstands r' (List.mem_cons_of_mem _ hr'))
      exact hbefore.settle (hhead _ (List.mem_map_of_mem hr')) hr.freed
    obtain ⟨hreplies, hrun⟩ := ih (fun r' hr' => htells r' (List.mem_cons_of_mem _ hr')) hrest
      (show (a.step Software.provider r).2.config = config from hconfig') hstands'
    constructor
    · rw [List.map_cons, ← hreply, ← hreplies]
      rfl
    · rw [List.map_cons, List.foldl_cons, ← hsettle, ← hrun]
      rfl

/-- What a batch leaves of the application, up to where the search for a free handle starts then. -/
def settled (batch : List Turnout) (next : Handle) (a : Application Software) :
    Application Software :=
  { a with
    sessions := batch.foldl (fun sessions τ => sessions.set τ.number (some τ.left)) a.sessions
    device := { a.device with
      provider := { a.device.provider with
        entries := batch.foldl (fun entries τ => Software.without τ.ending.freed entries)
          a.device.provider.entries
        next } } }

theorem settled_cons (τ : Turnout) (rest : List Turnout) (next : Handle)
    (a : Application Software) : settled (τ :: rest) next a = settled rest next (settle a τ) := by
  obtain ⟨next', hspent⟩ := Software.spent_eq τ.ending.operations τ.ending.freed a.device.provider
  rw [settled, settled, Turnout.settle_provider, hspent]
  rfl

theorem foldl_settle (batch : List Turnout) (a : Application Software) :
    batch.foldl settle a = settled batch (batch.foldl settle a).device.provider.next a := by
  induction batch generalizing a with
  | nil => rfl
  | cons τ rest ih =>
    rw [settled_cons]
    exact ih (settle a τ)

/-- The order of a batch shows at most in where the search starts then. -/
theorem settled_perm {batch order : List Turnout} (horder : order.Perm batch)
    (hapart : order.Pairwise Apart) (next : Handle) (a : Application Software) :
    settled order next a = settled batch next a := by
  have hsessions := horder.foldl_eq' (f := fun sessions (τ : Turnout) =>
    sessions.set τ.number (some τ.left)) (fun τ hτ τ' hτ' sessions => by
      by_cases he : τ = τ'
      · rw [he]
      · exact List.set_comm _ _ (hapart.forall hτ hτ' he).1) a.sessions
  have hentries := horder.foldl_eq' (f := fun entries (τ : Turnout) =>
    Software.without τ.ending.freed entries)
    (fun τ _ τ' _ entries => Software.without_comm _ _ entries) a.device.provider.entries
  rw [settled, settled, hsessions, hentries]

theorem foldl_settle_of_kept {batch : List Turnout} (hkept : ∀ τ ∈ batch, τ.ending.freed = none)
    (a : Application Software) :
    (batch.foldl settle a).device.provider =
      Software.pass^[(batch.map (·.ending.operations)).sum] a.device.provider := by
  induction batch generalizing a with
  | nil => rfl
  | cons τ rest ih =>
    have hspent : (settle a τ).device.provider =
        Software.pass^[τ.ending.operations] a.device.provider := by
      rw [Turnout.settle_provider, hkept τ List.mem_cons_self]
      rfl
    rw [List.foldl_cons, ih (fun τ' hτ' => hkept τ' (List.mem_cons_of_mem _ hτ')), hspent,
      ← Function.iterate_add_apply, List.map_cons, List.sum_cons, Nat.add_comm]

theorem foldl_settle_numbered {batch : List Turnout} {a : Application Software} {n : Nat}
    (hnumbered : a.device.provider.Numbered n)
    (hroom : a.device.provider.live < a.device.provider.capacity)
    (hn : n + (batch.map (·.ending.operations)).sum < 0xFFFFFFFF) :
    (batch.foldl settle a).device.provider.Numbered (n + (batch.map (·.ending.operations)).sum) := by
  induction batch generalizing a n with
  | nil => exact hnumbered
  | cons τ rest ih =>
    rw [List.map_cons, List.sum_cons, ← Nat.add_assoc] at hn ⊢
    refine ih (hnumbered.spent hroom (by omega) τ.ending.freed) ?_ hn
    rw [Turnout.settle_provider, Software.capacity_spent]
    exact (Software.live_spent_le _ _ _).trans_lt hroom

theorem next_of_kept {batch order : List Turnout} (horder : order.Perm batch)
    (hkept : ∀ τ ∈ batch, τ.ending.freed = none) (a : Application Software) :
    (order.foldl settle a).device.provider.next = (batch.foldl settle a).device.provider.next := by
  rw [foldl_settle_of_kept hkept, foldl_settle_of_kept fun τ hτ => hkept τ (horder.mem_iff.mp hτ),
    (horder.map _).sum_eq]

theorem next_of_numbered {batch order : List Turnout} (horder : order.Perm batch)
    {a : Application Software} {n : Nat} (hnumbered : a.device.provider.Numbered n)
    (hroom : a.device.provider.live < a.device.provider.capacity)
    (hn : n + (batch.map (·.ending.operations)).sum < 0xFFFFFFFF) :
    (order.foldl settle a).device.provider.next = (batch.foldl settle a).device.provider.next := by
  have hsum : (order.map (·.ending.operations)).sum = (batch.map (·.ending.operations)).sum :=
    (horder.map _).sum_eq
  have hbatch := (foldl_settle_numbered hnumbered hroom hn).next
  rw [← hsum] at hn hbatch
  have horderly := (foldl_settle_numbered hnumbered hroom hn).next
  rw [← hbatch] at horderly
  exact congrArg Handle.mk (UInt32.toNat_inj.mp horderly)

/-! ## Sessions that hold a key -/

theorem session_of_heldKey {σ : Type} {a : Application σ} (h : a.heldKeys.Nodup) {i j : Nat}
    {session session' : Session} {k : Handle} (hi : a.session? i = some session)
    (hk : session.context.key = some k) (hj : a.session? j = some session')
    (hk' : session'.context.key = some k) : i = j := by
  -- The held keys are listed in the order of the sessions: two places with one key repeat it.
  have hpairwise := List.pairwise_iff_getElem.mp (List.pairwise_filterMap.mp h)
  obtain ⟨hi', hi⟩ := List.getElem?_eq_some_iff.mp (session?_eq_some_iff.mp hi)
  obtain ⟨hj', hj⟩ := List.getElem?_eq_some_iff.mp (session?_eq_some_iff.mp hj)
  have hkey : (a.sessions[i]).bind (·.context.key) = some k := by rw [hi]; exact hk
  have hkey' : (a.sessions[j]).bind (·.context.key) = some k := by rw [hj]; exact hk'
  rcases Nat.lt_trichotomy i j with hlt | he | hgt
  · exact absurd rfl (hpairwise i j hi' hj' hlt k hkey k hkey')
  · exact he
  · exact absurd rfl (hpairwise j i hj' hi' hgt k hkey' k hkey)

/-- An invocation in a session that holds a key. -/
def Request.Keyed (a : Application Software) (request : Request) : Prop :=
  ∃ number command ps session k, request = .invoke number command ps ∧
    a.session? number = some session ∧ session.context.key = some k

section

variable {config : Config} {storage : Option Storage} {limit : Nat} {randomness : Randomness}
  {a : Application Software}

theorem exists_turnout
    (ha : Reachable Software.provider config storage { limit, randomness } a)
    (hpolicy : config.keyPolicy = .perSession) (hpersist : config.persist = false)
    (hroom : a.device.provider.live < a.device.provider.capacity) {request : Request}
    (hkeyed : request.Keyed a) :
    ∃ τ : Turnout, τ.Tells config request ∧ τ.Stands a ∧ τ.session.context.key = some τ.key := by
  obtain ⟨number, command, ps, session, k, rfl, hsession, hk⟩ := hkeyed
  obtain ⟨d, hd⟩ := (ha.sound.tidy Software.keepsTable rfl).key_ok ha.regular.1 hsession hk
  obtain ⟨ending, hoperations, hfreed, hserves, hending⟩ := Invocation.exists_ending hpolicy hpersist
    command ps hk (ha.sound.idle number session hsession) d
  refine ⟨⟨number, session, k, d, ending⟩, ⟨rfl, hoperations, hfreed, fun h => hserves ?_, ?_⟩,
    ⟨hsession, ha.regular.1, hd, hroom⟩, hk⟩
  · rintro image bundle gray rfl rfl
    exact h image bundle gray rfl
  · intro b hconfig hb
    obtain ⟨status, v, b', hcourse, hinvoke, rfl⟩ :=
      invoke_course Software.provider hb.session command ps
    rw [hconfig] at hcourse
    obtain ⟨rfl, hp, hc, hst, hprovider⟩ := hending _ v status rfl rfl hb.ready hcourse
    simp only [step, hinvoke]
    refine ⟨by rw [hp]; rfl, ?_⟩
    simp only [unrecorded, settle, Turnout.left, hc, hst, hprovider]
    rfl

theorem Reachable.apart
    (ha : Reachable Software.provider config storage { limit, randomness } a) {batch : List Request}
    {τ : Request → Turnout} (htells : ∀ r ∈ batch, (τ r).Tells config r)
    (hstands : ∀ r ∈ batch, (τ r).Stands a)
    (hkey : ∀ r ∈ batch, (τ r).session.context.key = some (τ r).key)
    (hdistinct : (batch.map Request.session?).Nodup) : (batch.map τ).Pairwise Apart := by
  rw [List.Nodup, List.pairwise_map] at hdistinct
  rw [List.pairwise_map]
  refine hdistinct.imp_of_mem fun {r r'} hr hr' hne => ?_
  have hnumber : (τ r).number ≠ (τ r').number := by
    intro he
    apply hne
    rw [(htells r hr).number, (htells r' hr').number, he]
  refine ⟨hnumber, fun he => hnumber ?_⟩
  have hk' := hkey r' hr'
  rw [← he] at hk'
  exact session_of_heldKey (ha.sound.tidy Software.keepsTable rfl).distinct (hstands r hr).session
    (hkey r hr) (hstands r' hr').session hk'

theorem Reachable.numbered
    (ha : Reachable Software.provider config storage { limit, randomness } a)
    (hfew : (a.device.calls.filterMap Call.issued?).length < 0xFFFFFFFF) :
    a.device.provider.Numbered (a.device.calls.filterMap Call.issued?).length := by
  have h := (Software.Numbered.initial limit randomness).answers ha.sound.answers
    (by rwa [Nat.zero_add])
  simp only [Nat.zero_add] at h
  exact h.2.1

theorem sum_operations_le {batch : List Request} {τ : Request → Turnout}
    (htells : ∀ r ∈ batch, (τ r).Tells config r) :
    ((batch.map τ).map (·.ending.operations)).sum ≤ 2 * batch.length := by
  induction batch with
  | nil => exact Nat.le_refl 0
  | cons r rest ih =>
    have hr := (htells r List.mem_cons_self).operations
    have hrest := ih fun r' hr' => htells r' (List.mem_cons_of_mem _ hr')
    rw [List.map_cons, List.map_cons, List.sum_cons, List.length_cons]
    omega

/-- Signing works for the key and the digest, if the request is an invocation that comes to it. -/
def Request.Served (a : Application Software) (request : Request) : Prop :=
  ∀ number image bundle gray session d, request = .invoke number 0 (slots image bundle gray) →
    a.session? number = some session →
    a.device.provider.signingKey session.context.key = .ok d →
    Ecdsa.Serves d [(Sha256.hash (Grayscale.gray image)).bytes]

theorem Turnout.Tells.kept {request : Request} {τ : Turnout} (h : τ.Tells config request)
    (hstands : τ.Stands a) (hkey : τ.session.context.key = some τ.key) (hserved : request.Served a) :
    τ.ending.freed = none := by
  apply h.serves
  intro image bundle gray hrequest
  refine hserved _ image bundle gray _ _ hrequest hstands.session ?_
  rw [hkey]
  exact hstands.ready.key

/-- Invocations in different sessions that hold keys can be executed in any order. If the numbers come
round, a key that cannot sign may move where the search for a free handle starts. -/
theorem invocations_commute
    (ha : Reachable Software.provider config storage { limit, randomness } a)
    (hpolicy : config.keyPolicy = .perSession) (hpersist : config.persist = false)
    (hroom : a.device.provider.live + 1 ≤ min limit 0xFFFFFFFF) {batch : List Request}
    (hkeyed : ∀ r ∈ batch, r.Keyed a) (hdistinct : (batch.map Request.session?).Nodup)
    {order : List Request} (horder : order.Perm batch) :
    (a.run Software.provider order).1 = order.map (fun r => (a.step Software.provider r).1) ∧
    (∃ next, (a.run Software.provider order).2.unrecorded =
      (a.run Software.provider batch).2.unrecorded.searchingFrom next) ∧
    ((a.device.calls.filterMap Call.issued?).length + 2 * batch.length < 0xFFFFFFFF ∨
        (∀ r ∈ batch, r.Served a) →
      (a.run Software.provider order).2.unrecorded =
        (a.run Software.provider batch).2.unrecorded) := by
  have hcapacity : a.device.provider.live < a.device.provider.capacity := by
    rw [Software.capacity, ha.regular.2]
    exact hroom
  have hturnout : ∀ r ∈ batch, ∃ τ : Turnout,
      τ.Tells config r ∧ τ.Stands a ∧ τ.session.context.key = some τ.key :=
    fun r hr => exists_turnout ha hpolicy hpersist hcapacity (hkeyed r hr)
  -- How each request turns out is settled by the application at the start.
  choose! τ htells hstands hkey using hturnout
  have hconfig := ha.sound.config_eq
  have hmem : ∀ {r}, r ∈ order → r ∈ batch := horder.mem_iff.mp
  have hbatch := ha.apart htells hstands hkey hdistinct
  have hdistinct' := (horder.map Request.session?).nodup_iff.mpr hdistinct
  have hapart := ha.apart (fun r hr => htells r (hmem hr)) (fun r hr => hstands r (hmem hr))
    (fun r hr => hkey r (hmem hr)) hdistinct'
  obtain ⟨-, hrun⟩ := run_settles htells hbatch hconfig hstands
  obtain ⟨hreplies, hrun'⟩ := run_settles (fun r hr => htells r (hmem hr)) hapart hconfig
    fun r hr => hstands r (hmem hr)
  have hsettled := settled_perm (horder.map τ) hapart
  -- Both orders leave what their turnouts leave, in one order or the other.
  rw [hrun, hrun', hreplies]
  refine ⟨?_, ⟨((order.map τ).foldl settle a.unrecorded).device.provider.next, ?_⟩, fun hsame => ?_⟩
  · refine List.map_congr_left fun r hr => ?_
    exact ((htells r (hmem hr)).step a hconfig (hstands r (hmem hr))).1.symm
  · rw [foldl_settle (order.map τ), foldl_settle (batch.map τ), hsettled]
    rfl
  · have hnext : ((order.map τ).foldl settle a.unrecorded).device.provider.next =
        ((batch.map τ).foldl settle a.unrecorded).device.provider.next := by
      rcases hsame with hfew | hserved
      · have hoperations := sum_operations_le htells
        have hnumbered : a.unrecorded.device.provider.Numbered _ := ha.numbered (by omega)
        exact next_of_numbered (horder.map τ) hnumbered hcapacity (by omega)
      · refine next_of_kept (horder.map τ) (fun t ht => ?_) a.unrecorded
        obtain ⟨r, hr, rfl⟩ := List.mem_map.mp ht
        exact (htells r hr).kept (hstands r hr) (hkey r hr) (hserved r hr)
    rw [foldl_settle (order.map τ), foldl_settle (batch.map τ), hsettled, hnext]

end

/-- Two sessions are opened, and each of them gets its key. -/
def twoSessions : List Request :=
  [.openSession Kinds.allAbsent, .openSession Kinds.allAbsent,
    .invoke 0 0 (slots [1, 2, 3] (.ofContents (List.replicate 168 0)) (.ofContents [0, 0, 0])),
    .invoke 1 0 (slots [4, 5, 6] (.ofContents (List.replicate 168 0)) (.ofContents [0, 0, 0]))]

/-- With room for just one handle, a good invocation and one of an unknown command are exchanged. -/
theorem invocations_commute_unknown_command :
    let a := (run Software.provider twoSessions
      (create Software.provider { keyPolicy := .perSession } none { limit := 3 })).2
    let good : Request := .invoke 0 0
      (slots [7, 8, 9] (.ofContents (List.replicate 168 0)) (.ofContents [0, 0, 0]))
    let bad : Request := .invoke 1 7 (slots [] (.ofContents []) (.ofContents []))
    a.device.provider.live + 1 = 3 ∧
    (a.run Software.provider [bad, good]).1 =
      [bad, good].map (fun r => (a.step Software.provider r).1) ∧
    (a.run Software.provider [bad, good]).2.unrecorded =
      (a.run Software.provider [good, bad]).2.unrecorded := by
  intro a good bad
  have hfacts : ((a.session? 0).bind (·.context.key), (a.session? 1).bind (·.context.key),
      a.device.provider.live, (a.device.calls.filterMap Call.issued?).length) =
      (some ⟨2⟩, some ⟨5⟩, 2, 6) := by decide +kernel
  simp only [Prod.mk.injEq, Option.bind_eq_some_iff] at hfacts
  obtain ⟨⟨first, hfirst, hk⟩, ⟨second, hsecond, hk'⟩, hlive, hissued⟩ := hfacts
  have hkeyed : ∀ r ∈ [good, bad], r.Keyed a := by
    simp only [List.forall_mem_cons]
    exact ⟨⟨0, 0, _, first, ⟨2⟩, rfl, hfirst, hk⟩, ⟨1, 7, _, second, ⟨5⟩, rfl, hsecond, hk'⟩, by simp⟩
  have hreachable : Reachable Software.provider { keyPolicy := .perSession } none
      { limit := 3, randomness := {} } a := Reachable.run .create _
  have hroom : a.device.provider.live + 1 ≤ min 3 0xFFFFFFFF := by
    rw [hlive]
    decide
  have hfew : (a.device.calls.filterMap Call.issued?).length + 2 * [good, bad].length <
      0xFFFFFFFF := by
    rw [hissued]
    decide
  obtain ⟨hreplies, -, hsame⟩ := invocations_commute hreachable rfl rfl hroom hkeyed (by decide)
    (List.Perm.swap good bad [])
  exact ⟨by rw [hlive], hreplies, hsame (.inl hfew)⟩

end Application

end AttestedImaging

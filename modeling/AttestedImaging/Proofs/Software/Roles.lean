import AttestedImaging.Proofs.Bench
import AttestedImaging.Proofs.Software
import Mathlib.Data.Finmap

/-!
# The software provider as a table of roles

Seen from outside, a provider is a finite map from live handles to the roles that they play. Every call
does to this map what the map itself says that it does: it grants, refuses or releases, and which error
it answers depends on nothing else.
-/

namespace AttestedImaging

/-- What a live handle is for. -/
inductive Role
  | digest
  | sign
  | key
deriving DecidableEq

def Entry.role : Entry → Role
  | .digest => .digest
  | .sign _ => .sign
  | .key _ => .key

def Allocation.role : Allocation → Role
  | .digest => .digest
  | .key => .key
  | .sign _ => .sign

def Computation.handle : Computation → Handle
  | .digest h _ | .coordinate h _ | .sign h _ => h

def Computation.role : Computation → Role
  | .digest .. => .digest
  | .coordinate .. => .key
  | .sign .. => .sign

def Holding.Plays : Holding → Role → Prop
  | .operation _, role => role = .digest ∨ role = .sign
  | .key _, role => role = .key

/-- The live handles with their roles. -/
abbrev RoleTable := Finmap fun _ : Handle => Role

namespace RoleTable

def live (t : RoleTable) : Nat := t.keys.card

/-- What is wrong with a handle that is to play a role. -/
def fault? (t : RoleTable) (h : Handle) (role : Role) : Option ProviderError :=
  match t.lookup h with
  | none => some (.unknownHandle h)
  | some other => if other = role then none else some (.wrongHandleKind h)

theorem fault?_eq_none_iff {t : RoleTable} {h : Handle} {role : Role} :
    t.fault? h role = none ↔ t.lookup h = some role := by
  unfold fault?
  rcases t.lookup h with _ | other
  · simp
  · by_cases ho : other = role <;> simp [ho]

theorem fault?_unknown_iff {t : RoleTable} {h k : Handle} {role : Role} :
    t.fault? h role = some (.unknownHandle k) ↔ h = k ∧ k ∉ t := by
  unfold fault?
  rw [← Finmap.lookup_eq_none]
  constructor
  · intro hf
    rcases hl : t.lookup h with _ | other <;> rw [hl] at hf
    · cases hf
      exact ⟨rfl, hl⟩
    · dsimp only at hf
      split at hf <;> cases hf
  · rintro ⟨rfl, hl⟩
    rw [hl]

theorem fault?_wrong_iff {t : RoleTable} {h k : Handle} {role : Role} :
    t.fault? h role = some (.wrongHandleKind k) ↔
      h = k ∧ ∃ other, t.lookup k = some other ∧ other ≠ role := by
  unfold fault?
  constructor
  · intro hf
    rcases hl : t.lookup h with _ | other <;> rw [hl] at hf
    · cases hf
    · by_cases ho : other = role
      · simp [ho] at hf
      · simp only [if_neg ho] at hf
        cases hf
        exact ⟨rfl, other, hl, ho⟩
  · rintro ⟨rfl, other, hl, ho⟩
    simp only [hl, if_neg ho]

/-- How an allocation is answered, and what becomes of the table. There are no more handles than words
other than 0, so a table of all of them is full as well. -/
structure Allocates (limit : Nat) (t : RoleTable) (request : Allocation)
    (answer : Except ProviderError Handle) (t' : RoleTable) : Prop where
  granted_iff : (∃ h, answer = .ok h) ↔
    t.live < min limit 0xFFFFFFFF ∧ ∀ k, request = .sign k → t.lookup k = some .key
  granted : ∀ h, answer = .ok h → h.raw ≠ 0 ∧ h ∉ t ∧ t' = t.insert h request.role
  unknown_iff : ∀ h, answer = .error (.unknownHandle h) ↔ request = .sign h ∧ h ∉ t
  wrong_iff : ∀ h, answer = .error (.wrongHandleKind h) ↔
    request = .sign h ∧ ∃ role, t.lookup h = some role ∧ role ≠ .key
  exhausted_iff : answer = .error (.slotsExhausted limit) ↔
    min limit 0xFFFFFFFF ≤ t.live ∧ ∀ k, request = .sign k → t.lookup k = some .key
  refused : ∀ e, answer = .error e → t' = t

theorem not_faulty {t : RoleTable} {request : Allocation}
    (hkey : ∀ k, request = .sign k → t.lookup k = some .key) (k : Handle) :
    ¬ (request = .sign k ∧ k ∉ t) ∧
      ¬ (request = .sign k ∧ ∃ role, t.lookup k = some role ∧ role ≠ .key) := by
  constructor
  · rintro ⟨hsign, hout⟩
    exact hout (Finmap.mem_of_lookup_eq_some (hkey k hsign))
  · rintro ⟨hsign, role, hlookup, hne⟩
    rw [hkey k hsign] at hlookup
    exact hne (Option.some.inj hlookup).symm

theorem allocates_granted {limit : Nat} {t : RoleTable} {request : Allocation} {h : Handle}
    (hroom : t.live < min limit 0xFFFFFFFF)
    (hkey : ∀ k, request = .sign k → t.lookup k = some .key) (hzero : h.raw ≠ 0) (hnew : h ∉ t) :
    t.Allocates limit request (.ok h) (t.insert h request.role) where
  granted_iff := iff_of_true ⟨h, rfl⟩ ⟨hroom, hkey⟩
  granted k hk := by
    obtain rfl := Except.ok.inj hk
    exact ⟨hzero, hnew, rfl⟩
  unknown_iff k := iff_of_false (by simp) (not_faulty hkey k).1
  wrong_iff k := iff_of_false (by simp) (not_faulty hkey k).2
  exhausted_iff := iff_of_false (by simp) fun hh => Nat.not_le_of_lt hroom hh.1
  refused e he := by cases he

theorem allocates_full {limit : Nat} {t : RoleTable} {request : Allocation}
    (hfull : ¬ t.live < min limit 0xFFFFFFFF)
    (hkey : ∀ k, request = .sign k → t.lookup k = some .key) :
    t.Allocates limit request (.error (.slotsExhausted limit)) t where
  granted_iff := iff_of_false (by simp) fun hh => hfull hh.1
  granted k hk := by cases hk
  unknown_iff k := iff_of_false (by simp) (not_faulty hkey k).1
  wrong_iff k := iff_of_false (by simp) (not_faulty hkey k).2
  exhausted_iff := iff_of_true rfl ⟨Nat.le_of_not_lt hfull, hkey⟩
  refused _ _ := rfl

theorem allocates_faulty {limit : Nat} {t : RoleTable} {k : Handle} {e : ProviderError}
    (hfault : t.fault? k .key = some e) : t.Allocates limit (.sign k) (.error e) t := by
  have hnone : t.lookup k ≠ some .key := by
    intro hlookup
    rw [fault?_eq_none_iff.mpr hlookup] at hfault
    cases hfault
  have hiff : ∀ e', Except.error (α := Handle) e = .error e' ↔ t.fault? k .key = some e' := by
    intro e'
    rw [hfault, Except.error.injEq, Option.some.injEq]
  -- The handle stands for no key, so what is said of those that do is empty.
  constructor
  · exact iff_of_false (by simp) fun hh => hnone (hh.2 k rfl)
  · intro h hh
    cases hh
  · intro h
    rw [hiff, fault?_unknown_iff, Allocation.sign.injEq]
  · intro h
    rw [hiff, fault?_wrong_iff, Allocation.sign.injEq]
  · refine iff_of_false (fun he => ?_) fun hh => hnone (hh.2 k rfl)
    rw [hiff] at he
    unfold fault? at he
    split at he
    · cases he
    · split at he <;> cases he
  · exact fun _ _ => rfl

/-- Which computations are answered with a fault of their handle. None changes the table. -/
structure Computes (t : RoleTable) (request : Computation) (answer : Except ProviderError Bytes)
    (t' : RoleTable) : Prop where
  unknown_iff : ∀ h, answer = .error (.unknownHandle h) ↔ request.handle = h ∧ h ∉ t
  wrong_iff : ∀ h, answer = .error (.wrongHandleKind h) ↔
    request.handle = h ∧ ∃ role, t.lookup h = some role ∧ role ≠ request.role
  same : t' = t

/-- What a release takes out: the handle, if it is live and of the role that is released. -/
structure Releases (t : RoleTable) (x : Holding) (found : Bool) (t' : RoleTable) : Prop where
  found_iff : found = true ↔ ∃ role, t.lookup x.handle = some role ∧ x.Plays role
  removed : found = true → t' = t.erase x.handle
  missed : found = false → t' = t

end RoleTable

namespace Software

/-- The roles of the live handles. -/
def roles (s : Software) : RoleTable :=
  (s.entries.map fun e => (⟨e.1, e.2.role⟩ : Σ _ : Handle, Role)).toFinmap

theorem lookup_roles (s : Software) (h : Handle) :
    s.roles.lookup h = (s.entries.get? h).map Entry.role := by
  unfold roles
  rw [Finmap.dlookup_list_toFinmap]
  induction s.entries with
  | nil => rfl
  | cons e rest ih =>
    by_cases he : e.1 = h
    · subst he
      rw [List.map_cons, List.dlookup_cons_eq, Assoc.get?, if_pos rfl]
      rfl
    · rw [List.map_cons, List.dlookup_cons_ne _ _ (Ne.symm he), ih, Assoc.get?, if_neg he]

theorem mem_roles_iff (s : Software) (h : Handle) : h ∈ s.roles ↔ h ∈ s.entries.keys := by
  rw [← not_iff_not, ← Finmap.lookup_eq_none, lookup_roles, Option.map_eq_none_iff,
    Assoc.get?_eq_none_iff]

theorem Regular.live_roles {s : Software} (hs : s.Regular) : s.roles.live = s.live := by
  have hkeys : s.roles.keys = s.entries.keys.toFinset := by
    ext h
    rw [Finmap.mem_keys, mem_roles_iff, List.mem_toFinset]
  rw [RoleTable.live, hkeys, List.toFinset_card_of_nodup hs.nodup, Assoc.keys, List.length_map]
  rfl

theorem roles_congr {s t : Software} (h : t.entries = s.entries) : t.roles = s.roles := by
  rw [roles, roles, h]

theorem roles_put {s t : Software} {h : Handle} {entry : Entry}
    (he : t.entries = s.entries.put h entry) : t.roles = s.roles.insert h entry.role := by
  apply Finmap.ext_lookup
  intro k
  rw [lookup_roles, he, Assoc.get?_put]
  by_cases hk : h = k
  · subst hk
    rw [if_pos rfl, Finmap.lookup_insert]
    rfl
  · rw [if_neg hk, Finmap.lookup_insert_of_ne _ (Ne.symm hk), lookup_roles]

theorem roles_erase {s t : Software} {h : Handle} (he : t.entries = s.entries.erase h) :
    t.roles = s.roles.erase h := by
  apply Finmap.ext_lookup
  intro k
  rw [lookup_roles, he, Assoc.get?_erase]
  by_cases hk : h = k
  · subst hk
    rw [if_pos rfl, Finmap.lookup_erase]
    rfl
  · rw [if_neg hk, Finmap.lookup_erase_ne (Ne.symm hk), lookup_roles]

/-! ## Computations -/

theorem fault?_roles (s : Software) (h : Handle) (role : Role) :
    s.roles.fault? h role = match s.entries.get? h with
      | none => some (.unknownHandle h)
      | some entry => if entry.role = role then none else some (.wrongHandleKind h) := by
  unfold RoleTable.fault?
  rw [lookup_roles]
  cases s.entries.get? h <;> rfl

theorem key_roles (s : Software) (k : Handle) :
    (∃ e, s.roles.fault? k .key = some e ∧ s.key k = .error e) ∨
      (s.roles.fault? k .key = none ∧ ∃ d, s.key k = .ok d) := by
  rw [fault?_roles]
  unfold key
  rcases s.entries.get? k with _ | _ | d | d
  · exact .inl ⟨_, rfl, rfl⟩
  · exact .inl ⟨_, rfl, rfl⟩
  · exact .inl ⟨_, rfl, rfl⟩
  · exact .inr ⟨rfl, d, rfl⟩

theorem coordinate_error {which : Coordinate} {d : P256.Scalar} {e : ProviderError}
    (h : coordinate which d = .error e) : ∃ text, e = .backend text := by
  unfold coordinate at h
  split at h
  · cases h
  · exact ⟨_, (Except.error.inj h).symm⟩

theorem signature_error {d : P256.Scalar} {digest : Bytes} {e : ProviderError}
    (h : signature d digest = .error e) : ∃ text, e = .backend text := by
  unfold signature at h
  split at h
  · split at h
    · cases h
    · exact ⟨_, (Except.error.inj h).symm⟩
  · exact ⟨_, (Except.error.inj h).symm⟩

theorem compute_roles (request : Computation) (s : Software) :
    (∃ e, s.roles.fault? request.handle request.role = some e ∧ compute request s = .error e) ∨
      (s.roles.fault? request.handle request.role = none ∧
        ∀ e, compute request s = .error e → ∃ text, e = .backend text) := by
  cases request with
  | digest h data =>
    have hfault := s.fault?_roles h .digest
    rcases hget : s.entries.get? h with _ | _ | d | d <;> rw [hget] at hfault
    · exact .inl ⟨_, hfault, by simp only [compute, hget]⟩
    · exact .inr ⟨hfault, fun e he => by simp [compute, hget] at he⟩
    · exact .inl ⟨_, hfault, by simp only [compute, hget]⟩
    · exact .inl ⟨_, hfault, by simp only [compute, hget]⟩
  | coordinate k which =>
    have hcompute : compute (.coordinate k which) s = s.key k >>= coordinate which := rfl
    rw [hcompute]
    rcases s.key_roles k with ⟨e, hf, hk⟩ | ⟨hf, d, hk⟩
    · rw [hk]
      exact .inl ⟨e, hf, rfl⟩
    · rw [hk]
      exact .inr ⟨hf, fun e he => coordinate_error he⟩
  | sign h digest =>
    have hfault := s.fault?_roles h .sign
    rcases hget : s.entries.get? h with _ | _ | d | d <;> rw [hget] at hfault
    · exact .inl ⟨_, hfault, by simp only [compute, hget]⟩
    · exact .inl ⟨_, hfault, by simp only [compute, hget]⟩
    · refine .inr ⟨hfault, fun e he => ?_⟩
      simp only [compute, hget] at he
      exact signature_error he
    · exact .inl ⟨_, hfault, by simp only [compute, hget]⟩

theorem compute_error_iff {request : Computation} {s : Software} {e : ProviderError}
    (he : ∀ text, e ≠ .backend text) :
    compute request s = .error e ↔ s.roles.fault? request.handle request.role = some e := by
  rcases compute_roles request s with ⟨e', hf, hc⟩ | ⟨hf, hc⟩
  · rw [hf, hc, Except.error.injEq, Option.some.injEq]
  · rw [hf]
    constructor
    · intro herror
      obtain ⟨text, rfl⟩ := hc e herror
      exact absurd rfl (he text)
    · intro hnone
      cases hnone

theorem computes (request : Computation) (s : Software) :
    s.roles.Computes request (compute request s) s.roles where
  unknown_iff _ := (compute_error_iff fun _ he => by cases he).trans RoleTable.fault?_unknown_iff
  wrong_iff _ := (compute_error_iff fun _ he => by cases he).trans RoleTable.fault?_wrong_iff
  same := rfl

/-! ## Allocations and releases -/

theorem Regular.insert_allocates {s u t : Software} (hs : s.Regular) {request : Allocation}
    (hkey : ∀ k, request = .sign k → s.roles.lookup k = some .key) (entry : Entry)
    (hentry : entry.role = request.role) (hu : u.Regular) (hentries : u.entries = s.entries)
    (hlimit : u.limit = s.limit) {answer : Except ProviderError Handle}
    (h : u.insert entry = (answer, t)) : s.roles.Allocates s.limit request answer t.roles := by
  have hsame : u.roles = s.roles := roles_congr hentries
  have hlive : u.live = s.roles.live := by rw [hs.live_roles, live, live, hentries]
  have hcapacity : u.capacity = min s.limit 0xFFFFFFFF := by rw [capacity, hlimit]
  rcases hu.insert_cases h with ⟨k, rfl, hroom, hnew, hzero, rfl⟩ | ⟨rfl, hfull, rfl⟩
  · rw [hcapacity, hlive] at hroom
    have hroles : roles { u with entries := u.entries.put k entry, next := successor k } =
        u.roles.insert k entry.role := roles_put rfl
    rw [hroles, hsame, hentry]
    refine RoleTable.allocates_granted hroom hkey hzero ?_
    rwa [mem_roles_iff, ← Assoc.get?_eq_none_iff, ← hentries]
  · rw [hcapacity, hlive] at hfull
    rw [hsame, hlimit]
    exact RoleTable.allocates_full hfull hkey

theorem Regular.allocates {s : Software} (hs : s.Regular) (request : Allocation) :
    s.roles.Allocates s.limit request (Software.allocate request s).1
      (Software.allocate request s).2.roles := by
  cases request with
  | digest => exact hs.insert_allocates (fun _ h => by cases h) .digest rfl hs rfl rfl rfl
  | key =>
    exact hs.insert_allocates (fun _ h => by cases h) (.key s.randomness.scalar.1) rfl
      (hs.of_randomness s.randomness.scalar.2) rfl rfl rfl
  | sign k =>
    unfold Software.allocate
    rcases s.key_roles k with ⟨e, hf, hk⟩ | ⟨hf, d, hk⟩
    · simp only [hk]
      exact RoleTable.allocates_faulty hf
    · simp only [hk]
      refine hs.insert_allocates ?_ (.sign d) rfl hs rfl rfl rfl
      intro k' hk'
      obtain rfl := Allocation.sign.inj hk'
      exact RoleTable.fault?_eq_none_iff.mp hf

theorem plays_iff (x : Holding) (entry : Entry) :
    x.Plays entry.role ↔ matchesHolding x entry = true := by
  cases x <;> cases entry <;> simp [Holding.Plays, Entry.role, matchesHolding, Entry.isOperation]

theorem releases (x : Holding) (s : Software) :
    s.roles.Releases x (release x s).1 (release x s).2.roles := by
  have hlookup := s.lookup_roles x.handle
  rcases hr : release x s with ⟨found, t⟩
  rcases release_inv hr with ⟨entry, hget, hm, rfl, rfl⟩ | ⟨hmiss, rfl, rfl⟩
  · rw [hget] at hlookup
    have hplays := (plays_iff x entry).mpr hm
    refine ⟨iff_of_true rfl ⟨entry.role, hlookup, hplays⟩, fun _ => roles_erase rfl, ?_⟩
    intro hmissed
    cases hmissed
  · refine ⟨iff_of_false (by simp) ?_, ?_, fun _ => rfl⟩
    · rintro ⟨role, hrole, hplays⟩
      obtain ⟨entry, hget, rfl⟩ := Option.map_eq_some_iff.mp (hlookup.symm.trans hrole)
      rw [plays_iff, hmiss entry hget] at hplays
      cases hplays
    · intro hfound
      cases hfound

/-! ## Runs -/

theorem live_le_of_release {x : Holding} {s t : Software} {found : Bool}
    (h : release x s = (found, t)) : t.live ≤ s.live := by
  have herase : (s.entries.erase x.handle).length ≤ s.entries.length := by
    simpa [Assoc.keys] using (Assoc.keys_erase_sublist x.handle s.entries).length_le
  rcases release_inv h with ⟨entry, -, -, -, rfl⟩ | ⟨-, -, rfl⟩
  · exact herase
  · exact Nat.le_refl _

theorem Regular.live_le_of_allocate {s t : Software} (hs : s.Regular) {request : Allocation}
    {answer : Except ProviderError Handle} (h : Software.allocate request s = (answer, t))
    (hle : s.live ≤ s.limit) : t.live ≤ s.limit := by
  have ht := (hs.allocate h).1
  have hallocates := hs.allocates request
  rw [h] at hallocates
  rw [← ht.live_roles]
  rw [← hs.live_roles] at hle
  rcases answer with e | k
  · rw [hallocates.refused e rfl]
    exact hle
  · obtain ⟨-, hnew, hinsert⟩ := hallocates.granted k rfl
    have hroom := (hallocates.granted_iff.mp ⟨k, rfl⟩).1
    have hkeys : (s.roles.insert k request.role).keys = Insert.insert k s.roles.keys := by
      ext h
      rw [Finmap.mem_keys, Finmap.mem_insert, Finset.mem_insert, Finmap.mem_keys]
    rw [hinsert, RoleTable.live, hkeys, Finset.card_insert_of_notMem (by rwa [Finmap.mem_keys])]
    exact (Nat.lt_min.mp hroom).1

theorem Regular.live_le {s t : Software} (hs : s.Regular) {calls : List Call}
    (h : provider.Answers s calls t) (hle : s.live ≤ s.limit) : t.live ≤ s.limit := by
  induction h with
  | nil => exact hle
  | allocate ha _ ih =>
    obtain ⟨hs', hlimit⟩ := hs.allocate ha
    rw [← hlimit]
    exact ih hs' (hlimit ▸ hs.live_le_of_allocate ha hle)
  | compute hc _ ih =>
    cases hc
    exact ih hs hle
  | release hr _ ih =>
    obtain ⟨hs', hlimit⟩ := hs.release hr
    rw [← hlimit]
    exact ih hs' (hlimit ▸ (live_le_of_release hr).trans hle)

/-- Whatever calls are made on whatever handles, the provider is a map of at most `limit` live handles to
their roles. -/
theorem keeps_role_table (limit : Nat) (randomness : Randomness) :
    roles { limit, randomness } = ∅ ∧ ∀ steps : List Bench.Step,
      let s := ((Bench.make { limit, randomness }).run provider steps).2.device.provider
      s.roles.live ≤ limit ∧
      (∀ request, s.roles.Allocates limit request (provider.allocate request s).1
        (provider.allocate request s).2.roles) ∧
      (∀ request, s.roles.Computes request (provider.compute request s).1
        (provider.compute request s).2.roles) ∧
      ∀ x, s.roles.Releases x (provider.release x s).1 (provider.release x s).2.roles := by
  refine ⟨rfl, fun steps => ?_⟩
  have hanswers := (Bench.run_make provider steps { limit, randomness }).2
  have hinitial := regular_initial limit randomness
  obtain ⟨hs, hlimit⟩ := hinitial.answers hanswers
  refine ⟨?_, fun request => ?_, fun request => computes request _, fun x => releases x _⟩
  · rw [hs.live_roles]
    exact hinitial.live_le hanswers (Nat.zero_le limit)
  · have hallocates := hs.allocates request
    rwa [hlimit] at hallocates

end Software

end AttestedImaging

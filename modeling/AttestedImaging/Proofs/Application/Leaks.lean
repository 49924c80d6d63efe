import AttestedImaging.Proofs.Application.Run
import AttestedImaging.Proofs.Table

/-!
# No handle leaks

With the software provider, and with any faults but forged handles, the live slots are at every
moment of a run the keys that the open sessions hold.
-/

namespace AttestedImaging.Application

open Invocation (slots)

variable {σ : Type}

/-- The keys that the open sessions hold, in the order of the sessions. -/
def heldKeys (a : Application σ) : List Handle :=
  a.sessions.filterMap fun entry => entry.bind (·.context.key)

/-- The live slots are the keys of the open sessions, and nothing else is in use. -/
structure Tidy (entries : Assoc Handle Entry) (a : Application σ) : Prop where
  live : entries.keys.Perm a.heldKeys
  distinct : a.heldKeys.Nodup
  keys : ∀ e ∈ entries, e.2.isOperation = false
  idle : ∀ number session, a.session? number = some session → session.context.operation = none

/-! ## The holdings are keys -/

theorem sum_holdings (entries : List (Option Session))
    (hidle : ∀ session, some session ∈ entries → session.context.operation = none) :
    (entries.map entryHoldings).sum =
      ((entries.filterMap fun entry => entry.bind (·.context.key)).map Holding.key : List Holding) := by
  induction entries with
  | nil => rfl
  | cons entry rest ih =>
    rw [List.map_cons, List.sum_cons, ih fun session h => hidle session (List.mem_cons_of_mem _ h)]
    rcases entry with _ | session
    · simp [entryHoldings]
    · have hop := hidle session List.mem_cons_self
      rcases hkey : session.context.key with _ | k
      · simp [entryHoldings, Context.holdings, hop, hkey]
      · simp [entryHoldings, Context.holdings, hop, hkey]

theorem Sound.holdings_eq {P : Provider σ} {config : Config} {s₀ : σ} {a : Application σ}
    (h : Sound P config s₀ a) : a.holdings = (a.heldKeys.map Holding.key : List Holding) := by
  refine sum_holdings a.sessions fun session hmem => ?_
  obtain ⟨number, hnumber⟩ := List.mem_iff_getElem?.mp hmem
  exact h.idle number session (session?_eq_some_iff.mpr hnumber)

theorem Sound.tallies {P : Provider σ} {entries : σ → Assoc Handle Entry} (hP : KeepsTable P entries)
    {config : Config} {s₀ : σ} (hempty : entries s₀ = []) {a : Application σ}
    (h : Sound P config s₀ a) : Tallies (entries a.device.provider) a.holdings :=
  hP.tallies h.settles h.answers (by rw [hempty]; exact ⟨List.nodup_nil, rfl⟩)

theorem Sound.tidy {P : Provider σ} {entries : σ → Assoc Handle Entry} (hP : KeepsTable P entries)
    {config : Config} {s₀ : σ} (hempty : entries s₀ = []) {a : Application σ}
    (h : Sound P config s₀ a) : Tidy (entries a.device.provider) a := by
  have htallies := h.tallies hP hempty
  have hperm : ((entries a.device.provider).map Entry.holding).Perm (a.heldKeys.map Holding.key) := by
    rw [← Multiset.coe_eq_coe, htallies.holdings_eq, h.holdings_eq]
  have hlive : (entries a.device.provider).keys.Perm a.heldKeys := by
    have hhandles := hperm.map Holding.handle
    have hentry : Holding.handle ∘ Entry.holding = Prod.fst := funext Entry.holding_handle
    have hkey : Holding.handle ∘ Holding.key = id := rfl
    rwa [List.map_map, List.map_map, hentry, hkey, List.map_id] at hhandles
  refine ⟨hlive, hlive.nodup_iff.mp htallies.nodup, ?_, h.idle⟩
  intro e he
  have hmem := hperm.mem_iff.mp (List.mem_map_of_mem he)
  obtain ⟨k, -, hk⟩ := List.mem_map.mp hmem
  rcases hop : e.2.isOperation with _ | _
  · rfl
  · simp [Entry.holding, hop] at hk

/-! ## Ending -/

theorem heldKeys_eq_nil {a : Application σ}
    (h : ∀ number session, a.session? number = some session → session.context.key = none) :
    a.heldKeys = [] := by
  refine List.filterMap_eq_nil_iff.mpr fun entry hentry => ?_
  obtain ⟨number, hnumber⟩ := List.mem_iff_getElem?.mp hentry
  rcases entry with _ | session
  · rfl
  · exact h number session (session?_eq_some_iff.mpr hnumber)

theorem heldKeys_eq_nil_of_ended {a : Application σ} (h : ∀ number, a.session? number = none) :
    a.heldKeys = [] := by
  refine heldKeys_eq_nil fun number session hsession => ?_
  rw [h number] at hsession
  cases hsession

theorem Tidy.entries_eq_nil {entries : Assoc Handle Entry} {a : Application σ}
    (h : Tidy entries a) (hheld : a.heldKeys = []) : entries = [] := by
  have hlive := h.live
  rw [hheld] at hlive
  exact List.map_eq_nil_iff.mp hlive.eq_nil

def Request.ended? : Request → Option Nat
  | .close number | .drop number => some number
  | .openSession _ | .invoke _ _ _ => none

theorem session?_step_ended (P : Provider σ) {number : Nat} {r : Request}
    (h : r.ended? = some number) (other : Nat) (a : Application σ) :
    (a.step P r).2.session? other = if other = number then none else a.session? other := by
  cases r with
  | openSession kinds => cases h
  | invoke number command ps => cases h
  | close number =>
    cases h
    rw [step_close, session?_close]
  | drop number =>
    cases h
    rw [step_drop, session?_drop]

theorem session?_run_endings (P : Provider σ) {endings : List Request}
    (hends : ∀ r ∈ endings, r.ended? ≠ none) (a : Application σ) (number : Nat)
    (h : (∃ r ∈ endings, r.ended? = some number) ∨ a.session? number = none) :
    (a.run P endings).2.session? number = none := by
  -- What has ended stays so: none of these requests opens a session.
  induction endings generalizing a with
  | nil =>
    rcases h with ⟨r, hr, -⟩ | h
    · cases hr
    · exact h
  | cons r rest ih =>
    refine ih (fun r' hr' => hends r' (List.mem_cons_of_mem _ hr')) (a.step P r).2 ?_
    obtain ⟨ended, hended⟩ := Option.ne_none_iff_exists'.mp (hends r List.mem_cons_self)
    rw [session?_step_ended P hended]
    by_cases hn : number = ended
    · exact .inr (if_pos hn)
    · rw [if_neg hn]
      rcases h with ⟨r', hr', hr⟩ | h
      · rcases List.mem_cons.mp hr' with rfl | hmem
        · rw [hr, Option.some.injEq] at hended
          exact absurd hended hn
        · exact .inl ⟨r', hmem, hr⟩
      · exact .inr h

/-! ## With faults -/

/-- Whatever fails, short of forged handles, the live slots are the keys of the open sessions, and none is
live when all sessions have ended. -/
theorem no_handle_leaks {faults : List Fault} (hfaults : ∀ f ∈ faults, ∀ h, f.effect ≠ .forge h)
    {limit : Nat} {randomness : Randomness} {config : Config} {storage : Option Storage}
    {a : Application (Counted Software)}
    (ha : Reachable (Software.provider.withFaults faults) config storage
      { inner := { limit, randomness } } a) :
    Tidy a.device.provider.inner.entries a ∧
    (config.keyPolicy = .perInvocation → a.device.provider.inner.entries = []) ∧
    ((∀ number, a.session? number = none) → a.device.provider.inner.entries = []) ∧
    ∀ endings : List Request, (∀ r ∈ endings, r.ended? ≠ none) →
      (∀ number session, a.session? number = some session → ∃ r ∈ endings, r.ended? = some number) →
      (a.run (Software.provider.withFaults faults) endings).2.device.provider.inner.entries = [] := by
  have hP := Software.keepsTable.withFaults hfaults
  have htidy := ha.sound.tidy hP rfl
  refine ⟨htidy, ?_, ?_, ?_⟩
  · intro hpolicy
    exact htidy.entries_eq_nil (heldKeys_eq_nil (ha.sound.keyless hpolicy))
  · intro hended
    exact htidy.entries_eq_nil (heldKeys_eq_nil_of_ended hended)
  · intro endings hends hall
    refine ((ha.run endings).sound.tidy hP rfl).entries_eq_nil (heldKeys_eq_nil_of_ended ?_)
    intro number
    refine session?_run_endings _ hends a number ?_
    rcases hsession : a.session? number with _ | session
    · exact .inr rfl
    · exact .inl (hall number session hsession)

/-- The digest of every invocation fails: the slots are tidy, and none is live. -/
theorem no_handle_leaks_failing_digest :
    Tidy (run (Software.provider.withFaults [⟨.digest, none, .fail (.backend "")⟩])
      [.openSession Kinds.allAbsent, .invoke 0 0 (slots [1, 2, 3] (.ofContents (List.replicate 168 0))
        (.ofContents [0, 0, 0]))]
      (create (Software.provider.withFaults [⟨.digest, none, .fail (.backend "")⟩]) {} none
        { inner := {} })).2.device.provider.inner.entries
      (run (Software.provider.withFaults [⟨.digest, none, .fail (.backend "")⟩])
        [.openSession Kinds.allAbsent, .invoke 0 0 (slots [1, 2, 3] (.ofContents (List.replicate 168 0))
          (.ofContents [0, 0, 0]))]
        (create (Software.provider.withFaults [⟨.digest, none, .fail (.backend "")⟩]) {} none
          { inner := {} })).2 ∧
    (run (Software.provider.withFaults [⟨.digest, none, .fail (.backend "")⟩])
      [.openSession Kinds.allAbsent, .invoke 0 0 (slots [1, 2, 3] (.ofContents (List.replicate 168 0))
        (.ofContents [0, 0, 0]))]
      (create (Software.provider.withFaults [⟨.digest, none, .fail (.backend "")⟩]) {} none
        { inner := {} })).2.device.provider.inner.entries = [] := by
  have hfaults : ∀ f ∈ [(⟨.digest, none, .fail (.backend "")⟩ : Fault)], ∀ h,
      f.effect ≠ .forge h := by simp
  obtain ⟨htidy, hnone, -⟩ := no_handle_leaks hfaults (Reachable.run .create
    [.openSession Kinds.allAbsent, .invoke 0 0 (slots [1, 2, 3] (.ofContents (List.replicate 168 0))
      (.ofContents [0, 0, 0]))])
  exact ⟨htidy, hnone rfl⟩

end AttestedImaging.Application

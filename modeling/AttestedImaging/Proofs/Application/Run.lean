import AttestedImaging.Proofs.Application.Sessions
import AttestedImaging.Proofs.Ledger
import Mathlib.Algebra.BigOperators.Group.List.Basic

/-!
# Whole runs

What holds after every request of every run, whatever the provider does: `Sound` says that its calls
are as it answered them, that they settle to what the open sessions hold, and that no session is in
the middle of an operation.
-/

namespace AttestedImaging.Application

variable {σ : Type}

/-! ## What the sessions hold -/

def entryHoldings : Option Session → Multiset Holding
  | none => 0
  | some session => session.context.holdings

/-- What the open sessions hold together. -/
def holdings (a : Application σ) : Multiset Holding := (a.sessions.map entryHoldings).sum

theorem holdings_eq_zero {a : Application σ} (h : ∀ number, a.session? number = none) :
    a.holdings = 0 := by
  refine List.sum_eq_zero fun m hm => ?_
  obtain ⟨entry, hentry, rfl⟩ := List.mem_map.mp hm
  obtain ⟨number, hnumber⟩ := List.mem_iff_getElem?.mp hentry
  rcases entry with _ | session
  · rfl
  · have := session?_eq_some_iff.mpr hnumber
    rw [h number] at this
    cases this

theorem sum_set (entries : List (Option Session)) (number : Nat) (old new : Option Session)
    (h : entries[number]? = some old) : ∃ rest,
      (entries.map entryHoldings).sum = rest + entryHoldings old ∧
      ((entries.set number new).map entryHoldings).sum = rest + entryHoldings new := by
  induction entries generalizing number with
  | nil => simp at h
  | cons e entries ih =>
    cases number with
    | zero =>
      obtain rfl : e = old := by simpa using h
      exact ⟨(entries.map entryHoldings).sum, by simp [add_comm], by simp [add_comm]⟩
    | succ number =>
      obtain ⟨rest, hold, hnew⟩ := ih number (by simpa using h)
      refine ⟨entryHoldings e + rest, ?_, ?_⟩
      · rw [List.map_cons, List.sum_cons, hold, add_assoc]
      · rw [List.set_cons_succ, List.map_cons, List.sum_cons, hnew, add_assoc]

/-! ## The invariant -/

/-- What holds at every moment of an application whose provider was in the state `s₀` at first. -/
structure Sound (P : Provider σ) (config : Config) (s₀ : σ) (a : Application σ) : Prop where
  config_eq : a.config = config
  answers : P.Answers s₀ a.device.calls a.device.provider
  settles : Settles 0 a.device.calls a.holdings
  idle : ∀ number session, a.session? number = some session → session.context.operation = none
  keyless : config.keyPolicy = .perInvocation →
    ∀ number session, a.session? number = some session → session.context.key = none

variable {P : Provider σ} {config : Config} {s₀ : σ} {a a' : Application σ}

theorem sound_create (P : Provider σ) (config : Config) (storage : Option Storage) (s₀ : σ) :
    Sound P config s₀ (create P config storage s₀) := by
  have hnone : ∀ number, (create P config storage s₀).session? number = none := fun _ => rfl
  refine ⟨rfl, .nil s₀, .nil 0, fun number session h => ?_, fun _ number session h => ?_⟩
  · rw [hnone] at h
    cases h
  · rw [hnone] at h
    cases h

theorem Sound.of_log (h : Sound P config s₀ a) (e : Event) : Sound P config s₀ (a.log e) :=
  ⟨h.config_eq, h.answers, h.settles, h.idle, h.keyless⟩

theorem Sound.of_set (h : Sound P config s₀ a) {number : Nat} {session : Session}
    {entry : Option Session} {calls : List Call} (hsession : a.session? number = some session)
    (hsessions : a'.sessions = a.sessions.set number entry) (hconfig : a'.config = a.config)
    (hdevice : a.device.After P calls a'.device)
    (hsettles : Settles session.context.holdings calls (entryHoldings entry))
    (hidle : ∀ s, entry = some s → s.context.operation = none ∧
      (config.keyPolicy = .perInvocation → s.context.key = none)) : Sound P config s₀ a' := by
  obtain ⟨hsame, hother⟩ := session?_set (lt_of_session? hsession) hsessions
  -- A session found afterwards was there before, or it is the new one in the changed place.
  have hentry : ∀ n s, a'.session? n = some s → a.session? n = some s ∨ entry = some s := by
    intro n s hs
    by_cases hn : n = number
    · rw [hn, hsame] at hs
      exact .inr hs
    · rw [hother n hn] at hs
      exact .inl hs
  obtain ⟨rest, hold, hnew⟩ := sum_set a.sessions number (some session) entry
    (session?_eq_some_iff.mp hsession)
  constructor
  · rw [hconfig, h.config_eq]
  · rw [hdevice.calls_eq]
    exact h.answers.append hdevice.answers
  · rw [hdevice.calls_eq, holdings, hsessions, hnew]
    have hbefore := h.settles
    rw [holdings, hold] at hbefore
    exact hbefore.append (hsettles.frame rest)
  · intro n s hs
    rcases hentry n s hs with hs | hs
    · exact h.idle n s hs
    · exact (hidle s hs).1
  · intro hpolicy n s hs
    rcases hentry n s hs with hs | hs
    · exact h.keyless hpolicy n s hs
    · exact (hidle s hs).2 hpolicy

/-! ## Requests -/

theorem Sound.openSession (h : Sound P config s₀ a) (kinds : Kinds) :
    Sound P config s₀ (a.openSession P kinds).2 := by
  rcases openSession_cases P kinds a with ⟨f, ha⟩ | ⟨session, hnew, ha⟩
  · rw [ha]
    exact h.of_log _
  · have hentry : ∀ n s, (a.openSession P kinds).2.session? n = some s →
        a.session? n = some s ∨ s = session := by
      intro n s hs
      rw [session?_eq_some_iff, ha, List.getElem?_append] at hs
      split at hs
      · exact .inl (session?_eq_some_iff.mpr hs)
      · have hmem := List.mem_of_getElem? hs
        exact .inr (by simpa using hmem)
    constructor
    · rw [ha]
      exact h.config_eq
    · rw [ha]
      exact h.answers
    · rw [ha]
      -- A new session holds nothing.
      have hempty : entryHoldings (some session) = 0 := by simp [entryHoldings, hnew, Context.holdings]
      simpa [holdings, hempty, Device.log] using h.settles
    · intro n s hs
      rcases hentry n s hs with hs | rfl
      · exact h.idle n s hs
      · rw [hnew]
    · intro hpolicy n s hs
      rcases hentry n s hs with hs | rfl
      · exact h.keyless hpolicy n s hs
      · rw [hnew]

theorem Sound.invoke (h : Sound P config s₀ a) (number : Nat) (command : UInt32)
    (ps : Parameters) : Sound P config s₀ (a.invoke P number command ps).2 := by
  rcases hsession : a.session? number with _ | session
  · simp only [Application.invoke, hsession]
    exact h
  · obtain ⟨status, v, a', hcourse, hinvoke, ha'⟩ := invoke_course P hsession command ps
    rw [hinvoke]
    rw [h.config_eq] at hcourse
    obtain ⟨calls, hdevice, hsettles⟩ := hcourse.settles
    have hidle := hcourse.idle (h.idle number session hsession)
      (fun hp => h.keyless hp number session hsession)
    subst ha'
    exact h.of_set hsession rfl rfl hdevice hsettles (by rintro _ ⟨⟩; exact hidle)

theorem Sound.drop (h : Sound P config s₀ a) (number : Nat) :
    Sound P config s₀ (a.drop P number).2 := by
  rcases hsession : a.session? number with _ | session
  · simp only [Application.drop, hsession]
    exact h
  · obtain ⟨d, hd, hreleased⟩ := Scene.releaseAll_ends P ⟨a.device, session.context⟩
    have hsettles := Settles.releases (Holding.ofOperation session.context.operation ++
      Holding.ofKey session.context.key) 0
    rw [Call.releases_append, add_zero] at hsettles
    rw [drop_eq P hsession, hreleased]
    refine h.of_set hsession rfl rfl hd hsettles fun s hs => ?_
    cases hs

theorem Sound.close (h : Sound P config s₀ a) (number : Nat) :
    Sound P config s₀ (a.close P number).2 := by
  rcases close_cases P number a with hclose | ⟨e, hclose⟩
  · rw [hclose]
    exact h.drop number
  · rw [hclose]
    exact (h.drop number).of_log e

/-! ## Runs -/

theorem Sound.step (h : Sound P config s₀ a) (request : Request) :
    Sound P config s₀ (a.step P request).2 := by
  cases request with
  | openSession kinds =>
    rw [step_openSession]
    exact h.openSession kinds
  | invoke number command ps =>
    rw [step_invoke]
    exact h.invoke number command ps
  | close number =>
    rw [step_close]
    exact h.close number
  | drop number =>
    rw [step_drop]
    exact h.drop number

theorem Reachable.sound {storage : Option Storage} (h : Reachable P config storage s₀ a) :
    Sound P config s₀ a := by
  induction h with
  | create => exact sound_create P config storage s₀
  | step _ request ih => exact ih.step request
  | shutDown _ ih => exact ih.of_log _

end AttestedImaging.Application

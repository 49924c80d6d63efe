import AttestedImaging.Proofs.Invocation.Course
import Mathlib.Algebra.Order.Group.Multiset

/-!
# Accounts of holdings

Calls bring holdings and give them up. `Settles` says that calls give up only what is outstanding
when they do, and what is outstanding after them. An invocation settles from what its session holds
to what it holds afterwards, wherever it fails and whatever the provider answers.
-/

namespace AttestedImaging

/-- From the first holdings outstanding, the calls lead to the last. -/
inductive Settles : Multiset Holding → List Call → Multiset Holding → Prop
  | nil (m : Multiset Holding) : Settles m [] m
  | acquire {c : Call} {x : Holding} {m m' : Multiset Holding} {calls : List Call}
      (hc : c.acquired? = some x) (rest : Settles (x ::ₘ m) calls m') : Settles m (c :: calls) m'
  | release (x : Holding) {m m' : Multiset Holding} {calls : List Call}
      (rest : Settles m calls m') : Settles (x ::ₘ m) (.release x :: calls) m'
  | other {c : Call} {m m' : Multiset Holding} {calls : List Call} (ha : c.acquired? = none)
      (hr : c.released? = none) (rest : Settles m calls m') : Settles m (c :: calls) m'

namespace Settles

theorem append {m m' m'' : Multiset Holding} {calls calls' : List Call} (h : Settles m calls m')
    (h' : Settles m' calls' m'') : Settles m (calls ++ calls') m'' := by
  induction h with
  | nil => exact h'
  | acquire hc _ ih => exact .acquire hc (ih h')
  | release x _ ih => exact .release x (ih h')
  | other ha hr _ ih => exact .other ha hr (ih h')

theorem frame {m m' : Multiset Holding} {calls : List Call} (r : Multiset Holding)
    (h : Settles m calls m') : Settles (r + m) calls (r + m') := by
  induction h with
  | nil m => exact .nil _
  | acquire hc _ ih => exact .acquire hc (by rwa [← Multiset.add_cons])
  | release x _ ih =>
    rw [Multiset.add_cons]
    exact .release x ih
  | other ha hr _ ih => exact .other ha hr ih

theorem balance {m m' : Multiset Holding} {calls : List Call} (h : Settles m calls m') :
    m + ↑(calls.filterMap Call.acquired?) = ↑(calls.filterMap Call.released?) + m' := by
  induction h with
  | nil m => simp
  | @acquire c x m m' calls hc _ ih =>
    have hr : c.released? = none := by
      cases c <;> simp [Call.acquired?, Call.released?] at hc ⊢
    rw [List.filterMap_cons_some hc, List.filterMap_cons_none hr, ← ih, ← Multiset.cons_coe,
      Multiset.add_cons, Multiset.cons_add]
  | @release x m m' calls _ ih =>
    have ha : (Call.release x).acquired? = none := rfl
    have hr : (Call.release x).released? = some x := rfl
    rw [List.filterMap_cons_none ha, List.filterMap_cons_some hr, ← Multiset.cons_coe,
      Multiset.cons_add, Multiset.cons_add, ih]
  | other ha hr _ ih => rw [List.filterMap_cons_none ha, List.filterMap_cons_none hr, ih]

theorem releases (holdings : List Holding) (m : Multiset Holding) :
    Settles (↑holdings + m) (Call.releases holdings) m := by
  induction holdings with
  | nil =>
    rw [Multiset.coe_nil, zero_add]
    exact .nil m
  | cons x rest ih =>
    rw [← Multiset.cons_coe, Multiset.cons_add]
    exact .release x ih

end Settles

/-! ## Attestations -/

namespace Attestation

theorem OperationEnds.settles {n : Nat} {request : Allocation} {call : Handle → Computation}
    {calls : List Call} {outcome : Except Failure (Fixed n)}
    (h : OperationEnds n request call calls outcome) (hrequest : request ≠ .key)
    (m : Multiset Holding) : Settles m calls m := by
  have hgranted : ∀ h, (Call.allocate request (.ok h)).acquired? = some (.operation h) := by
    intro h
    cases request with
    | key => exact absurd rfl hrequest
    | digest => rfl
    | sign key => rfl
  cases h with
  | refused e => exact .other (Call.acquired?_refused request e) rfl (.nil m)
  | failed h answer f hf =>
    exact .acquire (hgranted h) (.other rfl rfl (.release (.operation h) (.nil m)))
  | done h value hf =>
    exact .acquire (hgranted h) (.other rfl rfl (.release (.operation h) (.nil m)))

theorem ComponentEnds.settles {key : Handle} {which : Coordinate} {calls : List Call}
    {outcome : Except Failure Component} (h : ComponentEnds key which calls outcome)
    (m : Multiset Holding) : Settles m calls m := by
  cases h with
  | failed answer f hf => exact .other rfl rfl (.nil m)
  | done value hf => exact .other rfl rfl (.nil m)

theorem KeyEnds.settles {policy : KeyPolicy} {held : Option Handle} {calls : List Call}
    {outcome : Except Failure Handle} (h : KeyEnds policy held calls outcome) :
    Settles (Holding.ofKey held) calls (Holding.ofKey outcome.toOption) := by
  have hreleased := Settles.releases (Holding.ofKey held) 0
  rw [add_zero] at hreleased
  cases h with
  | reused k hp hk =>
    rw [hk]
    exact .nil _
  | refused e hn => exact hreleased.append (.other rfl rfl (.nil _))
  | made k hn => exact hreleased.append (.acquire rfl (.nil _))

theorem Ends.settles {policy : KeyPolicy} {image : Bytes} {held key : Option Handle}
    {calls : List Call} {outcome : Except Failure Bundle}
    (h : Ends policy image held calls outcome key) :
    Settles (Holding.ofKey held) calls (Holding.ofKey key) := by
  cases h with
  | noDigest h₁ => exact h₁.settles nofun _
  | noKey h₁ h₂ => exact (h₁.settles nofun _).append h₂.settles
  | noX h₁ h₂ h₃ => exact ((h₁.settles nofun _).append h₂.settles).append (h₃.settles _)
  | noY h₁ h₂ h₃ h₄ =>
    exact (((h₁.settles nofun _).append h₂.settles).append (h₃.settles _)).append (h₄.settles _)
  | noSignature h₁ h₂ h₃ h₄ h₅ =>
    exact ((((h₁.settles nofun _).append h₂.settles).append (h₃.settles _)).append
      (h₄.settles _)).append (h₅.settles nofun _)
  | done h₁ h₂ h₃ h₄ h₅ =>
    exact ((((h₁.settles nofun _).append h₂.settles).append (h₃.settles _)).append
      (h₄.settles _)).append (h₅.settles nofun _)

end Attestation

/-! ## Invocations -/

/-- What a session holds. -/
def Context.holdings (c : Context) : Multiset Holding :=
  ↑(Holding.ofOperation c.operation ++ Holding.ofKey c.key)

namespace Invocation

variable {σ : Type}

theorem settles_retired (policy : KeyPolicy) (key : Option Handle) :
    Settles (Holding.ofKey key) (Call.releases (Holding.ofKey (policy.retired key)))
      (Holding.ofKey (policy.kept key)) := by
  cases policy with
  | perInvocation => simpa [KeyPolicy.retired, KeyPolicy.kept] using
      Settles.releases (Holding.ofKey key) 0
  | perSession => exact .nil _

theorem Course.settles {P : Provider σ} {config : Config} {command : UInt32} {v v' : Visit σ}
    {status : Status} (h : Course P config command v v' status) :
    ∃ calls, v.scene.device.After P calls v'.scene.device ∧
      Settles v.scene.context.holdings calls v'.scene.context.holdings := by
  have hop := Settles.releases (Holding.ofOperation v.scene.context.operation)
    (Holding.ofKey v.scene.context.key)
  rw [Multiset.coe_add] at hop
  cases h with
  | rejected hr hd hc => exact ⟨[], hd, hc ▸ .nil _⟩
  | recognised hcommand hslots h =>
    cases h with
    | misfit hf hd hc => exact ⟨[], hd, hc ▸ .nil _⟩
    | failed calls f key hf he hd hc =>
      have hkey := Settles.releases (Holding.ofKey key) 0
      rw [add_zero] at hkey
      exact ⟨_, hd, hc ▸ (hop.append he.settles).append hkey⟩
    | succeeded calls b key hf he hd hc =>
      exact ⟨_, hd, hc ▸ (hop.append he.settles).append (settles_retired config.keyPolicy key)⟩

theorem Course.idle {P : Provider σ} {config : Config} {command : UInt32} {v v' : Visit σ}
    {status : Status} (h : Course P config command v v' status)
    (hidle : v.scene.context.operation = none)
    (hkey : config.keyPolicy = .perInvocation → v.scene.context.key = none) :
    v'.scene.context.operation = none ∧
      (config.keyPolicy = .perInvocation → v'.scene.context.key = none) := by
  cases h with
  | rejected hr hd hc => exact hc ▸ ⟨hidle, hkey⟩
  | recognised hcommand hslots h =>
    cases h with
    | misfit hf hd hc => exact hc ▸ ⟨hidle, hkey⟩
    | failed calls f key hf he hd hc => exact hc ▸ ⟨rfl, fun _ => rfl⟩
    | succeeded calls b key hf he hd hc =>
      exact hc ▸ ⟨rfl, fun hpolicy => by simp [KeyPolicy.kept, hpolicy]⟩

end Invocation

end AttestedImaging

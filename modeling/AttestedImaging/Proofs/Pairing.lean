import AttestedImaging.Proofs.Blank
import AttestedImaging.Proofs.Calls

/-!
# Two runs side by side

Two runs of one program that are to be told apart only by secrets. A `Pairing` says which states of the
provider may stand side by side, and that its answers then are alike; everything that is done with the
answers keeps the two runs alike. A key that is yet to be drawn may turn out unfit, so the states are
numbered by how many keys can still be drawn.
-/

namespace AttestedImaging

/-- Two outcomes that agree: the same error, or values that are related. -/
inductive Agree {ε α : Type} (R : α → α → Prop) : Except ε α → Except ε α → Prop
  | ok {a a' : α} (h : R a a') : Agree R (.ok a) (.ok a')
  | error (e : ε) : Agree R (.error e) (.error e)

/-- Two answers for a coordinate that are taken or refused alike. -/
structure Exchangeable (c c' : Bytes) : Prop where
  empty : c = [] ↔ c' = []
  length : c.length = c'.length ∨ (c.length ≤ 32 ∧ c'.length ≤ 32)

/-- Two digests of one length that are related if they have the length of a digest. -/
structure DigestsAgree (R : Digest → Digest → Prop) (m m' : Bytes) : Prop where
  length : m.length = m'.length
  related : ∀ d d' : Digest, m = d.bytes → m' = d'.bytes → R d d'

structure Pairing {σ : Type} (P : Provider σ) where
  /-- The two runs are given the same bytes. -/
  same : Prop
  /-- Images that may be hashed side by side. -/
  images : Bytes → Bytes → Prop
  /-- Digests that may come up side by side. -/
  digests : Digest → Digest → Prop
  /-- States of the provider that may stand side by side, if so many keys can still be drawn. -/
  states : Nat → σ → σ → Prop
  digests_same : ∀ {d d'}, digests d d' → same → d = d'
  fewer : ∀ {n s s'}, states (n + 1) s s' → states n s s'
  operation : ∀ {request n s s'}, request ≠ .key → states n s s' →
    (P.allocate request s).1 = (P.allocate request s').1 ∧
      states n (P.allocate request s).2 (P.allocate request s').2
  key : ∀ {n s s'}, states (n + 1) s s' →
    (P.allocate .key s).1 = (P.allocate .key s').1 ∧
      states n (P.allocate .key s).2 (P.allocate .key s').2
  digest : ∀ {h i i' n s s'}, images i i' → states n s s' →
    Agree (DigestsAgree digests) (P.compute (.digest h i) s).1 (P.compute (.digest h i') s').1 ∧
      states n (P.compute (.digest h i) s).2 (P.compute (.digest h i') s').2
  coordinate : ∀ {k which n s s'}, states n s s' →
    Agree Exchangeable (P.compute (.coordinate k which) s).1 (P.compute (.coordinate k which) s').1 ∧
      states n (P.compute (.coordinate k which) s).2 (P.compute (.coordinate k which) s').2
  sign : ∀ {h} {d d' : Digest} {n s s'}, digests d d' → states n s s' →
    Agree (fun a a' => a.length = a'.length) (P.compute (.sign h d.bytes) s).1
        (P.compute (.sign h d'.bytes) s').1 ∧
      states n (P.compute (.sign h d.bytes) s).2 (P.compute (.sign h d'.bytes) s').2
  release : ∀ {holding n s s'}, states n s s' →
    (P.release holding s).1 = (P.release holding s').1 ∧
      states n (P.release holding s).2 (P.release holding s').2

namespace Pairing

variable {σ : Type} {P : Provider σ} (T : Pairing P)

/-! ## Devices and scenes -/

/-- Two events that read alike without the digests, and that are the same if the bytes are. -/
structure Events (e e' : Event) : Prop where
  blank : e.record.blank = e'.record.blank
  same : T.same → e = e'

structure Devices (n : Nat) (d d' : Device σ) : Prop where
  states : T.states n d.provider d'.provider
  blank : d.events.map (·.record.blank) = d'.events.map (·.record.blank)
  same : T.same → d.events = d'.events

structure Scenes (n : Nat) (s s' : Scene σ) : Prop where
  device : T.Devices n s.device s'.device
  context : s.context.blank = s'.context.blank

variable {T}

theorem Events.refl (e : Event) : T.Events e e := ⟨rfl, fun _ => rfl⟩

theorem Devices.fewer {n : Nat} {d d' : Device σ} (m : Nat) (h : T.Devices (n + m) d d') :
    T.Devices n d d' := by
  refine ⟨?_, h.blank, h.same⟩
  have hs := h.states
  induction m with
  | zero => exact hs
  | succ m ih => exact ih ⟨T.fewer hs, h.blank, h.same⟩ (T.fewer hs)

theorem Devices.log {n : Nat} {d d' : Device σ} (h : T.Devices n d d') {e e' : Event}
    (he : T.Events e e') : T.Devices n (d.log e) (d'.log e') where
  states := h.states
  blank := by simp only [Device.log, List.map_append, h.blank, List.map_cons, he.blank, List.map_nil]
  same hsame := by simp only [Device.log, h.same hsame, he.same hsame]

theorem Devices.drop {n : Nat} {d d' : Device σ} (h : T.Devices n d d') (x : Holding) :
    T.Devices n (d.drop P x) (d'.drop P x) := by
  have hlog := h.log (.refl (.releasing x))
  obtain ⟨hfound, hstates⟩ : (P.release x (d.log (.releasing x)).provider).1 =
      (P.release x (d'.log (.releasing x)).provider).1 ∧
      T.states n (P.release x (d.log (.releasing x)).provider).2
        (P.release x (d'.log (.releasing x)).provider).2 := T.release hlog.states
  have hreleased : T.Devices n
      { d.log (.releasing x) with
        provider := (P.release x (d.log (.releasing x)).provider).2
        calls := d.calls ++ [.release x] }
      { d'.log (.releasing x) with
        provider := (P.release x (d'.log (.releasing x)).provider).2
        calls := d'.calls ++ [.release x] } := ⟨hstates, hlog.blank, hlog.same⟩
  simp only [Device.drop, Device.release, ← hfound]
  split
  · exact hreleased
  · exact hreleased.log (.refl _)

namespace Scenes

variable {n : Nat} {s s' : Scene σ}

theorem operation_eq (h : T.Scenes n s s') : s.context.operation = s'.context.operation :=
  (Context.blank_eq_iff.mp h.context).1

theorem key_eq (h : T.Scenes n s s') : s.context.key = s'.context.key :=
  (Context.blank_eq_iff.mp h.context).2.1

theorem completed_eq (h : T.Scenes n s s') : s.context.completed = s'.context.completed :=
  (Context.blank_eq_iff.mp h.context).2.2

theorem fewer (m : Nat) (h : T.Scenes (n + m) s s') : T.Scenes n s s' :=
  ⟨h.device.fewer m, h.context⟩

theorem log (h : T.Scenes n s s') {e e' : Event} (he : T.Events e e') :
    T.Scenes n (s.log e) (s'.log e') := ⟨h.device.log he, h.context⟩

theorem endOperation (h : T.Scenes n s s') : T.Scenes n (s.endOperation P) (s'.endOperation P) := by
  unfold Scene.endOperation
  rw [← h.operation_eq]
  cases s.context.operation with
  | none => exact h
  | some o => exact ⟨h.device.drop _, congrArg (fun c => { c with operation := none }) h.context⟩

theorem releaseKey (h : T.Scenes n s s') : T.Scenes n (s.releaseKey P) (s'.releaseKey P) := by
  unfold Scene.releaseKey
  rw [← h.key_eq]
  cases s.context.key with
  | none => exact h
  | some k => exact ⟨h.device.drop _, congrArg (fun c => { c with key := none }) h.context⟩

theorem releaseAll (h : T.Scenes n s s') : T.Scenes n (s.releaseAll P) (s'.releaseAll P) :=
  h.endOperation.releaseKey

theorem clearResult (h : T.Scenes n s s') : T.Scenes n s.clearResult s'.clearResult :=
  ⟨h.device, h.context⟩

theorem abort (h : T.Scenes n s s') : T.Scenes n (s.abort P) (s'.abort P) :=
  h.releaseAll.clearResult

theorem recordResult (h : T.Scenes n s s') (b b' : Bundle) :
    T.Scenes n (s.recordResult b) (s'.recordResult b') :=
  ⟨h.device, congrArg (fun c => { c with completed := c.completed + 1 }) h.context⟩

end Scenes

/-! ## Works -/

variable (T) in
/-- Two works that draw at most so many keys: their outcomes agree, and they leave alike scenes alike. -/
def Works {α : Type} (R : α → α → Prop) (draws : Nat) (w w' : Work σ α) : Prop :=
  ∀ n s s', T.Scenes (n + draws) s s' → Agree R (w s).1 (w' s').1 ∧ T.Scenes n (w s).2 (w' s').2

namespace Works

variable {α β : Type} {R : α → α → Prop} {S : β → β → Prop}

theorem pure {a a' : α} (h : R a a') : T.Works R 0 (Pure.pure a) (Pure.pure a') :=
  fun _ _ _ hs => ⟨.ok h, hs⟩

theorem fail (f : Failure) : T.Works R 0 (Work.fail f) (Work.fail f) :=
  fun _ _ _ hs => ⟨.error f, hs⟩

theorem act {f f' : Scene σ → Scene σ} (h : ∀ n s s', T.Scenes n s s' → T.Scenes n (f s) (f' s')) :
    T.Works Eq 0 (Work.act f) (Work.act f') := fun n s s' hs => ⟨.ok rfl, h n s s' hs⟩

theorem log (e : Event) : T.Works Eq 0 (Work.log e) (Work.log e) :=
  act fun _ _ _ hs => hs.log (.refl e)

theorem bind_add {m n : Nat} {w w' : Work σ α} {f f' : α → Work σ β} (h : T.Works R m w w')
    (hf : ∀ a a', R a a' → T.Works S n (f a) (f' a')) : T.Works S (m + n) (w >>= f) (w' >>= f') := by
  intro k s s' hs
  -- The first part leaves the keys that the rest can draw.
  have hk : k + (m + n) = k + n + m := by omega
  obtain ⟨hagree, hleft⟩ := h (k + n) s s' (hk ▸ hs)
  rw [Work.bind_apply, Work.bind_apply]
  rcases hw : w s with ⟨outcome, t⟩
  rcases hw' : w' s' with ⟨outcome', t'⟩
  rw [hw, hw'] at hagree hleft
  cases hagree with
  | ok ha => exact hf _ _ ha k t t' hleft
  | error e => exact ⟨.error e, hleft.fewer n⟩

theorem bind {n : Nat} {w w' : Work σ α} {f f' : α → Work σ β} (h : T.Works R 0 w w')
    (hf : ∀ a a', R a a' → T.Works S n (f a) (f' a')) : T.Works S n (w >>= f) (w' >>= f') := by
  have hadd := h.bind_add hf
  rwa [Nat.zero_add] at hadd

theorem bind_rest {n : Nat} {w w' : Work σ α} {f f' : α → Work σ β} (h : T.Works R n w w')
    (hf : ∀ a a', R a a' → T.Works S 0 (f a) (f' a')) : T.Works S n (w >>= f) (w' >>= f') :=
  h.bind_add hf

theorem fewer {m : Nat} (n : Nat) {w w' : Work σ α} (h : T.Works R m w w') :
    T.Works R (m + n) w w' := by
  intro k s s' hs
  have hk : k + (m + n) = k + n + m := by omega
  obtain ⟨hagree, hleft⟩ := h (k + n) s s' (hk ▸ hs)
  exact ⟨hagree, hleft.fewer n⟩

theorem andFinally {m : Nat} {w w' : Work σ α} (h : T.Works R m w w') {f f' : Scene σ → Scene σ}
    (hf : ∀ n s s', T.Scenes n s s' → T.Scenes n (f s) (f' s')) :
    T.Works R m (w.andFinally f) (w'.andFinally f') := by
  intro k s s' hs
  obtain ⟨hagree, hleft⟩ := h k s s' hs
  exact ⟨hagree, hf _ _ _ hleft⟩

theorem allocate (draws : Nat) {request : Allocation}
    (h : ∀ n s s', T.states (n + draws) s s' →
      (P.allocate request s).1 = (P.allocate request s').1 ∧
        T.states n (P.allocate request s).2 (P.allocate request s').2) :
    T.Works Eq draws (Work.allocate P request) (Work.allocate P request) := by
  intro n s s' hs
  obtain ⟨hanswer, hstates⟩ := h n _ _ hs.device.states
  unfold Work.allocate Device.allocate
  rcases ha : P.allocate request s.device.provider with ⟨answer, t⟩
  rcases ha' : P.allocate request s'.device.provider with ⟨answer', t'⟩
  rw [ha, ha'] at hanswer hstates
  obtain rfl : answer = answer' := hanswer
  cases answer with
  | ok h => exact ⟨.ok rfl, ⟨hstates, hs.device.blank, hs.device.same⟩, hs.context⟩
  | error e => exact ⟨.error _, ⟨hstates, hs.device.blank, hs.device.same⟩, hs.context⟩

theorem operation {request : Allocation} (hr : request ≠ .key) :
    T.Works Eq 0 (Work.allocate P request) (Work.allocate P request) :=
  allocate 0 fun _ _ _ hs => T.operation hr hs

theorem key : T.Works Eq 1 (Work.allocate P .key) (Work.allocate P .key) :=
  allocate 1 fun _ _ _ hs => T.key hs

theorem compute {R : Bytes → Bytes → Prop} {request request' : Computation}
    (h : ∀ n s s', T.states n s s' →
      Agree R (P.compute request s).1 (P.compute request' s').1 ∧
        T.states n (P.compute request s).2 (P.compute request' s').2) :
    T.Works R 0 (Work.compute P request) (Work.compute P request') := by
  intro n s s' hs
  obtain ⟨hagree, hstates⟩ := h n _ _ hs.device.states
  unfold Work.compute Device.compute
  rcases hc : P.compute request s.device.provider with ⟨answer, t⟩
  rcases hc' : P.compute request' s'.device.provider with ⟨answer', t'⟩
  rw [hc, hc'] at hagree hstates
  cases hagree with
  | ok hr => exact ⟨.ok hr, ⟨hstates, hs.device.blank, hs.device.same⟩, hs.context⟩
  | error e => exact ⟨.error _, ⟨hstates, hs.device.blank, hs.device.same⟩, hs.context⟩

end Works

end Pairing

end AttestedImaging

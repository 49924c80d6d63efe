import AttestedImaging.Proofs.Application.Archive
import AttestedImaging.Proofs.Application.Census
import AttestedImaging.Proofs.Application.Steps
import AttestedImaging.Proofs.Invocation.Status

/-!
# Keys and the draws that they are made from

What becomes of the key of a session at each request, with the software provider and faults that only
fail. A request leaves the keys of other sessions alone. An invocation of the session itself keeps its
key and uses it, makes it new, or loses it.
-/

namespace AttestedImaging

namespace Application

open Invocation (Fits slots)

variable {σ : Type}

/-! ## How invocations end -/

def Moment.Succeeds (number : Nat) (m : Moment σ) : Prop :=
  m.request.session? = some number ∧ ∃ ps', m.reply = .answered .ok ps'

/-- An invocation passes all checks of its parameters, and then it fails. -/
structure Moment.Spoils (number : Nat) (m : Moment σ) : Prop where
  accepted : ∃ image bundle gray, m.request = .invoke number 0 (slots image bundle gray) ∧
    Fits m.before.config image bundle gray
  failed : ∃ status ps', m.reply = .answered status ps' ∧ status ≠ .ok

def Keyless (number : Nat) (a : Application σ) : Prop :=
  ∀ session, a.session? number = some session → session.context.key = none

theorem moment_failed {P : Provider σ} {request : Request} {a : Application σ} {number : Nat}
    (hnumber : request.session? = some number) {status : Status} {ps' : Parameters}
    (h : (moment P request a).reply = .answered status ps') (hfailed : status ≠ .ok) :
    ((moment P request a).Spoils number ∧ Keyless number (moment P request a).after) ∨
    (¬ (moment P request a).Spoils number ∧ (moment P request a).keyAnswers = [] ∧
      (moment P request a).after.session? number = a.session? number ∧
      (moment P request a).after.device.provider = a.device.provider) := by
  obtain ⟨number', command, ps, rfl, hinvoke⟩ := moment_answered h
  obtain rfl : number' = number := Option.some.inj hnumber
  rcases hsession : a.session? number' with _ | session
  · simp [invoke, hsession] at hinvoke
  obtain ⟨status', v, a', hcourse, hinvoke', ha'⟩ := invoke_course P hsession command ps
  rw [hinvoke'] at hinvoke
  obtain ⟨⟨rfl, rfl⟩, hafter⟩ : (status' = status ∧ v.parameters = ps') ∧ a' = _ := by
    simpa using hinvoke
  have hset : a'.sessions = a.sessions.set number' (some { session with
      context := v.scene.context }) := by rw [ha']
  have hdevice : a'.device = v.scene.device := by rw [ha']
  have hsame := (session?_set (lt_of_session? hsession) hset).1
  -- Without calls, and with the context that there was, nothing has happened to the session.
  have hnothing : a.device.After P [] v.scene.device → v.scene.context = session.context →
      (moment P (.invoke number' command ps) a).keyAnswers = [] ∧
      (moment P (.invoke number' command ps) a).after.session? number' = some session ∧
      (moment P (.invoke number' command ps) a).after.device.provider = a.device.provider := by
    intro hd hc
    rw [← hdevice, hafter] at hd
    rw [hc, hafter] at hsame
    refine ⟨?_, hsame, hd.untouched.2⟩
    rw [Moment.keyAnswers, moment_calls hd, List.filterMap_nil]
  cases hcourse with
  | rejected hr hd hc =>
    refine .inr ⟨fun hspoils => ?_, hnothing hd hc⟩
    obtain ⟨image, bundle, gray, hrequest, -⟩ := hspoils.accepted
    obtain ⟨-, rfl, rfl⟩ := Request.invoke.inj hrequest
    exact hr (Invocation.recognised_slots image bundle gray)
  | @recognised image bundle gray _ hcommand hslots hprocessed =>
    cases hprocessed with
    | misfit hf hd hc =>
      refine .inr ⟨fun hspoils => ?_, hnothing hd hc⟩
      obtain ⟨image', bundle', gray', hrequest, hfits⟩ := hspoils.accepted
      obtain ⟨-, -, hps⟩ := Request.invoke.inj hrequest
      obtain ⟨rfl, rfl, rfl⟩ := Invocation.slots_inj (hslots.symm.trans hps)
      exact hf hfits
    | failed calls f key hf he hd hc =>
      refine .inl ⟨⟨⟨image, bundle, gray, ?_, hf⟩, _, _, h, hfailed⟩, ?_⟩
      · rw [hcommand, show ps = _ from hslots]
        rfl
      · intro s hs
        rw [← hafter, hsame] at hs
        rw [← Option.some.inj hs]
        simp only [hc]
    | succeeded => exact absurd rfl hfailed

/-! ## Draws -/

def drawn (a : Application (Counted Software)) : Nat := a.device.provider.inner.randomness.drawn

/-- The numbers of the draws that are used up at a moment. -/
def Moment.draws (m : Moment (Counted Software)) : List Nat :=
  List.range' m.before.drawn (m.after.drawn - m.before.drawn)

theorem Moment.getLast?_draws {m : Moment (Counted Software)} {n : Nat}
    (h : m.after.drawn = m.before.drawn + n + 1) : m.draws.getLast? = some (m.before.drawn + n) := by
  have hcount : m.after.drawn - m.before.drawn = n + 1 := by omega
  rw [draws, hcount, List.getLast?_range', if_neg (Nat.succ_ne_zero n)]
  rfl

section

variable {faults : List Fault} (hfaults : Fault.OnlyFail faults)

include hfaults

theorem drawn_le_step (request : Request) (a : Application (Counted Software)) :
    a.drawn ≤ (a.step (Software.provider.withFaults faults) request).2.drawn :=
  ((Software.preserves_draws.withFaults hfaults).answers (moment_after _ request a).answers).drawn

theorem drawn_le_run (requests : List Request) (a : Application (Counted Software)) :
    a.drawn ≤ (a.run (Software.provider.withFaults faults) requests).2.drawn := by
  induction requests generalizing a with
  | nil => exact le_refl _
  | cons request rest ih => exact (drawn_le_step hfaults request a).trans (ih _)

/-- The draws of a run follow each other, and none is used up twice. -/
theorem history_draws (requests : List Request) (a : Application (Counted Software)) :
    (history (Software.provider.withFaults faults) requests a).flatMap Moment.draws =
      List.range' a.drawn ((a.run (Software.provider.withFaults faults) requests).2.drawn - a.drawn) := by
  induction requests generalizing a with
  | nil => simp [history, run]
  | cons request rest ih =>
    have hstep := drawn_le_step hfaults request a
    have hrest := drawn_le_run hfaults rest (a.step (Software.provider.withFaults faults) request).2
    have hsplit := List.range'_append_1 (s := a.drawn)
      (m := (a.step (Software.provider.withFaults faults) request).2.drawn - a.drawn)
      (n := ((a.step (Software.provider.withFaults faults) request).2.run
        (Software.provider.withFaults faults) rest).2.drawn -
          (a.step (Software.provider.withFaults faults) request).2.drawn)
    rw [Nat.add_sub_cancel' hstep] at hsplit
    rw [history, List.flatMap_cons, ih]
    refine hsplit.trans ?_
    congr 1
    simp only [run]
    omega

end

theorem not_mem_draws_of_nodup {past rest : List (Moment (Counted Software))}
    {m : Moment (Counted Software)} (h : ((past ++ m :: rest).flatMap Moment.draws).Nodup) {draw : Nat}
    (hdraw : draw ∈ m.draws) : ∀ m' ∈ past ++ rest, draw ∉ m'.draws := by
  intro m' hm' hdraw'
  have hperm : ((past ++ m :: rest).flatMap Moment.draws).Perm
      (m.draws ++ (past ++ rest).flatMap Moment.draws) := List.perm_middle.flatMap_right _
  have hdisjoint := List.disjoint_of_nodup_append (hperm.nodup_iff.mp h)
  exact hdisjoint hdraw (List.mem_flatMap.mpr ⟨m', hm', hdraw'⟩)

/-! ## Keys that are held -/

/-- Session `number` holds the handle of this key. -/
structure Holds (number : Nat) (k : Handle) (d : P256.Scalar) (a : Application (Counted Software)) :
    Prop where
  session : ∃ session, a.session? number = some session ∧ session.context.key = some k
  key : a.device.provider.inner.key k = .ok d

theorem Holds.unique {number : Nat} {k k' : Handle} {d d' : P256.Scalar}
    {a : Application (Counted Software)} (h : Holds number k d a) (h' : Holds number k' d' a) :
    k = k' ∧ d = d' := by
  obtain ⟨session, hsession, hk⟩ := h.session
  obtain ⟨session', hsession', hk'⟩ := h'.session
  obtain rfl := Option.some.inj (hsession.symm.trans hsession')
  obtain rfl := Option.some.inj (hk.symm.trans hk')
  exact ⟨rfl, Except.ok.inj (h.key.symm.trans h'.key)⟩

theorem Holds.not_keyless {number : Nat} {k : Handle} {d : P256.Scalar}
    {a : Application (Counted Software)} (h : Holds number k d a) : ¬ Keyless number a := by
  obtain ⟨session, hsession, hk⟩ := h.session
  intro hkeyless
  rw [hkeyless session hsession] at hk
  cases hk

theorem Holds.of_same {number : Nat} {k : Handle} {d : P256.Scalar}
    {a a' : Application (Counted Software)} (h : Holds number k d a)
    (hsession : a'.session? number = a.session? number)
    (hprovider : a'.device.provider = a.device.provider) : Holds number k d a' :=
  ⟨hsession ▸ h.session, hprovider ▸ h.key⟩

theorem mem_sum_holdings {entries : List (Option Session)} {number : Nat} {session : Session}
    (h : entries[number]? = some (some session)) {x : Holding} (hx : x ∈ session.context.holdings) :
    x ∈ (entries.map entryHoldings).sum := by
  obtain ⟨rest, hsum, -⟩ := sum_set entries number (some session) none h
  rw [hsum]
  exact Multiset.mem_add.mpr (.inr hx)

section

variable {faults : List Fault} (hfaults : Fault.OnlyFail faults) {config : Config}
  {storage : Option Storage} {limit : Nat} {randomness : Randomness}
  {a : Application (Counted Software)}
  (ha : Reachable (Software.provider.withFaults faults) config storage
    { inner := { limit, randomness } } a)

include hfaults ha

theorem Reachable.inner_regular : a.device.provider.inner.Regular :=
  (Software.preserves_regular.withFaults hfaults).answers ha.sound.answers
    (Software.regular_initial limit randomness)

theorem Reachable.draw?_eq (i : Nat) :
    a.device.provider.inner.randomness.draw? i = randomness.draw? i :=
  Randomness.draw?_congr
    ((Software.preserves_draws.withFaults hfaults).answers ha.sound.answers).schedule i

theorem Reachable.holds {number : Nat} {session : Session} {k : Handle}
    (hsession : a.session? number = some session) (hk : session.context.key = some k) :
    ∃ d, Holds number k d a := by
  have htidy := ha.sound.tidy (Software.keepsTable.withFaults hfaults.forges) rfl
  obtain ⟨d, hd⟩ := htidy.key_ok (ha.inner_regular hfaults) hsession hk
  exact ⟨d, ⟨session, hsession, hk⟩, hd⟩

theorem Reachable.holds_other {number other : Nat} {session : Session} {entry : Option Session}
    {calls : List Call} {a' : Application (Counted Software)} {k : Handle} {d : P256.Scalar}
    (hsession : a.session? number = some session)
    (hsessions : a'.sessions = a.sessions.set number entry)
    (hdevice : a.device.After (Software.provider.withFaults faults) calls a'.device)
    (hsettles : Settles session.context.holdings calls (entryHoldings entry))
    (hother : other ≠ number) (h : Holds other k d a) :
    Holds other k d a' ∧ .ok k ∉ calls.filterMap Call.keyAnswer? := by
  obtain ⟨session', hsession', hk⟩ := h.session
  have hsame := (session?_set (lt_of_session? hsession) hsessions).2 other hother
  obtain ⟨rest, hsum, hothers⟩ := sum_set a.sessions number (some session) none
    (session?_eq_some_iff.mp hsession)
  rw [entryHoldings, add_zero] at hothers
  -- The other session is among those whose holdings are the rest.
  have hrest : Holding.key k ∈ rest := by
    have hget := session?_eq_some_iff.mp hsession'
    rw [← List.getElem?_set_ne hother.symm] at hget
    rw [← hothers]
    exact mem_sum_holdings hget (by simp [Context.holdings, hk])
  have hP := Software.keepsTable.withFaults hfaults.forges
  have htallies := ha.sound.tallies hP rfl
  rw [holdings, hsum] at htallies
  obtain ⟨hget, hasked⟩ := hP.framed hsettles hdevice.answers htallies
    (Software.key_eq_ok_iff.mp h.key) hrest
  refine ⟨⟨⟨session', hsame.trans hsession', hk⟩, Software.key_eq_ok_iff.mpr hget⟩, fun hmem => ?_⟩
  exact hasked .key (Call.mem_keyAnswers.mp hmem)

theorem Reachable.holds_step {request : Request} {other : Nat} {k : Handle} {d : P256.Scalar}
    (hrequest : request.session? ≠ some other) (h : Holds other k d a) :
    Holds other k d (moment (Software.provider.withFaults faults) request a).after ∧
      .ok k ∉ (moment (Software.provider.withFaults faults) request a).keyAnswers := by
  obtain ⟨session, hsession, hk⟩ := h.session
  unfold Moment.keyAnswers
  cases moment_change (Software.provider.withFaults faults) request a with
  | same hsessions hdevice =>
    rw [moment_calls hdevice]
    refine ⟨h.of_same ?_ hdevice.untouched.2, by simp⟩
    exact congrArg (fun sessions => sessions[other]?.join) hsessions
  | @opened new hnone hnew hsessions hdevice =>
    rw [moment_calls hdevice]
    refine ⟨h.of_same ?_ hdevice.untouched.2, by simp⟩
    rw [session?, session?, hsessions, List.getElem?_append_left (lt_of_session? hsession)]
  | @session number session' entry calls hnumber hsession' hsessions hdevice hsettles =>
    rw [moment_calls hdevice]
    refine ha.holds_other hfaults hsession' hsessions hdevice hsettles ?_ h
    rintro rfl
    exact hrequest hnumber

/-! ## Invocations that succeed -/

/-- A success uses the key that the session holds, or one from the last draw that is used up meanwhile. -/
theorem Reachable.succeeds {request : Request} {m : Moment (Counted Software)}
    (hm : m = moment (Software.provider.withFaults faults) request a) {number : Nat}
    (h : m.Succeeds number) :
    ∃ (b : Bundle) (k : Handle) (d : P256.Scalar), m.reply.bundle? = some b.encode ∧ b.MadeWith d ∧
      m.keys = [k, k, k] ∧ (config.keyPolicy = .perSession → Holds number k d m.after) ∧
      ((Holds number k d a ∧ m.keyAnswers = []) ∨
        (Keyless number a ∧ m.keyAnswers = [.ok k] ∧
          ∃ draw, m.draws.getLast? = some draw ∧ randomness.draw? draw = some d)) := by
  subst hm
  obtain ⟨hnumber, ps', hreply⟩ := h
  obtain ⟨number', command, ps, rfl, hinvoke⟩ := moment_answered hreply
  obtain rfl : number' = number := Option.some.inj hnumber
  obtain ⟨session, image, bundle, gray, calls, b, key, hsession, -, -, he, hd, hkept, rfl⟩ :=
    invoke_ok hinvoke
  rw [ha.sound.config_eq] at he hd hkept
  rw [ha.sound.idle number' session hsession] at hd
  simp only [Holding.ofOperation_none, Call.releases_nil, List.nil_append] at hd
  have hcalls := moment_calls hd
  have hanswers := answers_inner hfaults hd.answers
    (by rw [List.findSome?_append, he.failure, Call.findSome?_releases]; rfl)
  obtain ⟨t, hcallsAnswered, hreleased⟩ := hanswers.of_append
  obtain ⟨d, hkey⟩ : ∃ d, a.device.provider.inner.signingKey session.context.key = .ok d := by
    rcases hk : session.context.key with _ | k
    · exact ⟨_, rfl⟩
    · obtain ⟨d, hd⟩ := ha.holds hfaults hsession hk
      exact ⟨d, hd.key⟩
  obtain ⟨hmade, k, rfl, htk, hkeys, hheld⟩ := he.made (ha.inner_regular hfaults) hcallsAnswered
    (ha.perSession_of_key hsession) hkey
  refine ⟨b, k, d, ?_, hmade, ?_, ?_, ?_⟩
  · rw [hreply]
    exact Invocation.bundle?_slots image _ b _
  · rw [Moment.keys, hcalls, List.filterMap_append, hkeys, Software.keys_releases, List.append_nil]
  · intro hpolicy
    rw [hpolicy] at hkept hreleased
    have hlast := hreleased.of_nil
    exact ⟨⟨_, hkept, rfl⟩, by rw [hlast]; exact htk⟩
  · have hasked : (moment (Software.provider.withFaults faults) (.invoke number' command ps)
        a).keyAnswers = calls.filterMap Call.keyAnswer? := by
      rw [Moment.keyAnswers, hcalls, List.filterMap_append, Call.keyAnswers_releases, List.append_nil]
    rw [hasked]
    rcases hheld with ⟨hk, hnone⟩ | ⟨hk, hone⟩
    · rw [hk] at hkey
      exact .inl ⟨⟨⟨session, hsession, hk⟩, hkey⟩, hnone⟩
    · refine .inr ⟨?_, hone, ?_⟩
      · intro session' hsession'
        obtain rfl := Option.some.inj (hsession.symm.trans hsession')
        exact hk
      · -- One key was asked for, so one was drawn.
        obtain ⟨n, hn, hdraw⟩ := a.device.provider.inner.randomness.scalar_draws
        have hrandomness := Software.randomness_of_answers hanswers
        rw [List.filterMap_append, Call.keyAnswers_releases, List.append_nil, hone] at hrandomness
        refine ⟨a.drawn + n, ?_, ?_⟩
        · exact Moment.getLast?_draws (congrArg Randomness.drawn (hrandomness.trans hn))
        · rw [hk] at hkey
          rw [← ha.draw?_eq hfaults, ← Except.ok.inj hkey]
          exact hdraw

end

end Application

end AttestedImaging

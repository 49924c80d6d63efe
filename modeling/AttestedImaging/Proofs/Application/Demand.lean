import AttestedImaging.Proofs.Application.Census

/-!
# How many handles an invocation needs

With the software provider and no faults, the live handles are the keys that the open sessions hold,
so an invocation has the room that these leave. It needs a handle for the operation that it is at, and
one for its key if the session does not hold it already.
-/

namespace AttestedImaging

theorem Invocation.Processed.answered {config : Config} {image : Bytes} {bundle gray : OutputBuffer}
    {v v' : Visit Software} {status : Status}
    (h : Processed Software.provider config image bundle gray v v' status)
    (hfits : Fits config image bundle gray) (hidle : v.scene.context.operation = none)
    (hs : v.scene.device.provider.Regular)
    (hheld : ∀ k, v.scene.context.key = some k → config.keyPolicy = .perSession) {d : P256.Scalar}
    (hkey : v.scene.device.provider.signingKey v.scene.context.key = .ok d)
    (hserves : Ecdsa.Serves d [(Sha256.hash (Grayscale.gray image)).bytes]) :
    (status = .ok ↔ v.scene.device.provider.live + Software.demand v.scene.context.key ≤
        v.scene.device.provider.capacity) ∧
      (status ≠ .ok → status = .outOfResources ∧ v'.scene.context.key = none) := by
  cases h with
  | misfit hf => exact absurd hfits hf
  | failed calls f key hf he hd hc =>
    rw [hidle] at hd
    obtain ⟨t, hanswers, -⟩ := hd.answers.of_append
    rcases he.answered hs hanswers hheld hkey hserves with ⟨-, b, hb⟩ | ⟨hfull, hf⟩
    · cases hb
    · rw [Except.error.inj hf]
      exact ⟨⟨nofun, fun hroom => absurd hroom (Nat.not_le_of_lt hfull)⟩, fun _ => ⟨rfl, by rw [hc]⟩⟩
  | succeeded calls b key hf he hd hc =>
    rw [hidle] at hd
    obtain ⟨t, hanswers, -⟩ := hd.answers.of_append
    rcases he.answered hs hanswers hheld hkey hserves with ⟨hroom, -⟩ | ⟨-, hb⟩
    · exact ⟨⟨fun _ => hroom, fun _ => rfl⟩, fun hn => absurd rfl hn⟩
    · cases hb

namespace Application

open Invocation (slots Refused Fits)

variable {config : Config} {storage : Option Storage} {limit : Nat} {randomness : Randomness}
  {a : Application Software}

theorem Reachable.demand_le
    (ha : Reachable Software.provider config storage { limit, randomness } a) {number : Nat}
    {session : Session} (hsession : a.session? number = some session) :
    a.device.provider.live + Software.demand session.context.key ≤
      match config.keyPolicy with
      | .perInvocation => 2
      | .perSession => config.maxSessions + 1 := by
  have hcounts := ha.counts
  have hwithin := hcounts.within
  rw [ha.live_eq]
  cases hpolicy : config.keyPolicy with
  | perInvocation =>
    have hkeyless := ha.sound.keyless hpolicy
    rw [heldKeys_eq_nil hkeyless, hkeyless number session hsession]
    simp [Software.demand]
  | perSession =>
    rcases hk : session.context.key with _ | k
    · have hlt := length_heldKeys_lt hsession hk
      rw [← hcounts.openSessions_eq] at hlt
      simp only [Software.demand, if_true]
      omega
    · have hle := length_heldKeys_le a
      rw [← hcounts.openSessions_eq] at hle
      simp only [Software.demand, reduceCtorEq, if_false]
      omega

/-- An accepted invocation succeeds exactly if there is room for its operation and for the key that it has
to make. -/
theorem invoke_demand
    (ha : Reachable Software.provider config storage { limit, randomness } a) {number : Nat}
    {session : Session} (hsession : a.session? number = some session) {command : UInt32}
    {image : Bytes} {bundle gray : OutputBuffer}
    (haccepted : ¬ Refused config command (slots image bundle gray))
    (hserves : ∀ d, a.device.provider.signingKey session.context.key = .ok d →
      Ecdsa.Serves d [(Sha256.hash (Grayscale.gray image)).bytes]) :
    ∃ status ps a',
      a.invoke Software.provider number command (slots image bundle gray) = (some (status, ps), a') ∧
      (session.context.key ≠ none → config.keyPolicy = .perSession ∧
        (status = .ok ↔ a.device.provider.live + 1 ≤ min limit 0xFFFFFFFF)) ∧
      (session.context.key = none →
        (status = .ok ↔ a.device.provider.live + 2 ≤ min limit 0xFFFFFFFF)) ∧
      (status ≠ .ok → status = .outOfResources ∧ ∃ context,
        a'.session? number = some { session with context } ∧ context.key = none) ∧
      (config.keyPolicy = .perInvocation → 2 ≤ limit → status = .ok) ∧
      (config.keyPolicy = .perSession → config.maxSessions + 1 ≤ min limit 0xFFFFFFFF →
        status = .ok) := by
  obtain ⟨rfl, hfits⟩ := (Invocation.not_refused_slots_iff _ _ _ _ _).mp haccepted
  obtain ⟨d, hkey⟩ := ha.signingKey_ok hsession
  obtain ⟨hregular, hlimit⟩ := ha.regular
  have hidle := ha.sound.idle number session hsession
  have hheld := ha.perSession_of_key hsession
  obtain ⟨status, v, a', hcourse, hinvoke, ha'⟩ :=
    invoke_course Software.provider hsession 0 (slots image bundle gray)
  rw [ha.sound.config_eq] at hcourse
  have hset : a'.sessions = a.sessions.set number (some { session with
    context := v.scene.context }) := by rw [ha']
  have hkept := (session?_set (lt_of_session? hsession) hset).1
  obtain ⟨hroom, hshort⟩ :=
    (hcourse.processed rfl).answered hfits hidle hregular hheld hkey (hserves d hkey)
  have hdemand := ha.demand_le hsession
  rw [Software.capacity, hlimit] at hroom
  refine ⟨status, v.parameters, a', hinvoke, fun hk => ?_, fun hk => ?_, fun hn => ?_, fun hp hl => ?_,
    fun hp hl => ?_⟩
  · obtain ⟨k, hk⟩ := Option.ne_none_iff_exists'.mp hk
    refine ⟨hheld k hk, ?_⟩
    rw [hroom, hk]
    rfl
  · rw [hroom, hk]
    rfl
  · obtain ⟨hstatus, hnone⟩ := hshort hn
    exact ⟨hstatus, v.scene.context, hkept, hnone⟩
  · rw [hp] at hdemand
    exact hroom.mpr (hdemand.trans (by simp only; omega))
  · rw [hp] at hdemand
    exact hroom.mpr (hdemand.trans hl)

/-- An application with one session, whose provider has so many handles. -/
def narrowApplication (limit : Nat) : Application Software :=
  (run Software.provider [.openSession Kinds.allAbsent] (create Software.provider {} none { limit })).2

set_option maxRecDepth 100000 in
/-- Two handles are enough for a session without a key, and one is not. -/
theorem invoke_demand_narrow :
    (∃ ps a', (narrowApplication 2).invoke Software.provider 0 0 (slots [1, 2, 3]
      (.ofContents (List.replicate 168 0)) (.ofContents [0, 0, 0])) = (some (.ok, ps), a')) ∧
    ∃ ps a', (narrowApplication 1).invoke Software.provider 0 0 (slots [1, 2, 3]
      (.ofContents (List.replicate 168 0)) (.ofContents [0, 0, 0])) =
        (some (.outOfResources, ps), a') := by
  have hreachable : ∀ limit, Reachable Software.provider {} none { limit, randomness := {} }
      (narrowApplication limit) := fun limit => Reachable.run .create _
  have hsession : ∀ limit, (narrowApplication limit).session? 0 = some { id := 1 } := fun _ => rfl
  have haccepted : ¬ Refused {} 0 (slots [1, 2, 3] (.ofContents (List.replicate 168 0))
      (.ofContents [0, 0, 0])) :=
    (Invocation.not_refused_slots_iff _ _ _ _ _).mpr ⟨rfl, by decide, by decide, by decide,
      by decide, by decide⟩
  have hserves : ∀ limit d, (narrowApplication limit).device.provider.signingKey none = .ok d →
      Ecdsa.Serves d [(Sha256.hash (Grayscale.gray [1, 2, 3])).bytes] := by
    intro limit d hd
    obtain rfl : ⟨1, by decide, by decide⟩ = d := Except.ok.inj hd
    decide +kernel
  constructor
  · obtain ⟨status, ps, a', hinvoke, -, hroom, -⟩ :=
      invoke_demand (hreachable 2) (hsession 2) haccepted (hserves 2)
    obtain rfl := (hroom rfl).mpr (by decide)
    exact ⟨ps, a', hinvoke⟩
  · obtain ⟨status, ps, a', hinvoke, -, hroom, hends, -⟩ :=
      invoke_demand (hreachable 1) (hsession 1) haccepted (hserves 1)
    obtain ⟨rfl, -⟩ := hends fun hok => absurd ((hroom rfl).mp hok) (by decide)
    exact ⟨ps, a', hinvoke⟩

end Application

end AttestedImaging

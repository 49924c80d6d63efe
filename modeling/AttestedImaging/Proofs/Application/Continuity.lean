import AttestedImaging.Proofs.Application.Keys

/-!
# Keys that serve a session

If a key is to serve a session, it stays the same from one success to the next, whatever the other
sessions do, and only an accepted invocation of the session that fails brings it to an end. The draws
that keys are made from are told apart by sessions.
-/

namespace AttestedImaging.Application

open Invocation (slots)

variable {σ : Type}

/-! ## Where a key comes from -/

/-- The last of these moments at which a key was made under this handle. -/
def keyMaker? (moments : List (Moment σ)) (k : Handle) : Option (Moment σ) :=
  (moments.filter fun m => .ok k ∈ m.keyAnswers).getLast?

theorem keyMaker?_concat (moments : List (Moment σ)) (m : Moment σ) (k : Handle) :
    keyMaker? (moments ++ [m]) k =
      if .ok k ∈ m.keyAnswers then some m else keyMaker? moments k := by
  unfold keyMaker?
  rw [List.filter_append]
  by_cases hmade : .ok k ∈ m.keyAnswers
  · simp [hmade]
  · simp [hmade]

theorem mem_of_keyMaker? {moments : List (Moment σ)} {k : Handle} {m : Moment σ}
    (h : keyMaker? moments k = some m) : m ∈ moments :=
  List.mem_of_mem_filter (List.mem_of_getLast? h)

/-- The draw of the key that is used at the moment `m`, if `past` is what was before. -/
def signingDraw? (past : List (Moment (Counted Software))) (m : Moment (Counted Software)) :
    Option Nat := do
  let k ← m.keys.head?
  let maker ← keyMaker? (past ++ [m]) k
  maker.draws.getLast?

theorem signingDraw?_of_made (past : List (Moment (Counted Software))) {m : Moment (Counted Software)}
    {k : Handle} {draw : Nat} (hkeys : m.keys = [k, k, k]) (hmade : m.keyAnswers = [.ok k])
    (hdraw : m.draws.getLast? = some draw) : signingDraw? past m = some draw := by
  have hmaker : keyMaker? (past ++ [m]) k = some m := by
    rw [keyMaker?_concat, hmade, if_pos (List.mem_singleton_self _)]
  simp only [signingDraw?, hkeys, List.head?_cons, Option.bind_eq_bind, Option.bind_some, hmaker,
    hdraw]

/-! ## Keys from one moment to the next -/

variable {P : Provider σ} {request : Request} {a : Application σ} {number : Nat}

theorem Moment.Succeeds.alive {m : Moment σ} (hm : m = moment P request a) (h : m.Succeeds number) :
    a.session? number ≠ none := by
  subst hm
  obtain ⟨hrequest, ps', hreply⟩ := h
  obtain ⟨number', command, ps, rfl, hinvoke⟩ := moment_answered hreply
  obtain rfl : number' = number := Option.some.inj hrequest
  intro hnone
  simp [invoke, hnone] at hinvoke

/-- What a moment can mean to session `number` and its key. -/
inductive Turn (number : Nat) (m : Moment σ) : Prop
  | elsewhere (hother : m.request.session? ≠ some number)
  | ended (hended : m.after.session? number = none)
  | succeeded (h : m.Succeeds number)
  | spoilt (h : m.Spoils number) (hlost : Keyless number m.after)
  | rejected (hharmless : ¬ m.Spoils number) (hnone : m.keyAnswers = [])
      (hsession : m.after.session? number = m.before.session? number)
      (hprovider : m.after.device.provider = m.before.device.provider)

theorem moment_turn (P : Provider σ) (request : Request) (a : Application σ) (number : Nat) :
    Turn number (moment P request a) := by
  by_cases hrequest : request.session? = some number
  · rcases hsession : a.session? number with _ | session
    · exact .ended ((moment_change P request a).session?_ended (.inr hrequest) hsession)
    · rcases answered_or_ended hrequest hsession with ⟨status, ps', hreply⟩ | hended
      · by_cases hok : status = .ok
        · exact .succeeded ⟨hrequest, ps', hok ▸ hreply⟩
        · rcases moment_failed hrequest hreply hok with ⟨h, hlost⟩ | ⟨h, hnone, hsame, hprovider⟩
          · exact .spoilt h hlost
          · exact .rejected h hnone hsame hprovider
      · exact .ended hended
  · exact .elsewhere hrequest

theorem Keyless.step (h : Keyless number a) (hfails : ¬ (moment P request a).Succeeds number) :
    Keyless number (moment P request a).after := by
  cases moment_turn P request a number with
  | elsewhere hother =>
    intro session hafter
    rcases (moment_change P request a).session?_before hother hafter with hbefore | hnew
    · exact h session hbefore
    · rw [hnew]
  | ended hended =>
    intro session hafter
    rw [hended] at hafter
    cases hafter
  | succeeded hsucceeds => exact absurd hsucceeds hfails
  | spoilt _ hlost => exact hlost
  | rejected _ _ hsession =>
    intro session hafter
    exact h session (hsession ▸ hafter)

theorem Keyless.run (requests : List Request) (h : Keyless number a)
    (hfails : ∀ m ∈ history P requests a, ¬ m.Succeeds number) :
    Keyless number (a.run P requests).2 := by
  induction requests generalizing a with
  | nil => exact h
  | cons request rest ih =>
    obtain ⟨hfirst, hrest⟩ := List.forall_mem_cons.mp hfails
    exact ih (h.step hfirst) hrest

theorem Moment.Spoils.keyless {m : Moment σ} (hm : m = moment P request a) (h : m.Spoils number) :
    Keyless number m.after := by
  subst hm
  obtain ⟨image, bundle, gray, hrequest, hfits⟩ := h.accepted
  obtain ⟨status, ps', hreply, hfailed⟩ := h.failed
  have hnumber : request.session? = some number := by
    rw [show request = _ from hrequest]
    rfl
  rcases moment_failed hnumber hreply hfailed with ⟨-, hlost⟩ | ⟨hharmless, -⟩
  · exact hlost
  · exact absurd h hharmless

section

variable {faults : List Fault} (hfaults : Fault.OnlyFail faults) {config : Config}
  (hpolicy : config.keyPolicy = .perSession) {storage : Option Storage} {limit : Nat}
  {randomness : Randomness}

include hfaults hpolicy

section

variable {a : Application (Counted Software)}
  (ha : Reachable (Software.provider.withFaults faults) config storage
    { inner := { limit, randomness } } a)

include ha

theorem Reachable.holds_through {m : Moment (Counted Software)}
    (hm : m = moment (Software.provider.withFaults faults) request a) {k : Handle} {d : P256.Scalar}
    (h : Holds number k d a) (hspared : ¬ m.Spoils number) (halive : m.after.session? number ≠ none) :
    Holds number k d m.after ∧ (request.session? = some number → m.keyAnswers = []) := by
  subst hm
  cases moment_turn (Software.provider.withFaults faults) request a number with
  | elsewhere hother =>
    exact ⟨(ha.holds_step hfaults hother h).1, fun hnumber => absurd hnumber hother⟩
  | ended hended => exact absurd hended halive
  | succeeded hsucceeds =>
    obtain ⟨-, k', d', -, -, -, hafter, ⟨hbefore, hnone⟩ | ⟨hkeyless, -⟩⟩ :=
      ha.succeeds hfaults rfl hsucceeds
    · obtain ⟨rfl, rfl⟩ := h.unique hbefore
      exact ⟨hafter hpolicy, fun _ => hnone⟩
    · exact absurd hkeyless h.not_keyless
  | spoilt hspoils => exact absurd hspoils hspared
  | rejected _ hnone hsession hprovider => exact ⟨h.of_same hsession hprovider, fun _ => hnone⟩

theorem Reachable.holds_before {m : Moment (Counted Software)}
    (hm : m = moment (Software.provider.withFaults faults) request a) {k : Handle} {d : P256.Scalar}
    (h : Holds number k d m.after) :
    (Holds number k d a ∧ .ok k ∉ m.keyAnswers) ∨
      (request.session? = some number ∧ m.keyAnswers = [.ok k] ∧
        ∃ draw, m.draws.getLast? = some draw ∧ randomness.draw? draw = some d) := by
  subst hm
  obtain ⟨session, hafter, hk⟩ := h.session
  cases moment_turn (Software.provider.withFaults faults) request a number with
  | elsewhere hother =>
    have hchange := moment_change (Software.provider.withFaults faults) request a
    -- This session is as it was, or it is new and holds no key.
    rcases hchange.session?_before hother hafter with hbefore | hnew
    · obtain ⟨d', hd'⟩ := ha.holds hfaults hbefore hk
      obtain ⟨hkept, hunmade⟩ := ha.holds_step hfaults hother hd'
      obtain ⟨-, rfl⟩ := h.unique hkept
      exact .inl ⟨hd', hunmade⟩
    · rw [hnew] at hk
      cases hk
  | ended hended =>
    rw [hended] at hafter
    cases hafter
  | succeeded hsucceeds =>
    obtain ⟨-, k', d', -, -, -, hheld, hsource⟩ := ha.succeeds hfaults rfl hsucceeds
    obtain ⟨rfl, rfl⟩ := h.unique (hheld hpolicy)
    rcases hsource with ⟨hbefore, hnone⟩ | ⟨-, hmade⟩
    · exact .inl ⟨hbefore, by simp [hnone]⟩
    · exact .inr ⟨hsucceeds.1, hmade⟩
  | spoilt _ hlost => exact absurd hlost h.not_keyless
  | rejected _ hnone hsession hprovider =>
    exact .inl ⟨h.of_same hsession.symm hprovider.symm, by simp [hnone]⟩

theorem Reachable.holds_run {requests : List Request} {k : Handle} {d : P256.Scalar}
    (h : Holds number k d a)
    (hspared : ∀ m ∈ history (Software.provider.withFaults faults) requests a, ¬ m.Spoils number)
    (halive : (a.run (Software.provider.withFaults faults) requests).2.session? number ≠ none) :
    Holds number k d (a.run (Software.provider.withFaults faults) requests).2 ∧
      ∀ m ∈ history (Software.provider.withFaults faults) requests a,
        m.request.session? = some number → m.keyAnswers = [] := by
  induction requests generalizing a with
  | nil => exact ⟨h, by simp [history]⟩
  | cons request rest ih =>
    obtain ⟨hfirst, hrest⟩ := List.forall_mem_cons.mp hspared
    obtain ⟨session, hsession, -⟩ := h.session
    have hopened := (lt_of_session? hsession).trans_le
      (moment_change (Software.provider.withFaults faults) request a).length_sessions_le
    have hstep := ha.holds_through hfaults hpolicy rfl h hfirst
      fun hended => halive (run_ended rest hopened hended)
    obtain ⟨hlast, hnone⟩ := ih (ha.step request) hstep.1 hrest halive
    exact ⟨hlast, List.forall_mem_cons.mpr ⟨hstep.2, hnone⟩⟩

/-- From one success to the next a session uses one key, unless an invocation spoils it in between. -/
theorem Reachable.same_key {middle : List Request} {request' : Request}
    {first second : Moment (Counted Software)}
    (hfirst : first = moment (Software.provider.withFaults faults) request a)
    (hsecond : second = moment (Software.provider.withFaults faults) request'
      (first.after.run (Software.provider.withFaults faults) middle).2)
    (h : first.Succeeds number) (h' : second.Succeeds number)
    (hspared : ∀ m ∈ history (Software.provider.withFaults faults) middle first.after,
      ¬ m.Spoils number) :
    ∃ b b' : Bundle, first.reply.bundle? = some b.encode ∧ second.reply.bundle? = some b'.encode ∧
      b.x = b'.x ∧ b.y = b'.y ∧
      ∀ m ∈ history (Software.provider.withFaults faults) middle first.after ++ [second],
        m.request.session? = some number → m.keyAnswers = [] := by
  have hafter : Reachable (Software.provider.withFaults faults) config storage
      { inner := { limit, randomness } } first.after := hfirst ▸ ha.step request
  obtain ⟨b, k, d, hb, hmade, -, hheld, -⟩ := ha.succeeds hfaults hfirst h
  obtain ⟨hbefore, hnone⟩ := hafter.holds_run hfaults hpolicy (hheld hpolicy) hspared (h'.alive hsecond)
  obtain ⟨b', k', d', hb', hmade', -, -, ⟨hheld', hnone'⟩ | ⟨hkeyless, -⟩⟩ :=
    (hafter.run middle).succeeds hfaults hsecond h'
  · obtain ⟨rfl, rfl⟩ := hbefore.unique hheld'
    obtain ⟨hx, hy⟩ := hmade.same_key hmade'
    refine ⟨b, b', hb, hb', hx, hy, fun m hm hnumber => ?_⟩
    rcases List.mem_append.mp hm with hbetween | hlast
    · exact hnone m hbetween hnumber
    · rw [List.mem_singleton.mp hlast]
      exact hnone'
  · exact absurd hkeyless hbefore.not_keyless

omit hpolicy in
theorem Reachable.new_key {middle : List Request} {request' : Request}
    {spoilt next : Moment (Counted Software)}
    (hspoilt : spoilt = moment (Software.provider.withFaults faults) request a)
    (hnext : next = moment (Software.provider.withFaults faults) request'
      (spoilt.after.run (Software.provider.withFaults faults) middle).2)
    (h : spoilt.Spoils number) (h' : next.Succeeds number)
    (hfails : ∀ m ∈ history (Software.provider.withFaults faults) middle spoilt.after,
      ¬ m.Succeeds number) :
    ∃ k draw, next.keyAnswers = [.ok k] ∧ next.keys = [k, k, k] ∧ next.draws.getLast? = some draw := by
  have hafter : Reachable (Software.provider.withFaults faults) config storage
      { inner := { limit, randomness } } spoilt.after := hspoilt ▸ ha.step request
  have hkeyless := (h.keyless hspoilt).run middle hfails
  obtain ⟨-, k, d, -, -, hkeys, -, ⟨hheld, -⟩ | ⟨-, hone, draw, hdraw, -⟩⟩ :=
    (hafter.run middle).succeeds hfaults hnext h'
  · exact absurd hkeyless hheld.not_keyless
  · exact ⟨k, draw, hone, hkeys, hdraw⟩

end

theorem holds_made (requests : List Request) {k : Handle} {d : P256.Scalar} :
    let P := Software.provider.withFaults faults
    let a := create P config storage { inner := { limit, randomness } }
    Holds number k d (a.run P requests).2 →
    ∃ maker draw, keyMaker? (history P requests a) k = some maker ∧
      maker.request.session? = some number ∧ maker.draws.getLast? = some draw ∧
      randomness.draw? draw = some d := by
  intro P a
  induction requests using List.reverseRecOn with
  | nil =>
    intro h
    obtain ⟨session, hsession, -⟩ := h.session
    rw [show (a.run P []).2.session? number = none from rfl] at hsession
    cases hsession
  | append_singleton earlier request ih =>
    intro h
    rw [run_append] at h
    have ha : Reachable P config storage { inner := { limit, randomness } } (a.run P earlier).2 :=
      Reachable.create.run earlier
    rw [history_append, show history P [request] _ = [moment P request _] from rfl, keyMaker?_concat]
    rcases ha.holds_before hfaults hpolicy rfl h with ⟨hbefore, hother⟩ | ⟨hrequest, hmade, draw, hdraw⟩
    · rw [if_neg hother]
      exact ih hbefore
    · rw [hmade, if_pos (List.mem_singleton_self _)]
      exact ⟨_, draw, rfl, hrequest, hdraw⟩

theorem signingDraw?_of_succeeds {requests : List Request} {past rest : List (Moment (Counted Software))}
    {m : Moment (Counted Software)}
    (hsplit : history (Software.provider.withFaults faults) requests
      (create (Software.provider.withFaults faults) config storage
        { inner := { limit, randomness } }) = past ++ m :: rest)
    (h : m.Succeeds number) :
    ∃ (b : Bundle) (d : P256.Scalar) (maker : Moment (Counted Software)) (draw : Nat),
      m.reply.bundle? = some b.encode ∧ b.MadeWith d ∧
      maker ∈ past ++ m :: rest ∧ maker.request.session? = some number ∧ draw ∈ maker.draws ∧
      signingDraw? past m = some draw ∧ randomness.draw? draw = some d := by
  obtain ⟨earlier, request, later, -, rfl, hm, -⟩ := of_history_eq hsplit
  have ha : Reachable (Software.provider.withFaults faults) config storage
      { inner := { limit, randomness } } _ := Reachable.create.run earlier
  obtain ⟨b, k, d, hb, hmade, hkeys, hheld, -⟩ := ha.succeeds hfaults hm h
  have hlast : m.after = (run (Software.provider.withFaults faults) (earlier ++ [request])
      (create (Software.provider.withFaults faults) config storage
        { inner := { limit, randomness } })).2 := by
    rw [hm, run_append]
    rfl
  obtain ⟨maker, draw, hmaker, hnumber, hdraws, hdraw⟩ :=
    holds_made hfaults hpolicy (earlier ++ [request]) (hlast ▸ hheld hpolicy)
  rw [history_append, show history _ [request] _ = [m] from by rw [hm]; rfl] at hmaker
  refine ⟨b, d, maker, draw, hb, hmade, ?_, hnumber, List.mem_of_getLast? hdraws, ?_, hdraw⟩
  · rw [List.append_cons]
    exact List.mem_append_left rest (mem_of_keyMaker? hmaker)
  · simp [signingDraw?, hkeys, hmaker, hdraws]

/-- The successes of a session use one key until an invocation spoils it, and then a new one. Different
sessions use different draws. -/
theorem session_keys (storage : Option Storage) (limit : Nat) (randomness : Randomness)
    (requests : List Request) :
    let P := Software.provider.withFaults faults
    let a := create P config storage { inner := { limit, randomness } }
    let moments := history P requests a
    (∀ past m rest number, moments = past ++ m :: rest → m.Succeeds number →
      ∃ (b : Bundle) (d : P256.Scalar) (draw : Nat), m.reply.bundle? = some b.encode ∧
        b.MadeWith d ∧ signingDraw? past m = some draw ∧ randomness.draw? draw = some d) ∧
    (∀ past first between second rest number,
      moments = past ++ first :: (between ++ second :: rest) →
      first.Succeeds number → second.Succeeds number → (∀ m ∈ between, ¬ m.Spoils number) →
      ∃ b b' : Bundle, first.reply.bundle? = some b.encode ∧ second.reply.bundle? = some b'.encode ∧
        b.x = b'.x ∧ b.y = b'.y ∧
        ∀ m ∈ between ++ [second], m.request.session? = some number → m.keyAnswers = []) ∧
    (∀ past spoilt between next rest number,
      moments = past ++ spoilt :: (between ++ next :: rest) →
      spoilt.Spoils number → (∀ m ∈ between, ¬ m.Succeeds number) → next.Succeeds number →
      ∃ k draw, next.keyAnswers = [.ok k] ∧ next.keys = [k, k, k] ∧
        signingDraw? (past ++ spoilt :: between) next = some draw ∧ draw ∈ next.draws ∧
        ∀ m ∈ past ++ spoilt :: between ++ rest, draw ∉ m.draws) ∧
    ∀ past m rest past' m' rest' number number', moments = past ++ m :: rest →
      moments = past' ++ m' :: rest' → m.Succeeds number → m'.Succeeds number' → number ≠ number' →
      signingDraw? past m ≠ signingDraw? past' m' := by
  intro P a moments
  have hnodup : (moments.flatMap Moment.draws).Nodup := by
    rw [history_draws hfaults requests a]
    exact List.nodup_range'
  refine ⟨?_, ?_, ?_, ?_⟩
  · -- Every success uses the key of one draw.
    intro past m rest number hmoments h
    obtain ⟨b, d, maker, draw, hb, hmade, -, -, -, hdraw, hd⟩ :=
      signingDraw?_of_succeeds hfaults hpolicy hmoments h
    exact ⟨b, d, draw, hb, hmade, hdraw, hd⟩
  · -- A session that is spared uses the same key again.
    intro past first between second rest number hmoments h h' hspared
    obtain ⟨earlier, request, later, -, -, hfirst, hlater⟩ := of_history_eq hmoments
    obtain ⟨middle, request', -, -, rfl, hsecond, -⟩ := of_history_eq hlater.symm
    exact (Reachable.create.run earlier).same_key hfaults hpolicy hfirst hsecond h h' hspared
  · -- One that was spoilt makes another.
    intro past spoilt between next rest number hmoments h hfails h'
    obtain ⟨earlier, request, later, -, -, hspoilt, hlater⟩ := of_history_eq hmoments
    obtain ⟨middle, request', -, -, hbetween, hnext, -⟩ := of_history_eq hlater.symm
    subst hbetween
    obtain ⟨k, draw, hone, hkeys, hdraw⟩ :=
      (Reachable.create.run earlier).new_key hfaults hspoilt hnext h h' hfails
    refine ⟨k, draw, hone, hkeys, ?_, List.mem_of_getLast? hdraw, ?_⟩
    · exact signingDraw?_of_made _ hkeys hone hdraw
    · have hsplit : moments = (past ++ spoilt :: history P middle spoilt.after) ++ next :: rest := by
        rw [hmoments, List.append_assoc, List.cons_append]
      exact not_mem_draws_of_nodup (hsplit ▸ hnodup) (List.mem_of_getLast? hdraw)
  · -- A draw is used up at one moment, so it serves one session.
    intro past m rest past' m' rest' number number' hmoments hmoments' h h' hne hsame
    obtain ⟨-, -, maker, draw, -, -, hmaker, hnumber, hmem, hdraw, -⟩ :=
      signingDraw?_of_succeeds hfaults hpolicy hmoments h
    obtain ⟨-, -, maker', draw', -, -, hmaker', hnumber', hmem', hdraw', -⟩ :=
      signingDraw?_of_succeeds hfaults hpolicy hmoments' h'
    obtain rfl : draw = draw' := Option.some.inj (hdraw.symm.trans (hsame.trans hdraw'))
    rw [← hmoments] at hmaker
    rw [← hmoments'] at hmaker'
    obtain ⟨before, after, hsplit⟩ := List.append_of_mem hmaker
    refine not_mem_draws_of_nodup (hsplit ▸ hnodup) hmem maker' ?_ hmem'
    have hother : maker' ≠ maker := by
      rintro rfl
      exact hne (Option.some.inj (hnumber.symm.trans hnumber'))
    simpa [hsplit, hother] using hmaker'

end

/-- Between two successes of the first session, the second one makes a key and loses it. -/
theorem session_keys_spoilt_between :
    let P := Software.provider.withFaults [⟨.coordinate, some 3, .fail (.backend "")⟩]
    let invocation number := Request.invoke number 0 (slots [1, 2, 3]
      (.ofContents (List.replicate 168 0)) (.ofContents [0, 0, 0]))
    let a := create P { keyPolicy := .perSession } none { inner := {} }
    let moments := history P [.openSession Kinds.allAbsent, .openSession Kinds.allAbsent,
      invocation 0, invocation 1, invocation 0] a
    moments.map Moment.draws = [[], [], [0], [1], []] ∧
    ∃ past first between second b b', moments = past ++ first :: (between ++ [second]) ∧
      between.length = 1 ∧ first.reply.bundle? = some (Bundle.encode b) ∧
      second.reply.bundle? = some (Bundle.encode b') ∧ b.x = b'.x ∧ b.y = b'.y ∧
      second.keyAnswers = [] := by
  intro P invocation a moments
  have hrun : moments.map (fun m => (m.draws, m.reply.bundle?.isSome)) =
      [([], false), ([], false), ([0], true), ([1], false), ([], true)] := by
    decide +kernel
  have hfaults : Fault.OnlyFail [⟨.coordinate, some 3, .fail (.backend "")⟩] := by
    simp [Fault.OnlyFail]
  have hpolicy : ({ keyPolicy := .perSession } : Config).keyPolicy = .perSession := rfl
  obtain ⟨-, hsame, -⟩ := session_keys hfaults hpolicy none 8 {} [.openSession Kinds.allAbsent,
    .openSession Kinds.allAbsent, invocation 0, invocation 1, invocation 0]
  refine ⟨?_, ?_⟩
  · have hdraws := congrArg (List.map Prod.fst) hrun
    rwa [List.map_map] at hdraws
  · obtain ⟨m₀, m₁, m₂, m₃, m₄, hmoments, h₂, h₃, h₄⟩ : ∃ m₀ m₁ m₂ m₃ m₄,
        moments = [m₀, m₁] ++ m₂ :: ([m₃] ++ m₄ :: []) ∧ m₂.request = invocation 0 ∧
        m₃.request = invocation 1 ∧ m₄.request = invocation 0 :=
      ⟨_, _, _, _, _, rfl, rfl, rfl, rfl⟩
    rw [hmoments] at hrun
    simp only [List.cons_append, List.nil_append, List.map_cons, List.map_nil, List.cons.injEq,
      Prod.mk.injEq, and_true] at hrun
    obtain ⟨-, -, ⟨-, hsome₂⟩, -, -, hsome₄⟩ := hrun
    have hspared : ∀ m ∈ [m₃], ¬ m.Spoils 0 := by
      intro m hm hspoils
      rw [List.mem_singleton.mp hm] at hspoils
      obtain ⟨image, bundle, gray, hrequest, -⟩ := hspoils.accepted
      rw [h₃] at hrequest
      cases hrequest
    obtain ⟨b, b', hb, hb', hx, hy, hnone⟩ := hsame _ _ _ _ _ 0 hmoments
      ⟨h₂ ▸ rfl, Reply.answered_of_bundle? hsome₂⟩ ⟨h₄ ▸ rfl, Reply.answered_of_bundle? hsome₄⟩ hspared
    exact ⟨_, m₂, [m₃], m₄, b, b', hmoments, rfl, hb, hb', hx, hy, hnone m₄ (by simp) (h₄ ▸ rfl)⟩

end AttestedImaging.Application

import AttestedImaging.Proofs.Application.Keys

/-!
# What is kept for a session

The count and the result that are kept for a session are those of its history: the count is the number
of its successes, and the result is that of the last invocation that was accepted.
-/

namespace AttestedImaging.Application

open Invocation (slots Refused)

variable {σ : Type} {P : Provider σ} {config : Config} {a : Application σ} {number : Nat}
  {moments : List (Moment σ)} {m m' : Moment σ} {before after : Context}

/-! ## The history of one session -/

def Reply.isOk : Reply → Bool
  | .answered .ok _ => true
  | _ => false

theorem Reply.isOk_iff (reply : Reply) : reply.isOk = true ↔ ∃ ps', reply = .answered .ok ps' := by
  constructor
  · intro h
    unfold Reply.isOk at h
    split at h
    · exact ⟨_, rfl⟩
    · cases h
  · rintro ⟨ps', rfl⟩
    rfl

instance (number : Nat) : DecidablePred (Moment.Succeeds (σ := σ) number) := fun m =>
  decidable_of_iff (m.request.session? = some number ∧ m.reply.isOk = true)
    (and_congr_right' m.reply.isOk_iff)

/-- The number of successes of a session. Nothing is answered under its number before it is opened. -/
def completions (number : Nat) (moments : List (Moment σ)) : Nat :=
  moments.countP fun m => m.Succeeds number

theorem completions_concat (number : Nat) (moments : List (Moment σ)) (m : Moment σ) :
    completions number (moments ++ [m]) =
      completions number moments + if m.Succeeds number then 1 else 0 := by
  unfold completions
  simp [List.countP_append, List.countP_singleton]

/-- An invocation of the session is answered, and its parameters are not refused. -/
structure Moment.Attempts (number : Nat) (m : Moment σ) : Prop where
  accepted : ∃ command ps, m.request = .invoke number command ps ∧
    ¬ Refused m.before.config command ps
  answered : ∃ status ps', m.reply = .answered status ps'

theorem Moment.Attempts.session? (h : m.Attempts number) : m.request.session? = some number := by
  obtain ⟨command, ps, hrequest, -⟩ := h.accepted
  rw [hrequest]
  rfl

/-- The last attempt of a session among these moments. -/
def LastAttempt (number : Nat) (moments : List (Moment σ)) (m : Moment σ) : Prop :=
  ∃ past rest, moments = past ++ m :: rest ∧ m.Attempts number ∧ ∀ m' ∈ rest, ¬ m'.Attempts number

theorem of_concat_eq {past rest : List (Moment σ)} (h : moments ++ [m] = past ++ m' :: rest) :
    (m' = m ∧ rest = []) ∨ ∃ rest', rest = rest' ++ [m] ∧ moments = past ++ m' :: rest' := by
  rcases List.eq_nil_or_concat rest with rfl | ⟨rest', last, rfl⟩
  · obtain ⟨-, hlast⟩ := List.append_inj' h rfl
    exact .inl ⟨(List.cons.inj hlast).1.symm, rfl⟩
  · have hsplit : moments ++ [m] = (past ++ m' :: rest') ++ [last] := by simpa using h
    obtain ⟨hmoments, hlast⟩ := List.append_inj' hsplit rfl
    obtain ⟨rfl, -⟩ := List.cons.inj hlast
    exact .inr ⟨rest', by simp, hmoments⟩

theorem lastAttempt_concat (h : m.Attempts number) :
    LastAttempt number (moments ++ [m]) m' ↔ m' = m := by
  constructor
  · rintro ⟨past, rest, hsplit, -, hrest⟩
    rcases of_concat_eq hsplit with ⟨hlast, -⟩ | ⟨rest', rfl, -⟩
    · exact hlast
    · exact absurd h (hrest m (by simp))
  · rintro rfl
    exact ⟨moments, [], rfl, h, by simp⟩

theorem lastAttempt_concat_of_not (h : ¬ m.Attempts number) :
    LastAttempt number (moments ++ [m]) m' ↔ LastAttempt number moments m' := by
  constructor
  · rintro ⟨past, rest, hsplit, hattempts, hrest⟩
    rcases of_concat_eq hsplit with ⟨rfl, -⟩ | ⟨rest', rfl, hmoments⟩
    · exact absurd hattempts h
    · exact ⟨past, rest', hmoments, hattempts, fun m'' hm'' => hrest m'' (by simp [hm''])⟩
  · rintro ⟨past, rest, rfl, hattempts, hrest⟩
    refine ⟨past, rest ++ [m], by simp, hattempts, ?_⟩
    intro m'' hm''
    rcases List.mem_append.mp hm'' with hm'' | hm''
    · exact hrest m'' hm''
    · rwa [List.mem_singleton.mp hm'']

/-! ## One request -/

/-- What a request does to what is kept for a session. -/
inductive Keeps (number : Nat) (m : Moment σ) (before after : Context) : Prop
  | unchanged (hattempts : ¬ m.Attempts number) (hsucceeds : ¬ m.Succeeds number)
      (hafter : after = before)
  | failed (hattempts : m.Attempts number) (hsucceeds : ¬ m.Succeeds number)
      (hafter : after = { completed := before.completed })
  | succeeded (b : Bundle) (key : Option Handle) (hattempts : m.Attempts number)
      (hsucceeds : m.Succeeds number) (hb : m.reply.bundle? = some b.encode)
      (hafter : after = ⟨none, key, some b, before.completed + 1⟩)

theorem Keeps.of_elsewhere (h : m.request.session? ≠ some number) (context : Context) :
    Keeps number m context context :=
  .unchanged (fun hattempts => h hattempts.session?) (fun hsucceeds => h hsucceeds.1) rfl

theorem Keeps.of_unanswered (h : ∀ status ps', m.reply ≠ .answered status ps') (context : Context) :
    Keeps number m context context := by
  apply Keeps.unchanged _ _ rfl
  · intro hattempts
    obtain ⟨status, ps', hreply⟩ := hattempts.answered
    exact h status ps' hreply
  · rintro ⟨-, ps', hreply⟩
    exact h .ok ps' hreply

theorem not_succeeds {status : Status} {ps' : Parameters} (hreply : m.reply = .answered status ps')
    (hfailed : status ≠ .ok) : ¬ m.Succeeds number := by
  rintro ⟨-, ps'', h⟩
  rw [hreply] at h
  exact hfailed (Reply.answered.inj h).1

theorem not_attempts {command : UInt32} {ps : Parameters} (h : Refused a.config command ps) :
    ¬ (moment P (.invoke number command ps) a).Attempts number := by
  intro hattempts
  obtain ⟨command', ps', hrequest, haccepted⟩ := hattempts.accepted
  obtain ⟨-, rfl, rfl⟩ := Request.invoke.inj hrequest
  exact haccepted h

theorem invoke_keeps (P : Provider σ) {session : Session} (hsession : a.session? number = some session)
    (command : UInt32) (ps : Parameters) : ∃ context,
      (moment P (.invoke number command ps) a).after.sessions =
        a.sessions.set number (some { session with context }) ∧
      Keeps number (moment P (.invoke number command ps) a) session.context context := by
  obtain ⟨status, v, a', hcourse, hinvoke, rfl⟩ := invoke_course P hsession command ps
  have hreply : (moment P (.invoke number command ps) a).reply = .answered status v.parameters := by
    simp only [moment, step, hinvoke]
  refine ⟨v.scene.context, by simp only [moment, step, hinvoke], ?_⟩
  have hattempts : ¬ Refused a.config command ps →
      (moment P (.invoke number command ps) a).Attempts number := fun haccepted =>
    ⟨⟨command, ps, rfl, haccepted⟩, _, _, hreply⟩
  cases hcourse with
  | rejected hr hd hc =>
    exact .unchanged (not_attempts (Invocation.refused_of_not_recognised hr))
      (not_succeeds hreply (by decide)) hc
  | @recognised image bundle gray _ hcommand hslots h =>
    obtain rfl : ps = slots image bundle gray := hslots
    cases h with
    | misfit hf hd hc =>
      subst hcommand
      exact .unchanged (not_attempts ((Invocation.refused_slots_iff _ _ _ _).mpr hf))
        (not_succeeds hreply (by decide)) hc
    | failed calls f key hf he hd hc =>
      subst hcommand
      exact .failed (hattempts hf.not_refused) (not_succeeds hreply f.status_ne_ok) hc
    | succeeded calls b key hf he hd hc hp =>
      subst hcommand
      refine .succeeded b _ (hattempts hf.not_refused) ⟨rfl, _, hreply⟩ ?_ hc
      rw [hreply, Reply.bundle?, hp]
      exact Invocation.bundle?_slots image _ b _

/-- What is kept for a session that has not ended. A session that is yet to be opened has nothing. -/
def kept? (number : Nat) (a : Application σ) : Option Context :=
  match a.sessions[number]? with
  | some entry => entry.map Session.context
  | none => some {}

theorem kept?_of_lt (h : number < a.sessions.length) :
    kept? number a = (a.session? number).map Session.context := by
  simp only [kept?, session?, List.getElem?_eq_getElem h, Option.join_some]

theorem kept?_of_session? {session : Session} (h : a.session? number = some session) :
    kept? number a = some session.context := by
  rw [kept?_of_lt (lt_of_session? h), h, Option.map_some]

theorem kept?_opened {a' : Application σ} {session : Session} (hnew : session.context = {})
    (h : a'.sessions = a.sessions ++ [some session]) : kept? number a' = kept? number a := by
  unfold kept?
  rw [h]
  rcases Nat.lt_trichotomy number a.sessions.length with hlt | rfl | hgt
  · rw [List.getElem?_append_left hlt]
  · simp [hnew]
  · rw [List.getElem?_eq_none (by simp; omega), List.getElem?_eq_none (by omega)]

theorem kept?_elsewhere {request : Request} {a' : Application σ} (h : Change P request a a')
    (hother : request.session? ≠ some number) : kept? number a' = kept? number a := by
  cases h with
  | same hsessions =>
    unfold kept?
    rw [hsessions]
  | opened _ hnew hsessions => exact kept?_opened hnew hsessions
  | @session named _ _ _ hrequest _ hsessions =>
    have hne : named ≠ number := by
      rintro rfl
      exact hother hrequest
    unfold kept?
    rw [hsessions, List.getElem?_set_ne hne]

theorem moment_noSession {request : Request} (hrequest : request.session? = some number)
    (h : a.session? number = none) : moment P request a = ⟨a, request, .noSession, a⟩ := by
  cases request with
  | openSession kinds => cases hrequest
  | invoke named command ps =>
    obtain rfl : named = number := Option.some.inj hrequest
    simp only [moment, step, invoke, h]
  | close named =>
    obtain rfl : named = number := Option.some.inj hrequest
    simp only [moment, step, close, drop, h]
  | drop named =>
    obtain rfl : named = number := Option.some.inj hrequest
    simp only [moment, step, drop, h]

theorem step_keeps (P : Provider σ) (request : Request) (a : Application σ)
    (hafter : kept? number (moment P request a).after = some after) :
    ∃ before, kept? number a = some before ∧ Keeps number (moment P request a) before after := by
  by_cases hrequest : request.session? = some number
  · rcases hsession : a.session? number with _ | session
    · rw [moment_noSession hrequest hsession] at hafter ⊢
      exact ⟨after, hafter, .of_unanswered (fun _ _ h => by cases h) after⟩
    · have hlt := lt_of_session? hsession
      refine ⟨session.context, kept?_of_session? hsession, ?_⟩
      rw [kept?_of_lt (hlt.trans_le (moment_change P request a).length_sessions_le)] at hafter
      rcases answered_or_ended (P := P) hrequest hsession with ⟨status, ps', hreply⟩ | hended
      · obtain ⟨named, command, ps, rfl, -⟩ := moment_answered hreply
        obtain rfl : named = number := Option.some.inj hrequest
        obtain ⟨context, hsessions, hkeeps⟩ := invoke_keeps P hsession command ps
        rw [(session?_set hlt hsessions).1] at hafter
        rwa [← Option.some.inj hafter]
      · rw [hended] at hafter
        cases hafter
  · rw [kept?_elsewhere (moment_change P request a) hrequest] at hafter
    exact ⟨after, hafter, .of_elsewhere hrequest after⟩

/-! ## Runs -/

/-- What is kept for a session agrees with its history. -/
structure Agrees (number : Nat) (moments : List (Moment σ)) (context : Context) : Prop where
  completed : context.completed = completions number moments
  result : ∀ b, context.result = some b ↔
    ∃ m, LastAttempt number moments m ∧ m.reply.bundle? = some b.encode
  succeeded : context.result.isSome = true ↔
    ∃ m, LastAttempt number moments m ∧ m.Succeeds number

theorem agrees_nil (number : Nat) : Agrees (σ := σ) number [] {} := by
  have hnone : ∀ m : Moment σ, ¬ LastAttempt number [] m := by
    rintro m ⟨past, rest, hsplit, -⟩
    simp at hsplit
  refine ⟨rfl, ?_, ?_⟩
  · simp [hnone]
  · simp [hnone]

theorem Agrees.concat (h : Agrees number moments before) (hkeeps : Keeps number m before after) :
    Agrees number (moments ++ [m]) after := by
  cases hkeeps with
  | unchanged hattempts hsucceeds hafter =>
    subst hafter
    refine ⟨?_, ?_, ?_⟩
    · rw [completions_concat, if_neg hsucceeds, h.completed, Nat.add_zero]
    · simpa only [lastAttempt_concat_of_not hattempts] using h.result
    · simpa only [lastAttempt_concat_of_not hattempts] using h.succeeded
  | failed hattempts hsucceeds hafter =>
    subst hafter
    have hnone : m.reply.bundle? = none :=
      Reply.bundle?_eq_none fun ps' hreply => hsucceeds ⟨hattempts.session?, ps', hreply⟩
    refine ⟨?_, ?_, ?_⟩
    · rw [completions_concat, if_neg hsucceeds, h.completed, Nat.add_zero]
    · simp [lastAttempt_concat hattempts, hnone]
    · simp [lastAttempt_concat hattempts, hsucceeds]
  | succeeded b key hattempts hsucceeds hb hafter =>
    subst hafter
    refine ⟨?_, ?_, ?_⟩
    · rw [completions_concat, if_pos hsucceeds, h.completed]
    · intro b'
      rw [Option.some.injEq, ← Bundle.encode_injective.eq_iff]
      simp [lastAttempt_concat hattempts, hb]
    · simp [lastAttempt_concat hattempts, hsucceeds]

theorem run_agrees (P : Provider σ) (config : Config) (storage : Option Storage) (s₀ : σ)
    (requests : List Request) {context : Context}
    (h : kept? number ((create P config storage s₀).run P requests).2 = some context) :
    Agrees number (history P requests (create P config storage s₀)) context := by
  induction requests using List.reverseRecOn generalizing context with
  | nil =>
    obtain rfl := Option.some.inj h
    exact agrees_nil number
  | append_singleton requests request ih =>
    rw [run_append] at h
    obtain ⟨before, hbefore, hkeeps⟩ := step_keeps P request _ h
    rw [history_append]
    exact (ih hbefore).concat hkeeps

theorem refused_unchanged {session : Session} (hsession : a.session? number = some session)
    {command : UInt32} {ps : Parameters} (h : Refused a.config command ps) :
    (a.step P (.invoke number command ps)).2.session? number = some session := by
  obtain ⟨context, hsessions, hkeeps⟩ := invoke_keeps P hsession command ps
  refine (session?_set (lt_of_session? hsession) hsessions).1.trans ?_
  cases hkeeps with
  | unchanged _ _ hcontext => rw [hcontext]
  | failed hattempts => exact absurd hattempts (not_attempts h)
  | succeeded b key hattempts => exact absurd hattempts (not_attempts h)

theorem close_logs {session : Session} (hsession : a.session? number = some session) :
    (a.step P (.close number)).2.device.events.getLast? =
      some (.sessionClosed session.id session.context.completed) := by
  rw [step_close]
  simp only [close, drop_eq P hsession, log, Device.log, List.getLast?_concat]

/-- An open session has counted its successes, and keeps the bundle of the last invocation that was accepted
if that one succeeded. -/
theorem sessions_match_history (P : Provider σ) (config : Config) (storage : Option Storage) (s₀ : σ)
    (requests : List Request) :
    let a := create P config storage s₀
    let moments := history P requests a
    let b := (a.run P requests).2
    ∀ number session, b.session? number = some session →
      session.context.completed = completions number moments ∧
      (b.step P (.close number)).2.device.events.getLast? =
        some (.sessionClosed session.id (completions number moments)) ∧
      (session.context.result.isSome = true ↔
        ∃ m, LastAttempt number moments m ∧ m.Succeeds number) ∧
      (∀ bundle, session.context.result = some bundle ↔
        ∃ m, LastAttempt number moments m ∧ m.reply.bundle? = some bundle.encode) ∧
      ∀ command ps, Refused config command ps →
        (b.step P (.invoke number command ps)).2.session? number = some session := by
  intro a moments b number session hsession
  have hagrees : Agrees number moments session.context :=
    run_agrees P config storage s₀ requests (kept?_of_session? hsession)
  have hconfig : b.config = config := (Reachable.create.run requests).sound.config_eq
  refine ⟨hagrees.completed, ?_, hagrees.succeeded, hagrees.result, ?_⟩
  · rw [close_logs hsession, hagrees.completed]
  · intro command ps hrefused
    exact refused_unchanged hsession (hconfig ▸ hrefused)

/-- A success, a command that there is not, and a gray buffer of the wrong length. -/
theorem sessions_match_history_refused :
    let P := constantProvider shortBundle
    let invocation (command : UInt32) (gray : Bytes) := Request.invoke 0 command (slots [1, 2, 3]
      (.ofContents (List.replicate 170 9)) (.ofContents gray))
    let requests := [.openSession Kinds.allAbsent, invocation 0 [0, 0, 0], invocation 1 [0, 0, 0],
      invocation 0 [0]]
    let moments := history P requests (create P {} none ())
    completions 0 moments = 1 ∧
    ∃ m, LastAttempt 0 moments m ∧ m.reply.bundle? = some shortBundle.encode := by
  intro P invocation requests moments
  have hkept : (((create P {} none ()).run P requests).2.session? 0).map
      (fun session => (session.context.completed, session.context.result)) =
      some (1, some shortBundle) := by
    decide +kernel
  obtain ⟨session, hsession, hcontext⟩ := Option.map_eq_some_iff.mp hkept
  obtain ⟨hcompleted, hresult⟩ := Prod.mk.inj hcontext
  obtain ⟨hcount, -, -, hbundle, -⟩ := sessions_match_history P {} none () requests 0 session hsession
  exact ⟨hcount ▸ hcompleted, (hbundle shortBundle).mp hresult⟩

end AttestedImaging.Application

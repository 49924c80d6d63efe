import AttestedImaging.Proofs.Application.History
import AttestedImaging.Proofs.Application.Run
import AttestedImaging.Proofs.Attestation.Keys

/-!
# What one request does

A request changes one session at most, and the calls that it makes settle what this session holds.
`Change` is all that invariants of the other sessions need to know about a request.
-/

namespace AttestedImaging

variable {σ : Type} {P : Provider σ}

theorem Device.After.calls_unique {d d' : Device σ} {calls : List Call} (h : d.After P calls d') :
    d'.calls.drop d.calls.length = calls := by
  rw [h.calls_eq, List.drop_left]

theorem Invocation.Course.keyAnswers {config : Config} {command : UInt32}
    {v v' : Invocation.Visit σ} {status : Status}
    (h : Invocation.Course P config command v v' status) {calls : List Call}
    (hcalls : v.scene.device.After P calls v'.scene.device) :
    (calls.filterMap Call.keyAnswer?).length ≤ 1 := by
  rw [← hcalls.calls_unique]
  cases h with
  | rejected hr hd => simp [hd.calls_unique]
  | recognised hcommand hslots h =>
    cases h with
    | misfit hf hd => simp [hd.calls_unique]
    | failed calls f key hf he hd => simpa [hd.calls_unique] using he.keyAnswers
    | succeeded calls b key hf he hd => simpa [hd.calls_unique] using he.keyAnswers

namespace Application

def Request.session? : Request → Option Nat
  | .openSession _ => none
  | .invoke number _ _ | .close number | .drop number => some number

/-- How a request changes an application: not at all, by a new session without anything, or by what
becomes of the session that it names. -/
inductive Change (P : Provider σ) (request : Request) (a a' : Application σ) : Prop
  | same (hsessions : a'.sessions = a.sessions) (hdevice : a.device.After P [] a'.device)
  | opened {session : Session} (hrequest : request.session? = none) (hnew : session.context = {})
      (hsessions : a'.sessions = a.sessions ++ [some session])
      (hdevice : a.device.After P [] a'.device)
  | session {number : Nat} {session : Session} {entry : Option Session} {calls : List Call}
      (hrequest : request.session? = some number) (hsession : a.session? number = some session)
      (hsessions : a'.sessions = a.sessions.set number entry)
      (hdevice : a.device.After P calls a'.device)
      (hsettles : Settles session.context.holdings calls (entryHoldings entry))
      (hkeys : (calls.filterMap Call.keyAnswer?).length ≤ 1)

variable {request : Request} {a a' : Application σ}

theorem Change.of_log {e : Event} (h : Change P request a a') : Change P request a (a'.log e) := by
  cases h with
  | same hsessions hdevice => exact .same hsessions (hdevice.log e)
  | opened hrequest hnew hsessions hdevice => exact .opened hrequest hnew hsessions (hdevice.log e)
  | session hrequest hsession hsessions hdevice hsettles hkeys =>
    exact .session hrequest hsession hsessions (hdevice.log e) hsettles hkeys

theorem drop_change (P : Provider σ) {number : Nat} (hrequest : request.session? = some number)
    (a : Application σ) : Change P request a (a.drop P number).2 := by
  rcases hsession : a.session? number with _ | session
  · simp only [drop, hsession]
    exact .same rfl (.refl _)
  · obtain ⟨d, hd, hreleased⟩ := Scene.releaseAll_ends P ⟨a.device, session.context⟩
    have hsettles := Settles.releases (Holding.ofOperation session.context.operation ++
      Holding.ofKey session.context.key) 0
    rw [Call.releases_append, add_zero] at hsettles
    rw [drop_eq P hsession, hreleased]
    exact .session hrequest hsession rfl hd hsettles (by simp)

theorem step_change (P : Provider σ) (request : Request) (a : Application σ) :
    Change P request a (a.step P request).2 := by
  cases request with
  | openSession kinds =>
    rw [step_openSession]
    rcases openSession_cases P kinds a with ⟨f, ha⟩ | ⟨session, hnew, ha⟩
    · rw [ha]
      exact .same rfl ((Device.After.refl _).log _)
    · rw [ha]
      exact .opened rfl hnew rfl ((Device.After.refl _).log _)
  | invoke number command ps =>
    rw [step_invoke]
    rcases hsession : a.session? number with _ | session
    · simp only [invoke, hsession]
      exact .same rfl (.refl _)
    · obtain ⟨status, v, a', hcourse, hinvoke, rfl⟩ := invoke_course P hsession command ps
      obtain ⟨calls, hdevice, hsettles⟩ := hcourse.settles
      rw [hinvoke]
      exact .session rfl hsession rfl hdevice hsettles (hcourse.keyAnswers hdevice)
  | close number =>
    rw [step_close]
    rcases close_cases P number a with hclose | ⟨e, hclose⟩
    · rw [hclose]
      exact drop_change P rfl a
    · rw [hclose]
      exact (drop_change P rfl a).of_log
  | drop number =>
    rw [step_drop]
    exact drop_change P rfl a

theorem moment_change (P : Provider σ) (request : Request) (a : Application σ) :
    Change P request a (moment P request a).after := step_change P request a

/-! ## What becomes of the sessions -/

namespace Change

variable {number : Nat}

theorem length_sessions_le (h : Change P request a a') : a.sessions.length ≤ a'.sessions.length := by
  cases h with
  | same hsessions hdevice => rw [hsessions]
  | opened hrequest hnew hsessions hdevice =>
    rw [hsessions, List.length_append]
    omega
  | session hnumber hsession hsessions => rw [hsessions, List.length_set]

/-- A session that has ended does not come back. -/
theorem session?_ended (h : Change P request a a')
    (hopened : number < a.sessions.length ∨ request.session? = some number)
    (hended : a.session? number = none) : a'.session? number = none := by
  cases h with
  | same hsessions hdevice =>
    unfold session?
    rwa [hsessions]
  | opened hrequest hnew hsessions hdevice =>
    unfold session?
    rcases hopened with hlt | hnumber
    · rwa [hsessions, List.getElem?_append_left hlt]
    · rw [hrequest] at hnumber
      cases hnumber
  | @session number' session entry calls hnumber hsession hsessions =>
    have hne : number ≠ number' := by
      rintro rfl
      rw [hended] at hsession
      cases hsession
    rw [(session?_set (lt_of_session? hsession) hsessions).2 number hne, hended]

theorem session?_before {session : Session} (h : Change P request a a')
    (hother : request.session? ≠ some number)
    (hafter : a'.session? number = some session) :
    a.session? number = some session ∨ session.context = {} := by
  rw [session?_eq_some_iff] at hafter ⊢
  cases h with
  | same hsessions hdevice => exact .inl (hsessions ▸ hafter)
  | opened hrequest hnew hsessions hdevice =>
    rw [hsessions, List.getElem?_append] at hafter
    split at hafter
    · exact .inl hafter
    · have hmem := List.mem_of_getElem? hafter
      rw [List.mem_singleton, Option.some.injEq] at hmem
      exact .inr (hmem ▸ hnew)
  | @session number' session' entry calls hnumber hsession hsessions =>
    have hne : number' ≠ number := by
      rintro rfl
      exact hother hnumber
    rw [hsessions, List.getElem?_set_ne hne] at hafter
    exact .inl hafter

end Change

theorem answered_or_ended {number : Nat} {session : Session}
    (hrequest : request.session? = some number) (hsession : a.session? number = some session) :
    (∃ status ps', (moment P request a).reply = .answered status ps') ∨
      (moment P request a).after.session? number = none := by
  cases request with
  | openSession kinds => cases hrequest
  | invoke number' command ps =>
    obtain rfl : number' = number := Option.some.inj hrequest
    obtain ⟨status, v, a', -, hinvoke, -⟩ := invoke_course P hsession command ps
    exact .inl ⟨status, v.parameters, by simp only [moment, step, hinvoke]⟩
  | close number' =>
    obtain rfl : number' = number := Option.some.inj hrequest
    refine .inr ?_
    rw [show (moment P _ a).after = _ from step_close P number' a, session?_close, if_pos rfl]
  | drop number' =>
    obtain rfl : number' = number := Option.some.inj hrequest
    refine .inr ?_
    rw [show (moment P _ a).after = _ from step_drop P number' a, session?_drop, if_pos rfl]

theorem run_ended {number : Nat} (requests : List Request) (hopened : number < a.sessions.length)
    (hended : a.session? number = none) : (a.run P requests).2.session? number = none := by
  induction requests generalizing a with
  | nil => exact hended
  | cons request rest ih =>
    have hchange := moment_change P request a
    exact ih (hopened.trans_le hchange.length_sessions_le) (hchange.session?_ended (.inl hopened) hended)

/-! ## Calls -/

/-- The calls that are made at a moment. -/
def Moment.calls (m : Moment σ) : List Call := m.after.device.calls.drop m.before.device.calls.length

/-- What the requests for a key were answered at a moment. -/
def Moment.keyAnswers (m : Moment σ) : List (Except ProviderError Handle) :=
  m.calls.filterMap Call.keyAnswer?

/-- The handles of the keys that are used at a moment, call by call. -/
def Moment.keys (m : Moment σ) : List Handle := m.calls.filterMap Call.key?

theorem moment_calls {calls : List Call} (h : a.device.After P calls (moment P request a).after.device) :
    (moment P request a).calls = calls := h.calls_unique

theorem moment_after (P : Provider σ) (request : Request) (a : Application σ) :
    a.device.After P (moment P request a).calls (moment P request a).after.device := by
  have hafter : ∃ calls, a.device.After P calls (moment P request a).after.device := by
    cases moment_change P request a with
    | same hsessions hdevice => exact ⟨[], hdevice⟩
    | opened hrequest hnew hsessions hdevice => exact ⟨[], hdevice⟩
    | session hrequest hsession hsessions hdevice => exact ⟨_, hdevice⟩
  obtain ⟨calls, hdevice⟩ := hafter
  rw [moment_calls hdevice]
  exact hdevice

theorem length_keyAnswers_le (P : Provider σ) (request : Request) (a : Application σ) :
    (moment P request a).keyAnswers.length ≤ 1 := by
  unfold Moment.keyAnswers
  cases moment_change P request a with
  | same hsessions hdevice =>
    rw [moment_calls hdevice]
    exact Nat.zero_le 1
  | opened hrequest hnew hsessions hdevice =>
    rw [moment_calls hdevice]
    exact Nat.zero_le 1
  | session hrequest hsession hsessions hdevice hsettles hkeys =>
    rwa [moment_calls hdevice]

end Application

end AttestedImaging

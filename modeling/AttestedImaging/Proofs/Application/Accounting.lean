import AttestedImaging.Proofs.Application.Census
import AttestedImaging.Proofs.Application.History

/-!
# The account of sessions

The count of open sessions against what the callers were answered: every opening adds one, every end
takes one off, and nothing else counts. Identifiers are given out in the order of the openings.
-/

namespace AttestedImaging

theorem Kinds.eq_allAbsent_iff {kinds : Kinds} :
    kinds = allAbsent ↔ ∀ kind ∈ kinds, kind = .absent := Vector.eq_replicate_iff

namespace Application

variable {σ : Type} {P : Provider σ} {config : Config} {a a' : Application σ}

/-! ## Openings and ends -/

def Reply.opened? : Reply → Option Session
  | .opened session => some session
  | _ => none

def Reply.isEnd : Reply → Bool
  | .ended => true
  | _ => false

/-- The sessions that were opened, in their order. -/
def openings (moments : List (Moment σ)) : List Session := moments.filterMap (·.reply.opened?)

/-- The number of sessions that were closed or dropped. -/
def endings (moments : List (Moment σ)) : Nat := moments.countP (·.reply.isEnd)

theorem openings_concat (moments : List (Moment σ)) (m : Moment σ) :
    openings (moments ++ [m]) = openings moments ++ m.reply.opened?.toList := by
  unfold openings
  rw [List.filterMap_append, List.filterMap_cons, List.filterMap_nil]
  cases m.reply.opened? <;> rfl

theorem endings_concat (moments : List (Moment σ)) (m : Moment σ) :
    endings (moments ++ [m]) = endings moments + if m.reply.isEnd then 1 else 0 := by
  unfold endings
  rw [List.countP_append, List.countP_singleton]

/-! ## Opening -/

theorem step_inUse {kinds : Kinds} (h : kinds ≠ Kinds.allAbsent) :
    a.step P (.openSession kinds) = (.refused .badParameters,
      a.log (.openingRefused (.badParameters (.usedAtOpening kinds)))) := by
  simp only [step, openSession, tryOpen, if_pos h]
  rfl

theorem step_full (h : a.config.maxSessions ≤ a.openSessions) :
    a.step P (.openSession Kinds.allAbsent) = (.refused .outOfResources,
      a.log (.openingRefused (.outOfResources (.sessions a.openSessions a.config.maxSessions)))) := by
  simp only [step, openSession, tryOpen, ne_eq, not_true, if_false, if_pos h]
  rfl

theorem step_room (h : a.openSessions < a.config.maxSessions) :
    a.step P (.openSession Kinds.allAbsent) = (.opened { id := a.nextId }, { a with
      sessions := a.sessions ++ [some { id := a.nextId }]
      openSessions := a.openSessions + 1
      nextId := a.nextId + 1
      device := a.device.log (.sessionOpened a.nextId P.kind) }) := by
  simp only [step, openSession, tryOpen, ne_eq, not_true, if_false, if_neg (Nat.not_le.mpr h)]

theorem opening_reply (h : Counts config a) (kinds : Kinds) :
    ((a.step P (.openSession kinds)).1 = .refused .badParameters ↔ ∃ kind ∈ kinds, kind ≠ .absent) ∧
    ((a.step P (.openSession kinds)).1 = .refused .outOfResources ↔
      (∀ kind ∈ kinds, kind = .absent) ∧ a.openSessions = config.maxSessions) ∧
    ((∃ session, (a.step P (.openSession kinds)).1 = .opened session) ↔
      (∀ kind ∈ kinds, kind = .absent) ∧ a.openSessions ≠ config.maxSessions) := by
  have hwithin := h.within
  have hconfig := h.config_eq
  have hinUse : (∃ kind ∈ kinds, kind ≠ Kind.absent) ↔ kinds ≠ Kinds.allAbsent := by
    simp [Kinds.eq_allAbsent_iff]
  rw [hinUse, ← Kinds.eq_allAbsent_iff]
  by_cases hkinds : kinds = Kinds.allAbsent
  · subst hkinds
    rcases Nat.lt_or_ge a.openSessions a.config.maxSessions with hroom | hfull
    · have hne : a.openSessions ≠ config.maxSessions := by
        rw [← hconfig]
        omega
      rw [step_room hroom]
      simp [hne]
    · have heq : a.openSessions = config.maxSessions := by
        rw [hconfig] at hfull
        omega
      rw [step_full hfull]
      simp [heq]
  · rw [step_inUse hkinds]
    simp [hkinds]

/-! ## One request -/

/-- What a request does to the account. -/
structure Accounted (reply : Reply) (a a' : Application σ) : Prop where
  count : a'.openSessions + (if reply.isEnd then 1 else 0) =
    a.openSessions + reply.opened?.toList.length
  next : a'.nextId = a.nextId + UInt32.ofNat reply.opened?.toList.length
  id_eq : ∀ session, reply.opened? = some session → session.id = a.nextId

theorem Accounted.of_other {reply : Reply} (hopened : reply.opened? = none) (hend : reply.isEnd = false)
    (hcount : a'.openSessions = a.openSessions) (hnext : a'.nextId = a.nextId) :
    Accounted reply a a' := by
  constructor
  · simp [hopened, hend, hcount]
  · simp [hopened, hnext]
  · simp [hopened]

theorem Accounted.of_refused {status : Status} (h : Accounted (.refused status) a a') :
    a'.openSessions = a.openSessions ∧ a'.nextId = a.nextId := by
  constructor
  · simpa [Reply.opened?, Reply.isEnd] using h.count
  · simpa [Reply.opened?] using h.next

theorem openSession_accounted (P : Provider σ) (kinds : Kinds) (a : Application σ) :
    Accounted (a.step P (.openSession kinds)).1 a (a.step P (.openSession kinds)).2 := by
  by_cases hkinds : kinds = Kinds.allAbsent
  · subst hkinds
    rcases Nat.lt_or_ge a.openSessions a.config.maxSessions with hroom | hfull
    · rw [step_room hroom]
      exact ⟨rfl, rfl, fun session h => by rw [← Option.some.inj h]⟩
    · rw [step_full hfull]
      exact .of_other rfl rfl rfl rfl
  · rw [step_inUse hkinds]
    exact .of_other rfl rfl rfl rfl

theorem invoke_accounted (P : Provider σ) (number : Nat) (command : UInt32) (ps : Parameters)
    (a : Application σ) : Accounted (a.step P (.invoke number command ps)).1 a
      (a.step P (.invoke number command ps)).2 := by
  simp only [step, invoke]
  rcases a.session? number with _ | session
  · exact .of_other rfl rfl rfl rfl
  · exact .of_other rfl rfl rfl rfl

/-- The count of open sessions is not 0 when a session ends. -/
theorem drop_accounted (P : Provider σ) (number : Nat) (h : Counts config a) :
    Accounted (a.step P (.drop number)).1 a (a.step P (.drop number)).2 := by
  rcases hsession : a.session? number with _ | session
  · simp only [step, drop, hsession]
    exact .of_other rfl rfl rfl rfl
  · have hpos := countP_isSome_pos hsession
    rw [← h.openSessions_eq] at hpos
    simp only [step, drop_eq P hsession]
    refine ⟨?_, by simp [Reply.opened?], by simp [Reply.opened?]⟩
    simp only [Reply.isEnd, Reply.opened?, if_true, Option.toList_none, List.length_nil]
    omega

theorem close_accounted (P : Provider σ) (number : Nat) (h : Counts config a) :
    Accounted (a.step P (.close number)).1 a (a.step P (.close number)).2 := by
  have hdrop := drop_accounted P number h
  simp only [step, close] at hdrop ⊢
  rcases hdropped : a.drop P number with ⟨_ | session, a'⟩
  · rwa [hdropped] at hdrop
  · rw [hdropped] at hdrop
    exact ⟨hdrop.count, hdrop.next, hdrop.id_eq⟩

theorem step_accounted (P : Provider σ) (request : Request) (h : Counts config a) :
    Accounted (a.step P request).1 a (a.step P request).2 := by
  cases request with
  | openSession kinds => exact openSession_accounted P kinds a
  | invoke number command ps => exact invoke_accounted P number command ps a
  | close number => exact close_accounted P number h
  | drop number => exact drop_accounted P number h

/-! ## Runs -/

/-- The state of the account after these moments. -/
structure Account (moments : List (Moment σ)) (a : Application σ) : Prop where
  count : a.openSessions + endings moments = (openings moments).length
  next : a.nextId = UInt32.ofNat ((openings moments).length + 1)
  ids : (openings moments).map Session.id =
    (List.range (openings moments).length).map fun i => UInt32.ofNat (i + 1)

theorem Account.concat {moments : List (Moment σ)} {m : Moment σ} (h : Account moments m.before)
    (hstep : Accounted m.reply m.before m.after) : Account (moments ++ [m]) m.after := by
  have hcount := h.count
  have hmore := hstep.count
  refine ⟨?_, ?_, ?_⟩
  · rw [openings_concat, endings_concat, List.length_append]
    omega
  · rw [openings_concat, List.length_append, hstep.next, h.next, ← UInt32.ofNat_add]
    congr 1
    omega
  · rw [openings_concat]
    rcases hopened : m.reply.opened? with _ | session
    · simpa using h.ids
    · rw [Option.toList_some, List.map_append, List.length_append, List.length_singleton,
        List.range_succ, List.map_append, h.ids, List.map_singleton, List.map_singleton,
        hstep.id_eq session hopened, h.next]

theorem run_account (P : Provider σ) (config : Config) (storage : Option Storage) (s₀ : σ)
    (requests : List Request) :
    Account (history P requests (create P config storage s₀))
      ((create P config storage s₀).run P requests).2 := by
  induction requests using List.reverseRecOn with
  | nil => exact ⟨rfl, rfl, rfl⟩
  | append_singleton requests request ih =>
    have hcounts : Counts config ((create P config storage s₀).run P requests).2 :=
      (Reachable.create.run requests).counts
    rw [run_append, history_append]
    exact Account.concat ih (step_accounted P request hcounts)

variable {moments : List (Moment σ)}

theorem Account.id_eq (h : Account moments a) {i : Nat} {session : Session}
    (hi : (openings moments)[i]? = some session) : session.id = UInt32.ofNat (i + 1) := by
  have hlt := (List.getElem?_eq_some_iff.mp hi).1
  have hget := congrArg (·[i]?) h.ids
  rw [List.getElem?_map, List.getElem?_map, hi, List.getElem?_range hlt] at hget
  exact Option.some.inj hget

theorem Account.nodup (h : Account moments a) (hfew : (openings moments).length < UInt32.size) :
    ((openings moments).map Session.id).Nodup := by
  rw [h.ids]
  apply List.Nodup.map_on _ List.nodup_range
  intro i hi j hj heq
  rw [List.mem_range] at hi hj
  have hnat := congrArg UInt32.toNat heq
  rw [UInt32.toNat_ofNat_of_lt' (by omega), UInt32.toNat_ofNat_of_lt' (by omega)] at hnat
  omega

/-! ## The account -/

/-- The count of open sessions, the refusals and the identifiers follow from the requests and their replies:
the `i`-th session that is opened gets the identifier `i`. -/
theorem sessions_accounted (P : Provider σ) (config : Config) (storage : Option Storage) (s₀ : σ)
    (requests : List Request) :
    let a := create P config storage s₀
    let moments := history P requests a
    let b := (a.run P requests).2
    b.openSessions + endings moments = (openings moments).length ∧
    b.openSessions ≤ config.maxSessions ∧
    (∀ kinds : Kinds,
      let m := moment P (.openSession kinds) b
      (m.reply = .refused .badParameters ↔ ∃ kind ∈ kinds, kind ≠ .absent) ∧
      (m.reply = .refused .outOfResources ↔
        (∀ kind ∈ kinds, kind = .absent) ∧ b.openSessions = config.maxSessions) ∧
      ((∃ session, m.reply = .opened session) ↔
        (∀ kind ∈ kinds, kind = .absent) ∧ b.openSessions ≠ config.maxSessions) ∧
      ∀ status, m.reply = .refused status →
        m.after.openSessions = b.openSessions ∧ m.after.nextId = b.nextId) ∧
    (∀ i session, (openings moments)[i]? = some session → session.id = UInt32.ofNat (i + 1)) ∧
    ((openings moments).length < UInt32.size → ((openings moments).map Session.id).Nodup) := by
  intro a moments b
  have haccount : Account moments b := run_account P config storage s₀ requests
  have hcounts : Counts config b := (Reachable.create.run requests).counts
  have hwithin := hcounts.within
  refine ⟨haccount.count, hwithin, ?_, fun i session => haccount.id_eq, haccount.nodup⟩
  intro kinds m
  obtain ⟨hinUse, hfull, hopened⟩ := opening_reply (P := P) hcounts kinds
  refine ⟨hinUse, hfull, hopened, ?_⟩
  intro status hrefused
  have hstep := openSession_accounted P kinds b
  rw [show (b.step P (.openSession kinds)).1 = .refused status from hrefused] at hstep
  exact hstep.of_refused

/-- With room for one session, a second one has to wait for the end of the first. -/
theorem sessions_accounted_one :
    let a := create Software.provider { maxSessions := 1 } none {}
    let requests : List Request := [.openSession Kinds.allAbsent, .openSession Kinds.allAbsent,
      .close 0, .openSession Kinds.allAbsent]
    let moments := history Software.provider requests a
    (openings moments).map Session.id = [1, 2] ∧ endings moments = 1 ∧
    (a.run Software.provider requests).2.openSessions = 1 ∧
    ((openings moments).map Session.id).Nodup := by
  intro a requests moments
  obtain ⟨hcount, -, -, -, hnodup⟩ :=
    sessions_accounted Software.provider { maxSessions := 1 } none {} requests
  have hlength : (openings moments).length = 2 := by decide +kernel
  have hendings : endings moments = 1 := by decide +kernel
  refine ⟨by decide +kernel, hendings, ?_, hnodup (by rw [hlength]; decide)⟩
  rw [hendings, hlength] at hcount
  exact Nat.succ.inj hcount

end Application

end AttestedImaging

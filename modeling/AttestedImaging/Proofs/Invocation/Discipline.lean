import AttestedImaging.Proofs.Ledger

/-!
# The calls of an invocation

A script is the list of calls that an invocation makes if all goes well. In any other case it makes
the calls of a script up to one that fails, and then only gives up what it holds: the operation that
was in use, and the key. `Disciplined` says this, and `Processed.disciplined` shows it.
-/

namespace AttestedImaging

/-! ## Stopping -/

namespace Call

/-- The two calls ask for the same. Their answers may differ. -/
def SameRequest : Call → Call → Prop
  | .allocate request _, .allocate request' _ => request = request'
  | .compute request _, .compute request' _ => request = request'
  | .release x, .release x' => x = x'
  | _, _ => False

def operation? : Call → Option Handle
  | .compute (.digest h _) _ | .compute (.sign h _) _ => some h
  | .compute (.coordinate _ _) _ | .allocate _ _ | .release _ => none

/-- The key that a session holds after a call, if it held the first before. -/
def keyAfter : Option Handle → Call → Option Handle
  | _, .allocate .key (.ok k) => some k
  | _, .release (.key _) => none
  | held, _ => held

def heldAfter (held : Option Handle) (calls : List Call) : Option Handle :=
  calls.foldl keyAfter held

theorem heldAfter_append (held : Option Handle) (calls calls' : List Call) :
    heldAfter held (calls ++ calls') = heldAfter (heldAfter held calls) calls' :=
  List.foldl_append

end Call

/-- None of the calls fails, and they take a session from one key to another. -/
structure Passes (held : Option Handle) (calls : List Call) (held' : Option Handle) : Prop where
  ok : ∀ c ∈ calls, ¬ c.Fails
  held_eq : Call.heldAfter held calls = held'

theorem Passes.append {held held' held'' : Option Handle} {calls calls' : List Call}
    (h : Passes held calls held') (h' : Passes held' calls' held'') :
    Passes held (calls ++ calls') held'' := by
  constructor
  · intro c hc
    rcases List.mem_append.mp hc with hc | hc
    · exact h.ok c hc
    · exact h'.ok c hc
  · rw [Call.heldAfter_append, h.held_eq, h'.held_eq]

/-- The planned calls are made up to one that fails, and then the operation in use is given up. The
session holds `key` then. -/
def Stops (planned : List Call) (held : Option Handle) (calls : List Call) (key : Option Handle) :
    Prop :=
  ∃ before after p c, planned = before ++ p :: after ∧ (∀ b ∈ before, ¬ b.Fails) ∧
    c.SameRequest p ∧ c.Fails ∧
    calls = before ++ c :: Call.releases (Holding.ofOperation c.operation?) ∧
    Call.heldAfter held before = key

theorem Stops.append {planned calls : List Call} {held key : Option Handle}
    (h : Stops planned held calls key) (rest : List Call) :
    Stops (planned ++ rest) held calls key := by
  obtain ⟨before, after, p, c, rfl, hrest⟩ := h
  exact ⟨before, after ++ rest, p, c, by simp, hrest⟩

theorem Stops.after {planned first calls : List Call} {held held' key : Option Handle}
    (h : Stops planned held' calls key) (hfirst : Passes held first held') :
    Stops (first ++ planned) held (first ++ calls) key := by
  obtain ⟨before, after, p, c, rfl, hb, hsame, hfails, rfl, rfl⟩ := h
  have hbefore := hfirst.append ⟨hb, rfl⟩
  exact ⟨first ++ before, after, p, c, by simp, hbefore.ok, hsame, hfails, by simp, hbefore.held_eq⟩

/-! ## Scripts -/

/-- What a provider answers in an invocation that goes well. -/
structure Script where
  digestOperation : Handle
  digest : Bytes
  newKey : Handle
  x : Bytes
  y : Bytes
  signOperation : Handle
  signature : Bytes

namespace Script

def operationCalls (request : Allocation) (call : Handle → Computation) (h : Handle)
    (answer : Bytes) : List Call :=
  [.allocate request (.ok h), .compute (call h) (.ok answer), .release (.operation h)]

/-- The calls that make a key ready: none if the session's key is used again. -/
def keyCalls (policy : KeyPolicy) (held : Option Handle) (newKey : Handle) : List Call :=
  match policy, held with
  | .perSession, some _ => []
  | _, some old => [.release (.key old), .allocate .key (.ok newKey)]
  | _, none => [.allocate .key (.ok newKey)]

def key (policy : KeyPolicy) (held : Option Handle) (newKey : Handle) : Handle :=
  match policy, held with
  | .perSession, some k => k
  | _, _ => newKey

def attestation (policy : KeyPolicy) (held : Option Handle) (image : Bytes) (t : Script) :
    List Call :=
  let k := key policy held t.newKey
  operationCalls .digest (.digest · image) t.digestOperation t.digest ++
    keyCalls policy held t.newKey ++
    [.compute (.coordinate k .x) (.ok t.x)] ++
    [.compute (.coordinate k .y) (.ok t.y)] ++
    operationCalls (.sign k) (.sign · t.digest) t.signOperation t.signature

/-- The calls of an invocation with this gray image. -/
def calls (policy : KeyPolicy) (held : Option Handle) (image : Bytes) (t : Script) : List Call :=
  t.attestation policy held image ++
    if policy = .perInvocation then [.release (.key (key policy held t.newKey))] else []

end Script

/-- The calls of an invocation with this gray image in a session that holds the key `held`. -/
inductive Disciplined (policy : KeyPolicy) (held : Option Handle) (image : Bytes) :
    List Call → Prop
  | whole (t : Script) (hok : ∀ c ∈ t.calls policy held image, ¬ c.Fails) :
      Disciplined policy held image (t.calls policy held image)
  | stopped (t : Script) {before after : List Call} {p c : Call}
      (hscript : t.calls policy held image = before ++ p :: after) (hok : ∀ b ∈ before, ¬ b.Fails)
      (hsame : c.SameRequest p) (hfails : c.Fails) : Disciplined policy held image
        (before ++ c :: (Call.releases (Holding.ofOperation c.operation?) ++
          Call.releases (Holding.ofKey (Call.heldAfter held before))))

theorem Disciplined.of_stops {policy : KeyPolicy} {held key : Option Handle} {image : Bytes}
    {calls : List Call} (t : Script) (h : Stops (t.attestation policy held image) held calls key) :
    Disciplined policy held image (calls ++ Call.releases (Holding.ofKey key)) := by
  obtain ⟨before, after, p, c, hscript, hok, hsame, hfails, rfl, rfl⟩ := h
  -- What the script has after the attestation is not reached.
  have hcalls : t.calls policy held image = before ++ p :: (after ++
      if policy = .perInvocation then [.release (.key (Script.key policy held t.newKey))] else []) := by
    rw [Script.calls, hscript, List.append_assoc, List.cons_append]
  have hstopped := Disciplined.stopped t hcalls hok hsame hfails
  rw [List.append_assoc, List.cons_append]
  exact hstopped

theorem Disciplined.of_passes {policy : KeyPolicy} {held : Option Handle} {image : Bytes}
    (t : Script) (h : Passes held (t.attestation policy held image)
      (some (Script.key policy held t.newKey))) :
    Disciplined policy held image (t.attestation policy held image ++
      Call.releases (Holding.ofKey (policy.retired (some (Script.key policy held t.newKey))))) := by
  have hretired : ∀ k : Handle, Call.releases (Holding.ofKey (policy.retired (some k))) =
      if policy = .perInvocation then [.release (.key k)] else [] := by
    intro k
    cases policy <;> rfl
  rw [hretired]
  refine .whole t fun c hc => ?_
  rcases List.mem_append.mp hc with hc | hc
  · exact h.ok c hc
  · split at hc
    · obtain rfl := List.mem_singleton.mp hc
      exact id
    · cases hc

/-! ## The parts -/

namespace Attestation

open Script (operationCalls keyCalls)

theorem keyAfter_operation {request : Allocation} (hrequest : request ≠ .key)
    (held : Option Handle) (h : Handle) :
    Call.keyAfter held (.allocate request (.ok h)) = held := by
  cases request with
  | key => exact absurd rfl hrequest
  | digest => rfl
  | sign key => rfl

theorem OperationEnds.calls_of_ok {n : Nat} {request : Allocation} {call : Handle → Computation}
    {calls : List Call} {value : Fixed n} (h : OperationEnds n request call calls (.ok value))
    (hrequest : request ≠ .key) (held : Option Handle) :
    ∃ h, calls = operationCalls request call h value.bytes ∧ Passes held calls held := by
  cases h with
  | done h _ hf =>
    refine ⟨h, rfl, ?_, keyAfter_operation hrequest held h⟩
    intro c hc
    simp only [List.mem_cons, List.not_mem_nil, or_false] at hc
    rcases hc with rfl | rfl | rfl
    · exact id
    · exact (Call.failure?_eq_none_iff _).mp hf
    · exact id

theorem OperationEnds.stops_of_error {n : Nat} {request : Allocation}
    {call : Handle → Computation} {calls : List Call} {f : Failure}
    (h : OperationEnds n request call calls (.error f)) (hrequest : request ≠ .key)
    (hcall : ∀ h answer, (Call.compute (call h) answer).operation? = some h) (held : Option Handle) :
    ∃ h, Stops (operationCalls request call h []) held calls held := by
  cases h with
  | refused e => exact ⟨⟨0⟩, [], _, _, .allocate request (.error e), rfl, nofun, rfl, trivial, rfl, rfl⟩
  | failed h answer _ hf =>
    refine ⟨h, [.allocate request (.ok h)], _, _, .compute (call h) answer, rfl, ?_, rfl,
      Call.fails_of_failure? hf, by rw [hcall]; rfl, keyAfter_operation hrequest held h⟩
    intro b hb
    obtain rfl := List.mem_singleton.mp hb
    exact id

theorem KeyEnds.calls_of_ok {policy : KeyPolicy} {held : Option Handle} {calls : List Call}
    {k : Handle} (h : KeyEnds policy held calls (.ok k)) :
    ∃ newKey, calls = keyCalls policy held newKey ∧ Script.key policy held newKey = k ∧
      Passes held calls (some k) := by
  cases h with
  | reused _ hp hk =>
    subst hp hk
    exact ⟨⟨0⟩, rfl, rfl, nofun, rfl⟩
  | made _ hn =>
    refine ⟨k, ?_, ?_, ?_, ?_⟩
    · cases policy <;> cases held <;> first | rfl | exact absurd (hn rfl) nofun
    · cases policy <;> cases held <;> first | rfl | exact absurd (hn rfl) nofun
    · cases held <;> simp [Call.Fails]
    · cases held <;> rfl

theorem KeyEnds.stops_of_error {policy : KeyPolicy} {held : Option Handle} {calls : List Call}
    {f : Failure} (h : KeyEnds policy held calls (.error f)) :
    Stops (keyCalls policy held ⟨0⟩) held calls none := by
  cases h with
  | refused e hn =>
    refine ⟨Call.releases (Holding.ofKey held), [], .allocate .key (.ok ⟨0⟩),
      .allocate .key (.error e), ?_, ?_, rfl, trivial, rfl, ?_⟩
    · cases policy <;> cases held <;> first | rfl | exact absurd (hn rfl) nofun
    · cases held <;> simp [Call.Fails]
    · cases held <;> rfl

theorem ComponentEnds.calls_of_ok {key : Handle} {which : Coordinate} {calls : List Call}
    {value : Component} (h : ComponentEnds key which calls (.ok value)) (held : Option Handle) :
    calls = [.compute (.coordinate key which) (.ok value.bytes)] ∧ Passes held calls held := by
  cases h with
  | done _ hf =>
    refine ⟨rfl, ?_, rfl⟩
    intro c hc
    obtain rfl := List.mem_singleton.mp hc
    exact (Call.failure?_eq_none_iff _).mp hf

theorem ComponentEnds.stops_of_error {key : Handle} {which : Coordinate} {calls : List Call}
    {f : Failure} (h : ComponentEnds key which calls (.error f)) (held : Option Handle) :
    Stops [.compute (.coordinate key which) (.ok [])] held calls held := by
  cases h with
  | failed answer _ hf =>
    exact ⟨[], [], _, .compute (.coordinate key which) answer, rfl, nofun, rfl,
      Call.fails_of_failure? hf, rfl, rfl⟩

/-! ## The whole -/

theorem Ends.disciplined_of_error {policy : KeyPolicy} {image : Bytes} {held key : Option Handle}
    {calls : List Call} {f : Failure} (h : Ends policy image held calls (.error f) key) :
    Disciplined policy held image (calls ++ Call.releases (Holding.ofKey key)) := by
  -- The script is free to say anything of what comes after the failure.
  cases h with
  | noDigest h₁ =>
    obtain ⟨o, hstops⟩ := h₁.stops_of_error nofun (fun _ _ => rfl) held
    exact .of_stops ⟨o, [], ⟨0⟩, [], [], ⟨0⟩, []⟩
      ((((hstops.append _).append _).append _).append _)
  | noKey h₁ h₂ =>
    obtain ⟨o, rfl, hpass⟩ := h₁.calls_of_ok nofun held
    exact .of_stops ⟨o, _, ⟨0⟩, [], [], ⟨0⟩, []⟩
      ((((h₂.stops_of_error.after hpass).append _).append _).append _)
  | noX h₁ h₂ h₃ =>
    obtain ⟨o, rfl, hpass₁⟩ := h₁.calls_of_ok nofun held
    obtain ⟨newKey, rfl, rfl, hpass₂⟩ := h₂.calls_of_ok
    have hstops := (h₃.stops_of_error _).after (hpass₁.append hpass₂)
    exact .of_stops ⟨o, _, newKey, [], [], ⟨0⟩, []⟩ ((hstops.append _).append _)
  | noY h₁ h₂ h₃ h₄ =>
    obtain ⟨o, rfl, hpass₁⟩ := h₁.calls_of_ok nofun held
    obtain ⟨newKey, rfl, rfl, hpass₂⟩ := h₂.calls_of_ok
    obtain ⟨rfl, hpass₃⟩ := h₃.calls_of_ok _
    have hstops := (h₄.stops_of_error _).after ((hpass₁.append hpass₂).append hpass₃)
    exact .of_stops ⟨o, _, newKey, _, [], ⟨0⟩, []⟩ (hstops.append _)
  | noSignature h₁ h₂ h₃ h₄ h₅ =>
    obtain ⟨o, rfl, hpass₁⟩ := h₁.calls_of_ok nofun held
    obtain ⟨newKey, rfl, rfl, hpass₂⟩ := h₂.calls_of_ok
    obtain ⟨rfl, hpass₃⟩ := h₃.calls_of_ok _
    obtain ⟨rfl, hpass₄⟩ := h₄.calls_of_ok _
    obtain ⟨o', hstops⟩ := h₅.stops_of_error nofun (fun _ _ => rfl) _
    exact .of_stops ⟨o, _, newKey, _, _, o', []⟩
      (hstops.after (((hpass₁.append hpass₂).append hpass₃).append hpass₄))

theorem Ends.disciplined_of_ok {policy : KeyPolicy} {image : Bytes} {held key : Option Handle}
    {calls : List Call} {b : Bundle} (h : Ends policy image held calls (.ok b) key) :
    Disciplined policy held image (calls ++ Call.releases (Holding.ofKey (policy.retired key))) := by
  cases h with
  | done h₁ h₂ h₃ h₄ h₅ =>
    obtain ⟨o, rfl, hpass₁⟩ := h₁.calls_of_ok nofun held
    obtain ⟨newKey, rfl, rfl, hpass₂⟩ := h₂.calls_of_ok
    obtain ⟨rfl, hpass₃⟩ := h₃.calls_of_ok (some _)
    obtain ⟨rfl, hpass₄⟩ := h₄.calls_of_ok (some _)
    obtain ⟨o', rfl, hpass₅⟩ := h₅.calls_of_ok nofun _
    have hpass := (((hpass₁.append hpass₂).append hpass₃).append hpass₄).append hpass₅
    exact .of_passes ⟨o, _, newKey, _, _, o', _⟩ hpass

end Attestation

namespace Invocation

variable {σ : Type}

theorem Processed.disciplined {P : Provider σ} {config : Config} {image : Bytes}
    {bundle gray : OutputBuffer} {v v' : Visit σ} {status : Status}
    (h : Processed P config image bundle gray v v' status)
    (hidle : v.scene.context.operation = none) (hfits : Fits config image bundle gray) :
    ∃ calls, v.scene.device.After P calls v'.scene.device ∧
      Disciplined config.keyPolicy v.scene.context.key (Grayscale.gray image) calls := by
  cases h with
  | misfit hf => exact absurd hfits hf
  | failed calls f key hf he hd =>
    rw [hidle] at hd
    exact ⟨_, hd, he.disciplined_of_error⟩
  | succeeded calls b key hf he hd =>
    rw [hidle] at hd
    exact ⟨_, hd, he.disciplined_of_ok⟩

end Invocation

end AttestedImaging

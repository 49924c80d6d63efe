import AttestedImaging.Proofs.Pairing.Application
import AttestedImaging.Proofs.Pairing.Software

/-!
# Logs reveal no secrets

Two runs with the same faults whose requests differ in the bytes of their buffers at most, and which
draw different keys, cannot be told apart by their logs once the digests are taken out, nor by what is
reported. If the requests are the same, the logs are the same as they stand.
-/

namespace AttestedImaging.Application

open Invocation (slots)

/-! ## What can be observed -/

/-- What shows after a request: the reply without the bytes, the counts, and the log so far. -/
structure Observation where
  reply : Option Reply
  openSessions : Nat
  live : Nat
  log : List Event.Record

def observe (view : Event.Record → Event.Record) (reply : Option Reply)
    (a : Application (Counted Software)) : Observation :=
  ⟨reply.map Reply.blank, a.openSessions, a.device.provider.inner.live,
    a.device.events.map fun e => view e.record⟩

/-- What shows after each request, and when the application has ended and its sessions are dropped. -/
def observations (P : Provider (Counted Software)) (view : Event.Record → Event.Record) :
    List Request → Application (Counted Software) → List Observation
  | [], a => [observe view none (a.shutDown.dropAll P)]
  | request :: rest, a =>
    observe view (some (a.step P request).1) (a.step P request).2 ::
      observations P view rest (a.step P request).2

/-! ## What is assumed of the keys -/

def Request.image? : Request → Option Bytes
  | .invoke _ _ ps => ps.image?
  | .openSession _ | .close _ | .drop _ => none

/-- The keys that can be drawn in the course of these requests serve for all that may be signed. -/
def KeysServe (faults : List Fault) (requests : List Request) (randomness : Randomness) : Prop :=
  ∀ d ∈ randomness.keys (requests.map Request.draws).sum,
    Ecdsa.Serves d (Software.signable faults (requests.filterMap Request.image?))

instance (faults : List Fault) (requests : List Request) (randomness : Randomness) :
    Decidable (KeysServe faults requests randomness) := List.decidableBAll _ _

/-! ## Two runs -/

variable {faults : List Fault} {same : Prop} {images images' : List Bytes} {n : Nat}
  {a a' : Application (Counted Software)} {view : Event.Record → Event.Record}

theorem observe_eq (h : (Software.pairing faults same images images').Applications n a a')
    {reply reply' : Option Reply} (hreply : reply.map Reply.blank = reply'.map Reply.blank)
    (hview : view = Event.Record.blank ∨ same) : observe view reply a = observe view reply' a' := by
  have hlog : (a.device.events.map fun e => view e.record) =
      a'.device.events.map fun e => view e.record := by
    rcases hview with rfl | hsame
    · exact h.device.blank
    · rw [h.device.same hsame]
  have hlive : a.device.provider.inner.live = a'.device.provider.inner.live :=
    h.device.states.inner.live
  rw [observe, observe, hreply, h.openSessions, hlive, hlog]

theorem observations_eq {requests requests' : List Request}
    (hr : List.Forall₂ (Software.pairing faults same images images').Requests requests requests')
    (h : (Software.pairing faults same images images').Applications
      (requests.map Request.draws).sum a a') (hview : view = Event.Record.blank ∨ same) :
    observations (Software.provider.withFaults faults) view requests a =
      observations (Software.provider.withFaults faults) view requests' a' := by
  -- Each request leaves the applications alike, and takes its draws from those that are left.
  induction hr generalizing a a' with
  | nil =>
    have hended := (h.log (.applicationEnded a.openSessions)).dropAll
    rw [observations, observations, shutDown, shutDown, ← h.openSessions,
      observe_eq hended rfl hview]
  | @cons r r' rest rest' hr _ ih =>
    rw [List.map_cons, List.sum_cons, Nat.add_comm] at h
    obtain ⟨hreply, hleft⟩ := h.step hr
    have hshown : (some (a.step (Software.provider.withFaults faults) r).1).map Reply.blank =
        (some (a'.step (Software.provider.withFaults faults) r').1).map Reply.blank :=
      congrArg some hreply
    have hseen := observe_eq hleft hshown hview
    rw [observations, observations, hseen, ih hleft]

theorem request_of_blank {r r' : Request} (hblank : r.blank = r'.blank) (hsame : same → r = r')
    (himage : ∀ image, r.image? = some image → image ∈ images)
    (himage' : ∀ image, r'.image? = some image → image ∈ images') :
    (Software.pairing faults same images images').Requests r r' := by
  cases r with
  | invoke number command ps =>
    cases r' with
    | invoke number' command' ps' =>
      obtain ⟨rfl, rfl, hps⟩ := Request.invoke.inj hblank
      refine .invoke number command hps fun image image' h h' => ⟨⟨image, himage image h, rfl⟩,
        ⟨image', himage' image' h', rfl⟩, fun hs => ?_⟩
      obtain ⟨-, -, rfl⟩ := Request.invoke.inj (hsame hs)
      rw [h] at h'
      rw [Option.some.inj h']
    | openSession | close | drop => cases hblank
  | openSession kinds =>
    cases r' <;> cases hblank
    exact .openSession kinds
  | close number =>
    cases r' <;> cases hblank
    exact .close number
  | drop number =>
    cases r' <;> cases hblank
    exact .drop number

theorem requests_of_blank {requests requests' : List Request}
    (hblank : requests.map Request.blank = requests'.map Request.blank)
    (hsame : same → requests = requests')
    (himage : ∀ r ∈ requests, ∀ image, r.image? = some image → image ∈ images)
    (himage' : ∀ r ∈ requests', ∀ image, r.image? = some image → image ∈ images') :
    List.Forall₂ (Software.pairing faults same images images').Requests requests requests' := by
  induction requests generalizing requests' with
  | nil =>
    obtain rfl := List.map_eq_nil_iff.mp hblank.symm
    exact .nil
  | cons r rest ih =>
    cases requests' with
    | nil => cases hblank
    | cons r' rest' =>
      obtain ⟨hr, hrest⟩ := List.cons.inj hblank
      obtain ⟨hfirst, hothers⟩ := List.forall_mem_cons.mp himage
      obtain ⟨hfirst', hothers'⟩ := List.forall_mem_cons.mp himage'
      exact .cons (request_of_blank hr (fun h => (List.cons.inj (hsame h)).1) hfirst hfirst')
        (ih hrest (fun h => (List.cons.inj (hsame h)).2) hothers hothers')

theorem draws_of_blank {requests requests' : List Request}
    (hblank : requests.map Request.blank = requests'.map Request.blank) :
    requests.map Request.draws = requests'.map Request.draws := by
  have hdraws : Request.draws ∘ Request.blank = Request.draws := by
    funext r
    cases r <;> rfl
  rw [← hdraws, ← List.map_map, hblank, List.map_map, hdraws]

theorem created_alike {config : Config} {storage : Option Storage} {limit : Nat}
    {randomness randomness' : Randomness} {requests requests' : List Request}
    (hblank : requests.map Request.blank = requests'.map Request.blank)
    (hserves : KeysServe faults requests randomness)
    (hserves' : KeysServe faults requests' randomness')
    (hstorage : same ∨ ∀ store, storage = some (.memory store) → store.capacity = none) :
    (Software.pairing faults same (requests.filterMap Request.image?)
      (requests'.filterMap Request.image?)).Applications (requests.map Request.draws).sum
      (create (Software.provider.withFaults faults) config storage { inner := { limit, randomness } })
      (create (Software.provider.withFaults faults) config storage
        { inner := { limit, randomness := randomness' } }) := by
  refine Pairing.Applications.create config ?_ ⟨rfl, rfl, rfl, .nil, hserves, ?_⟩
  · rcases storage with _ | ⟨store | text⟩
    · exact .missing
    · refine .memory ⟨rfl, ?_⟩
      rcases hstorage with hsame | hunlimited
      · exact .inr ⟨hsame, rfl⟩
      · exact .inl (hunlimited store rfl)
    · exact .failing text
  · rw [draws_of_blank hblank]
    exact hserves'

/-- Runs that differ in the keys and in the bytes of buffers look alike without the digests, if no storage
is limited. If they differ in the keys only, they look alike with the digests. -/
theorem logs_reveal_no_secrets {faults : List Fault} {config : Config} {storage : Option Storage}
    {limit : Nat} {randomness randomness' : Randomness} {requests requests' : List Request}
    (hblank : requests.map Request.blank = requests'.map Request.blank)
    (hserves : KeysServe faults requests randomness)
    (hserves' : KeysServe faults requests' randomness') :
    ((∀ store, storage = some (.memory store) → store.capacity = none) →
      observations (Software.provider.withFaults faults) Event.Record.blank requests
          (create (Software.provider.withFaults faults) config storage
            { inner := { limit, randomness } }) =
        observations (Software.provider.withFaults faults) Event.Record.blank requests'
          (create (Software.provider.withFaults faults) config storage
            { inner := { limit, randomness := randomness' } })) ∧
    (requests = requests' →
      observations (Software.provider.withFaults faults) id requests
          (create (Software.provider.withFaults faults) config storage
            { inner := { limit, randomness } }) =
        observations (Software.provider.withFaults faults) id requests'
          (create (Software.provider.withFaults faults) config storage
            { inner := { limit, randomness := randomness' } })) := by
  have himage : ∀ requests : List Request, ∀ r ∈ requests, ∀ image, r.image? = some image →
      image ∈ requests.filterMap Request.image? :=
    fun requests r hr image h => List.mem_filterMap.mpr ⟨r, hr, h⟩
  constructor
  · intro hunlimited
    exact observations_eq
      (requests_of_blank hblank (fun h : False => h.elim) (himage requests) (himage requests'))
      (created_alike hblank hserves hserves' (.inr hunlimited)) (.inl rfl)
  · intro hsame
    exact observations_eq
      (requests_of_blank hblank (fun _ : True => hsame) (himage requests) (himage requests'))
      (created_alike hblank hserves hserves' (.inl trivial)) (.inr trivial)

/-- One session, and an invocation with this image. -/
def oneInvocation (image : Bytes) : List Request :=
  [.openSession Kinds.allAbsent,
    .invoke 0 0 (slots image (.ofContents (List.replicate 168 0)) (.ofContents [0, 0, 0]))]

set_option maxRecDepth 100000 in
/-- Another key and another image of as many bytes, in a storage without a limit. -/
theorem logs_reveal_no_secrets_one_invocation :
    Randomness.keys 1 {} ≠ Randomness.keys 1 { schedule := [2376] } ∧
    observations (Software.provider.withFaults []) Event.Record.blank (oneInvocation [1, 2, 3])
        (create (Software.provider.withFaults []) {} (some (.memory {})) { inner := {} }) =
      observations (Software.provider.withFaults []) Event.Record.blank (oneInvocation [4, 5, 6])
        (create (Software.provider.withFaults []) {} (some (.memory {}))
          { inner := { randomness := { schedule := [2376] } } }) := by
  have hblank : (oneInvocation [1, 2, 3]).map Request.blank =
      (oneInvocation [4, 5, 6]).map Request.blank := by
    simp only [oneInvocation, List.map_cons, List.map_nil, Request.blank, Invocation.blank_slots]
    rfl
  have hserves : KeysServe [] (oneInvocation [1, 2, 3]) {} := by decide +kernel
  have hserves' : KeysServe [] (oneInvocation [4, 5, 6]) { schedule := [2376] } := by decide +kernel
  have hunlimited : ∀ store, some (Storage.memory {}) = some (.memory store) →
      store.capacity = none := by
    rintro store ⟨⟩
    rfl
  exact ⟨by decide +kernel, (logs_reveal_no_secrets hblank hserves hserves').1 hunlimited⟩

end AttestedImaging.Application

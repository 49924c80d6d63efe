import AttestedImaging.Provider.Fault
import AttestedImaging.Failure

/-!
# What a call shows

Whether it failed and how, which holding it brought and which it gave up. All of this can be read off
a call and its answer.
-/

namespace AttestedImaging.Call

/-! ## Failures -/

/-- The call was refused, or it answered bytes of a wrong length. -/
def Fails : Call → Prop
  | .allocate _ (.error _) | .compute _ (.error _) => True
  | .compute (.digest _ _) (.ok bytes) => bytes.length ≠ 32
  | .compute (.coordinate _ _) (.ok bytes) => bytes.length = 0 ∨ 32 < bytes.length
  | .compute (.sign _ _) (.ok bytes) => bytes.length ≠ 64
  | .allocate _ (.ok _) | .release _ => False

/-- The call was refused because the provider had no slot left. -/
def Exhausted (c : Call) : Prop :=
  (∃ request limit, c = .allocate request (.error (.slotsExhausted limit))) ∨
    ∃ request limit, c = .compute request (.error (.slotsExhausted limit))

/-- The call is the first of these that fails. -/
def FirstFailing (calls : List Call) (c : Call) : Prop :=
  ∃ before after, calls = before ++ c :: after ∧ (∀ b ∈ before, ¬ b.Fails) ∧ c.Fails

theorem FirstFailing.fails {calls : List Call} {c : Call} (h : FirstFailing calls c) : c.Fails := by
  obtain ⟨_, _, _, _, hc⟩ := h
  exact hc

theorem FirstFailing.mem {calls : List Call} {c : Call} (h : FirstFailing calls c) : c ∈ calls := by
  obtain ⟨before, after, rfl, _, _⟩ := h
  simp

/-- The failure that a call brings. -/
def failure? : Call → Option Failure
  | .allocate _ (.error e) | .compute _ (.error e) => some (.ofProvider e)
  | .compute (.digest _ _) (.ok bytes) =>
    if bytes.length = 32 then none else some (.cryptoFailure (.digestLength bytes.length))
  | .compute (.coordinate _ which) (.ok bytes) =>
    if bytes = [] then some (.cryptoFailure (.componentEmpty which))
    else if bytes.length ≤ 32 then none
    else some (.cryptoFailure (.componentLength which bytes.length))
  | .compute (.sign _ _) (.ok bytes) =>
    if bytes.length = 64 then none else some (.cryptoFailure (.signatureLength bytes.length))
  | .allocate _ (.ok _) | .release _ => none

@[simp] theorem failure?_granted (request : Allocation) (h : Handle) :
    (Call.allocate request (.ok h)).failure? = none := rfl

@[simp] theorem failure?_release (x : Holding) : (Call.release x).failure? = none := rfl

theorem failure?_eq_none_iff (c : Call) : c.failure? = none ↔ ¬ c.Fails := by
  unfold failure? Fails
  split
  · simp
  · simp
  · simp
  · rename_i bytes
    rcases bytes with _ | ⟨b, rest⟩
    · simp
    · simp
  · simp
  · simp
  · simp

theorem fails_of_failure? {c : Call} {f : Failure} (h : c.failure? = some f) : c.Fails := by
  refine Classical.byContradiction fun hc => ?_
  rw [(failure?_eq_none_iff c).mpr hc] at h
  cases h

theorem findSome?_eq_none_iff (calls : List Call) :
    calls.findSome? failure? = none ↔ ∀ c ∈ calls, ¬ c.Fails := by
  rw [List.findSome?_eq_none_iff]
  simp only [failure?_eq_none_iff]

theorem findSome?_eq_some_iff (calls : List Call) (f : Failure) :
    calls.findSome? failure? = some f ↔ ∃ c, FirstFailing calls c ∧ c.failure? = some f := by
  rw [List.findSome?_eq_some_iff]
  constructor
  · rintro ⟨before, c, after, hcalls, hc, hb⟩
    exact ⟨c, ⟨before, after, hcalls, fun b h => (failure?_eq_none_iff b).mp (hb b h),
      fails_of_failure? hc⟩, hc⟩
  · rintro ⟨c, ⟨before, after, hcalls, hb, _⟩, hc⟩
    exact ⟨before, c, after, hcalls, hc, fun b h => (failure?_eq_none_iff b).mpr (hb b h)⟩

theorem ofProvider_status (e : ProviderError) :
    ((Failure.ofProvider e).status = .outOfResources ↔ ∃ limit, e = .slotsExhausted limit) ∧
      ((Failure.ofProvider e).status = .cryptoFailure ↔ ¬ ∃ limit, e = .slotsExhausted limit) := by
  cases e <;> simp [Failure.ofProvider, Failure.status]

theorem failure?_answered {request : Computation} {bytes : Bytes} {f : Failure}
    (h : (Call.compute request (.ok bytes)).failure? = some f) : ∃ fault, f = .cryptoFailure fault := by
  cases request with
  | digest | sign =>
    simp only [failure?] at h
    split at h
    · cases h
    · exact ⟨_, (Option.some.inj h).symm⟩
  | coordinate =>
    simp only [failure?] at h
    split at h
    · exact ⟨_, (Option.some.inj h).symm⟩
    · split at h
      · cases h
      · exact ⟨_, (Option.some.inj h).symm⟩

theorem failure?_status {c : Call} {f : Failure} (h : c.failure? = some f) :
    (f.status = .outOfResources ↔ c.Exhausted) ∧ (f.status = .cryptoFailure ↔ ¬ c.Exhausted) := by
  rcases c with ⟨request, e | k⟩ | ⟨request, e | bytes⟩ | x
  · obtain rfl := Option.some.inj h
    simpa [Exhausted] using ofProvider_status e
  · cases h
  · obtain rfl := Option.some.inj h
    simpa [Exhausted] using ofProvider_status e
  · obtain ⟨fault, rfl⟩ := failure?_answered h
    simp [Exhausted, Failure.status]
  · cases h

theorem failure?_status_ne {c : Call} {f : Failure} (h : c.failure? = some f) :
    f.status ≠ .badParameters := by
  intro hf
  by_cases he : c.Exhausted
  · rw [(failure?_status h).1.mpr he] at hf
    cases hf
  · rw [(failure?_status h).2.mpr he] at hf
    cases hf

/-! ## Order -/

/-- Which of the counted kinds a call is of. Releases are not counted. -/
def kind? : Call → Option CallKind
  | .allocate request _ => some request.callKind
  | .compute request _ => some request.callKind
  | .release _ => none

/-! ## Holdings -/

/-- The holding that a call brings. -/
def acquired? : Call → Option Holding
  | .allocate .key (.ok h) => some (.key h)
  | .allocate .digest (.ok h) | .allocate (.sign _) (.ok h) => some (.operation h)
  | .allocate _ (.error _) | .compute _ _ | .release _ => none

theorem acquired?_granted (request : Allocation) (h : Handle) :
    (Call.allocate request (.ok h)).acquired? =
      some (if request = .key then .key h else .operation h) := by
  cases request <;> rfl

theorem acquired?_refused (request : Allocation) (e : ProviderError) :
    (Call.allocate request (.error e)).acquired? = none := by
  cases request <;> rfl

/-- The holding that a call gives up. -/
def released? : Call → Option Holding
  | .release x => some x
  | .allocate _ _ | .compute _ _ => none

/-- The releases of these holdings, in order. -/
def releases (holdings : List Holding) : List Call := holdings.map .release

@[simp] theorem releases_nil : releases [] = [] := rfl

@[simp] theorem releases_cons (x : Holding) (rest : List Holding) :
    releases (x :: rest) = .release x :: releases rest := rfl

theorem releases_append (xs ys : List Holding) :
    releases (xs ++ ys) = releases xs ++ releases ys := by simp [releases]

@[simp] theorem findSome?_releases (holdings : List Holding) :
    (releases holdings).findSome? failure? = none := by
  simp [releases]

@[simp] theorem kinds_releases (holdings : List Holding) :
    (releases holdings).filterMap kind? = [] := by
  simp [releases, kind?]

end AttestedImaging.Call

namespace AttestedImaging.Holding

def ofOperation (operation : Option Handle) : List Holding := operation.toList.map .operation

def ofKey (key : Option Handle) : List Holding := key.toList.map .key

@[simp] theorem ofOperation_none : ofOperation none = [] := rfl
@[simp] theorem ofOperation_some (h : Handle) : ofOperation (some h) = [.operation h] := rfl
@[simp] theorem ofKey_none : ofKey none = [] := rfl
@[simp] theorem ofKey_some (h : Handle) : ofKey (some h) = [.key h] := rfl

end AttestedImaging.Holding

import AttestedImaging.Storage
import Mathlib.Data.Finset.Card
import Mathlib.Data.Finset.Dedup

/-!
# Stores in memory

Reads and writes come to an object store one after the other, and what it holds is told by the writes
that it took: of those under one identifier the last counts. A write is refused only if it brings a new
identifier to a full store.
-/

namespace AttestedImaging.ObjectStore

variable {id : String} {data : Bytes} {s s' : ObjectStore}

theorem length_keys (s : ObjectStore) : s.objects.keys.length = s.size :=
  List.length_map _

/-! ## One write -/

/-- There is a limit, it is reached, and no object of this identifier would make way. -/
@[mk_iff]
structure Refuses (s : ObjectStore) (id : String) (limit : Nat) : Prop where
  capacity : s.capacity = some limit
  new : s.get? id = none
  full : limit ≤ s.size

theorem store_of_refuses {limit : Nat} (h : s.Refuses id limit) :
    s.store id data = .error (.full limit) := by
  have hnew : s.objects.get? id = none := h.new
  have hroom : ¬ (s.objects.contains id = true ∨ s.size < limit) := by
    simp [Assoc.contains, hnew, h.full]
  simp only [store, h.capacity, if_neg hroom]

theorem store_of_takes (h : ∀ limit, ¬ s.Refuses id limit) :
    s.store id data = .ok { s with objects := s.objects.put id data } := by
  unfold store
  rcases hcapacity : s.capacity with _ | limit
  · rfl
  · have hroom : s.objects.contains id = true ∨ s.size < limit := by
      rw [Assoc.contains, Option.isSome_iff_ne_none, ← not_le, ← not_and_or]
      rintro ⟨hnew, hfull⟩
      exact h limit ⟨hcapacity, hnew, hfull⟩
    simp only [if_pos hroom]

/-! ## Calls -/

inductive Operation
  | store (id : String) (data : Bytes)
  | get (id : String)

inductive Answer
  | stored
  | refused (cause : StorageError)
  | found (data : Option Bytes)
deriving DecidableEq

def step (s : ObjectStore) : Operation → Answer × ObjectStore
  | .store id data =>
    match s.store id data with
    | .ok s' => (.stored, s')
    | .error cause => (.refused cause, s)
  | .get id => (.found (s.get? id), s)

def run : List Operation → ObjectStore → List (Operation × Answer) × ObjectStore
  | [], s => ([], s)
  | op :: rest, s =>
    let (answer, s) := s.step op
    let (history, s) := run rest s
    ((op, answer) :: history, s)

/-- What a call has put away, and under which identifier. -/
def written? : Operation × Answer → Option (String × Bytes)
  | (.store id data, .stored) => some (id, data)
  | _ => none

/-- What was put away, in the order of the calls. -/
def written (history : List (Operation × Answer)) : List (String × Bytes) :=
  history.filterMap written?

theorem written_cons (call : Operation × Answer) (history : List (Operation × Answer)) :
    written (call :: history) = (written? call).toList ++ written history := by
  rw [written, List.filterMap_cons]
  cases written? call <;> rfl

theorem step_store (s : ObjectStore) (id : String) (data : Bytes) :
    (∃ limit, s.Refuses id limit ∧ s.step (.store id data) = (.refused (.full limit), s)) ∨
    ((∀ limit, ¬ s.Refuses id limit) ∧
      s.step (.store id data) = (.stored, { s with objects := s.objects.put id data })) := by
  by_cases h : ∃ limit, s.Refuses id limit
  · obtain ⟨limit, hrefuses⟩ := h
    exact .inl ⟨limit, hrefuses, by rw [step, store_of_refuses hrefuses]⟩
  · have htakes := not_exists.mp h
    exact .inr ⟨htakes, by rw [step, store_of_takes htakes]⟩

theorem step_store_refused_iff {limit : Nat} :
    (s.step (.store id data)).1 = .refused (.full limit) ↔ s.Refuses id limit := by
  constructor
  · intro h
    rcases step_store s id data with ⟨other, hrefuses, hstep⟩ | ⟨-, hstep⟩
    · rw [hstep] at h
      cases h
      exact hrefuses
    · rw [hstep] at h
      cases h
  · intro h
    rw [step, store_of_refuses h]

/-! ## What a store holds -/

/-- A store of some capacity after some writes. -/
structure Holds (capacity : Option Nat) (writes : List (String × Bytes)) (s : ObjectStore) : Prop where
  capacity_eq : s.capacity = capacity
  get?_eq : ∀ id, s.get? id = writes.reverse.lookup id
  nodup : s.objects.keys.Nodup
  size_le : ∀ limit, capacity = some limit → s.size ≤ limit

variable {capacity : Option Nat} {writes : List (String × Bytes)}

theorem holds_nil (capacity : Option Nat) : Holds capacity [] { capacity } :=
  ⟨rfl, fun _ => rfl, List.nodup_nil, fun _ _ => Nat.zero_le _⟩

namespace Holds

theorem get?_eq_none_iff (h : Holds capacity writes s) :
    s.get? id = none ↔ id ∉ writes.map Prod.fst := by
  rw [h.get?_eq, List.lookup_eq_none_iff]
  simp only [List.mem_reverse, bne_iff_ne, ne_eq, eq_comm (a := id), List.mem_map, not_exists, not_and]

theorem refuses_iff (h : Holds capacity writes s) {limit : Nat} : s.Refuses id limit ↔
    capacity = some limit ∧ id ∉ writes.map Prod.fst ∧ limit ≤ s.size := by
  rw [ObjectStore.refuses_iff, h.capacity_eq, h.get?_eq_none_iff]

theorem size_eq (h : Holds capacity writes s) : s.size = (writes.map Prod.fst).toFinset.card := by
  have hkeys : s.objects.keys.toFinset = (writes.map Prod.fst).toFinset := by
    ext id
    rw [List.mem_toFinset, List.mem_toFinset, ← not_iff_not, ← Assoc.get?_eq_none_iff,
      ← h.get?_eq_none_iff]
    rfl
  rw [← hkeys, List.toFinset_card_of_nodup h.nodup, length_keys]

theorem put (h : Holds capacity writes s) (hroom : ∀ limit, ¬ s.Refuses id limit) :
    Holds capacity (writes ++ [(id, data)]) { s with objects := s.objects.put id data } where
  capacity_eq := h.capacity_eq
  get?_eq other := by
    rw [get?, Assoc.get?_put, List.reverse_append, List.reverse_singleton, List.singleton_append,
      List.lookup_cons, ← h.get?_eq]
    by_cases hid : id = other
    · simp [hid]
    · simp [hid, beq_false_of_ne (Ne.symm hid), get?]
  nodup := Assoc.keys_put_nodup h.nodup _ _
  size_le limit hlimit := by
    have hsize := h.size_le limit hlimit
    rw [← length_keys] at hsize ⊢
    rcases hfound : s.objects.get? id with _ | old
    · -- There was room for the new object.
      have hlt : s.size < limit := by
        by_contra hfull
        exact hroom limit ⟨h.capacity_eq.trans hlimit, hfound, not_lt.mp hfull⟩
      rw [Assoc.keys_put_of_get?_none data hfound, List.length_append, List.length_singleton,
        length_keys]
      exact hlt
    · rwa [Assoc.keys_put_of_get?_some data hfound]

theorem step (h : Holds capacity writes s) (op : Operation) :
    Holds capacity (writes ++ (written? (op, (s.step op).1)).toList) (s.step op).2 := by
  cases op with
  | store id data =>
    rcases step_store s id data with ⟨limit, -, hstep⟩ | ⟨htakes, hstep⟩
    · rw [hstep]
      simpa [written?] using h
    · rw [hstep]
      exact h.put htakes
  | get id => simpa [ObjectStore.step, written?] using h

theorem run (h : Holds capacity writes s) (ops : List Operation) :
    Holds capacity (writes ++ written (ObjectStore.run ops s).1) (ObjectStore.run ops s).2 := by
  -- The writes before the first call are arbitrary, so that the rest can begin after some.
  induction ops generalizing writes s with
  | nil => simpa [ObjectStore.run, written] using h
  | cons op rest ih =>
    have hrest := ih (h.step op)
    rwa [List.append_assoc, ← written_cons] at hrest

end Holds

/-! ## Every sequence of calls -/

/-- A store is a map of limited size: a read finds the last write, and only a new object is refused, when
the store is full. -/
theorem run_map {ops : List Operation} {history : List (Operation × Answer)}
    (h : run ops { capacity } = (history, s)) :
    (∀ id, s.step (.get id) = (.found ((written history).reverse.lookup id), s)) ∧
    (∀ id data, (s.step (.store id data)).1 = .stored ∨
      ∃ limit, s.step (.store id data) = (.refused (.full limit), s)) ∧
    (∀ id data limit, (s.step (.store id data)).1 = .refused (.full limit) ↔
      capacity = some limit ∧ id ∉ (written history).map Prod.fst ∧ limit ≤ s.size) ∧
    (∀ id data, id ∈ (written history).map Prod.fst → (s.step (.store id data)).1 = .stored) ∧
    s.size = ((written history).map Prod.fst).toFinset.card ∧
    ∀ limit, capacity = some limit → s.size ≤ limit := by
  have hholds : Holds capacity (written history) s := by
    simpa only [h, List.nil_append] using (holds_nil capacity).run ops
  refine ⟨fun id => ?_, fun id data => ?_, fun id data limit => ?_, fun id data hid => ?_,
    hholds.size_eq, hholds.size_le⟩
  · rw [step, hholds.get?_eq]
  · rcases step_store s id data with ⟨limit, -, hstep⟩ | ⟨-, hstep⟩
    · exact .inr ⟨limit, hstep⟩
    · exact .inl (congrArg Prod.fst hstep)
  · rw [step_store_refused_iff, hholds.refuses_iff]
  · rcases step_store s id data with ⟨limit, hrefuses, -⟩ | ⟨-, hstep⟩
    · exact absurd hid (hholds.refuses_iff.mp hrefuses).2.1
    · rw [hstep]

/-- With room for one object, a second identifier is refused, and the first can be written again. -/
theorem run_map_one :
    let calls : List Operation := [.store "a" [1], .store "b" [2], .get "b", .store "a" [9]]
    let s : ObjectStore := { capacity := some 1, objects := [("a", [9])] }
    ∃ history, run calls { capacity := some 1 } = (history, s) ∧
      s.step (.get "a") = (.found (some [9]), s) ∧
      (s.step (.store "b" [2])).1 = .refused (.full 1) ∧ (s.step (.store "a" [3])).1 = .stored ∧
      s.size = 1 := by
  intro calls s
  have hrun : run calls { capacity := some 1 } = ([(.store "a" [1], .stored),
      (.store "b" [2], .refused (.full 1)), (.get "b", .found none), (.store "a" [9], .stored)], s) := by
    rfl
  obtain ⟨hget, -, hrefused, htaken, hsize, -⟩ := run_map hrun
  exact ⟨_, hrun, hget "a", (hrefused "b" [2] 1).mpr ⟨rfl, by decide, by decide⟩,
    htaken "a" [3] (by decide), hsize.trans (by decide)⟩

end AttestedImaging.ObjectStore

/-!
# Finite maps as lists

A finite map is a list of keys with their values, in the order in which the keys came. `get?` is the
view of it: what `put` and `erase` do is said by what `get?` finds afterwards.
-/

namespace AttestedImaging

abbrev Assoc (κ α : Type) := List (κ × α)

namespace Assoc

variable {κ α : Type} [DecidableEq κ]

def get? (k : κ) : Assoc κ α → Option α
  | [] => none
  | (k', v) :: rest => if k' = k then some v else get? k rest

def contains (k : κ) (m : Assoc κ α) : Bool := (m.get? k).isSome

/-- Replaces the value of a key, or adds the key at the end. -/
def put (k : κ) (v : α) : Assoc κ α → Assoc κ α
  | [] => [(k, v)]
  | (k', v') :: rest => if k' = k then (k, v) :: rest else (k', v') :: put k v rest

def erase (k : κ) : Assoc κ α → Assoc κ α
  | [] => []
  | (k', v') :: rest => if k' = k then erase k rest else (k', v') :: erase k rest

def keys (m : Assoc κ α) : List κ := m.map Prod.fst

theorem get?_put (k k' : κ) (v : α) (m : Assoc κ α) :
    (m.put k v).get? k' = if k = k' then some v else m.get? k' := by
  induction m with
  | nil => simp [put, get?]
  | cons e rest ih =>
    by_cases h : e.1 = k <;> by_cases h' : k = k' <;> simp_all [put, get?]

theorem get?_erase (k k' : κ) (m : Assoc κ α) :
    (m.erase k).get? k' = if k = k' then none else m.get? k' := by
  induction m with
  | nil => simp [erase, get?]
  | cons e rest ih =>
    by_cases h : e.1 = k <;> by_cases h' : k = k' <;> simp_all [erase, get?]

theorem get?_eq_none_iff (k : κ) (m : Assoc κ α) : m.get? k = none ↔ k ∉ m.keys := by
  induction m with
  | nil => simp [get?, keys]
  | cons e rest ih =>
    by_cases h : e.1 = k
    · simp [get?, keys, h]
    · have h' : ¬ k = e.1 := fun hk => h hk.symm
      rw [get?, if_neg h, ih]
      simp [keys, h']

theorem contains_congr {β : Type} {m : Assoc κ α} {m' : Assoc κ β} (h : m.keys = m'.keys) (k : κ) :
    m.contains k = m'.contains k := by
  have hnone : m.get? k = none ↔ m'.get? k = none := by
    rw [get?_eq_none_iff, get?_eq_none_iff, h]
  rw [contains, contains, Bool.eq_iff_iff, Option.isSome_iff_ne_none, Option.isSome_iff_ne_none,
    Ne, Ne, hnone]

theorem keys_put_congr {β : Type} {m : Assoc κ α} {m' : Assoc κ β} (h : m.keys = m'.keys) (k : κ)
    (v : α) (w : β) : (m.put k v).keys = (m'.put k w).keys := by
  induction m generalizing m' with
  | nil =>
    obtain rfl : m' = [] := List.map_eq_nil_iff.mp h.symm
    rfl
  | cons e rest ih =>
    cases m' with
    | nil => cases h
    | cons e' rest' =>
      obtain ⟨hhead, hrest⟩ := List.cons.inj h
      rw [put, put, hhead]
      split
      · exact congrArg (k :: ·) hrest
      · exact congrArg (e'.1 :: ·) (ih hrest)

theorem get?_of_mem {k : κ} {v : α} {m : Assoc κ α} (hm : m.keys.Nodup) (h : (k, v) ∈ m) :
    m.get? k = some v := by
  induction m with
  | nil => simp at h
  | cons e rest ih =>
    obtain ⟨hout, hrest⟩ := List.nodup_cons.mp hm
    rcases List.mem_cons.mp h with rfl | h
    · simp [get?]
    · have hne : e.1 ≠ k := by
        rintro rfl
        exact hout (List.mem_map.mpr ⟨_, h, rfl⟩)
      rw [get?, if_neg hne, ih hrest h]

theorem put_of_get?_none {k : κ} {m : Assoc κ α} (v : α) (h : m.get? k = none) :
    m.put k v = m ++ [(k, v)] := by
  induction m with
  | nil => rfl
  | cons e rest ih =>
    rw [get?] at h
    split at h
    · simp at h
    · rename_i hk
      rw [put, if_neg hk, ih h]
      rfl

theorem keys_put_of_get?_none {k : κ} {m : Assoc κ α} (v : α) (h : m.get? k = none) :
    (m.put k v).keys = m.keys ++ [k] := by
  rw [put_of_get?_none v h, keys, List.map_append]
  rfl

theorem keys_put_of_get?_some {k : κ} {v : α} {m : Assoc κ α} (w : α) (h : m.get? k = some v) :
    (m.put k w).keys = m.keys := by
  induction m with
  | nil => cases h
  | cons e rest ih =>
    rw [get?] at h
    split at h
    · rename_i hk
      rw [put, if_pos hk, ← hk]
      rfl
    · rename_i hk
      rw [put, if_neg hk]
      exact congrArg (e.1 :: ·) (ih h)

theorem keys_put_nodup {m : Assoc κ α} (hm : m.keys.Nodup) (k : κ) (v : α) :
    (m.put k v).keys.Nodup := by
  rcases h : m.get? k with _ | w
  · rw [keys_put_of_get?_none v h, List.nodup_append]
    refine ⟨hm, by simp, ?_⟩
    rintro k' hk' _ hk rfl
    rw [List.mem_singleton.mp hk] at hk'
    exact (get?_eq_none_iff k m).mp h hk'
  · rwa [keys_put_of_get?_some v h]

theorem keys_erase_sublist (k : κ) (m : Assoc κ α) : (m.erase k).keys.Sublist m.keys := by
  induction m with
  | nil => exact .slnil
  | cons e rest ih =>
    rw [erase]
    split
    · exact ih.cons _
    · exact ih.cons_cons _

theorem erase_of_not_mem {k : κ} {m : Assoc κ α} (h : k ∉ m.keys) : m.erase k = m := by
  induction m with
  | nil => rfl
  | cons e rest ih =>
    simp only [keys, List.map_cons, List.mem_cons, not_or] at h
    rw [erase, if_neg (Ne.symm h.1), ih h.2]

theorem erase_comm (k k' : κ) (m : Assoc κ α) : (m.erase k).erase k' = (m.erase k').erase k := by
  induction m with
  | nil => rfl
  | cons e rest ih =>
    by_cases h : e.1 = k <;> by_cases h' : e.1 = k' <;> simp_all [erase]

theorem erase_put_of_get?_none {k : κ} {m : Assoc κ α} (v : α) (h : m.get? k = none) :
    (m.put k v).erase k = m := by
  induction m with
  | nil => simp [put, erase]
  | cons e rest ih =>
    rw [get?] at h
    split at h
    · simp at h
    · rename_i hk
      rw [put, if_neg hk, erase, if_neg hk, ih h]

theorem perm_cons_erase {k : κ} {v : α} {m : Assoc κ α} (hm : m.keys.Nodup) (h : (k, v) ∈ m) :
    m.Perm ((k, v) :: m.erase k) := by
  induction m with
  | nil => simp at h
  | cons e rest ih =>
    obtain ⟨hout, hrest⟩ := List.nodup_cons.mp hm
    rcases List.mem_cons.mp h with rfl | h
    · rw [erase, if_pos rfl, erase_of_not_mem hout]
    · have hne : e.1 ≠ k := by
        rintro rfl
        exact hout (List.mem_map.mpr ⟨_, h, rfl⟩)
      rw [erase, if_neg hne]
      exact ((ih hrest h).cons e).trans (.swap _ _ _)

end Assoc

end AttestedImaging

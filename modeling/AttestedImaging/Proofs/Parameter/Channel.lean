import AttestedImaging.Parameter.Slot
import Mathlib.Data.Vector.Basic

/-!
# The channel between a caller and the trusted side

An operation reads or changes the slots, by any number that its user may give. Whatever operations are
done in whatever order, no slot becomes one of another kind, no buffer grows or shrinks, and what the
caller only hands in stays as it was.
-/

namespace AttestedImaging

namespace Slot

def bytes? : Slot → Option Bytes
  | memrefInput bytes => some bytes
  | memrefOutput buffer | memrefInout buffer => some buffer.contents
  | absent | valueInput _ | valueOutput _ | valueInout _ => none

def value? : Slot → Option Pair
  | valueInput v | valueOutput v | valueInout v => some v
  | absent | memrefInput _ | memrefOutput _ | memrefInout _ => none

end Slot

namespace Parameters

/-- All slots have the same kinds, bytes and values. The sizes reported for outputs may differ. -/
structure SameData (ps ps' : Parameters) : Prop where
  kinds : ps'.kinds = ps.kinds
  bytes : ∀ i (_ : i < 4), ps'[i].bytes? = ps[i].bytes?
  values : ∀ i (_ : i < 4), ps'[i].value? = ps[i].value?

theorem SameData.refl (ps : Parameters) : ps.SameData ps := ⟨rfl, fun _ _ => rfl, fun _ _ => rfl⟩

theorem sameData_of_slots {ps ps' : Parameters} (h : ∀ i (_ : i < 4), ps'[i].kind = ps[i].kind ∧
    ps'[i].bytes? = ps[i].bytes? ∧ ps'[i].value? = ps[i].value?) : ps.SameData ps' := by
  refine ⟨?_, fun i hi => (h i hi).2.1, fun i hi => (h i hi).2.2⟩
  apply Vector.ext
  intro i hi
  rw [kinds, kinds, Vector.getElem_map, Vector.getElem_map, (h i hi).1]

theorem sameData_clearOutputs (ps : Parameters) : ps.SameData ps.clearOutputs := by
  apply sameData_of_slots
  intro i hi
  rw [clearOutputs, Vector.getElem_map]
  cases ps[i] <;> exact ⟨rfl, rfl, rfl⟩

end Parameters

namespace Channel

/-- A use of the channel. To write or clear is to ask for the buffer of a slot first. -/
inductive Operation
  | memrefInput (index : Nat)
  | write (index : Nat) (data : Bytes)
  | clear (index : Nat)
  | outputCapacity (index : Nat)
  | outputSize (index : Nat)
  | value (index : Nat)
  | setValue (index : Nat) (v : Pair)
  | clearOutputs

inductive Answer
  | done
  | bytes (bytes : Bytes)
  | capacity (n : Nat)
  | size (n : Option Nat)
  | value (v : Pair)

namespace Operation

def index? : Operation → Option Nat
  | memrefInput i | write i _ | clear i | outputCapacity i | outputSize i | value i | setValue i _ =>
    some i
  | clearOutputs => none

/-- The kinds of slot that an operation works on. The first of them is the one that it asks for. To ask
for a reported size, or to clear all of them, is always possible. -/
def kinds? : Operation → Option (Kind × List Kind)
  | memrefInput _ => some (.memrefInput, [])
  | write _ _ | clear _ | outputCapacity _ => some (.memrefOutput, [.memrefInout])
  | value _ => some (.valueInput, [.valueInout])
  | setValue _ _ => some (.valueOutput, [.valueInout])
  | outputSize _ | clearOutputs => none

end Operation

/-- A change, or the slots as they were if there is a fault. -/
def changed (outcome : Except ParameterFault Parameters) (ps : Parameters) :
    Except ParameterFault Answer × Parameters :=
  match outcome with
  | .ok ps' => (.ok .done, ps')
  | .error fault => (.error fault, ps)

def step (op : Operation) (ps : Parameters) : Except ParameterFault Answer × Parameters :=
  match op with
  | .memrefInput i => ((ps.memrefInput i).map .bytes, ps)
  | .write i data => changed (ps.write i data) ps
  | .clear i => changed (ps.clear i) ps
  | .outputCapacity i => ((ps.outputCapacity i).map .capacity, ps)
  | .outputSize i => (.ok (.size (ps.outputSize? i)), ps)
  | .value i => ((ps.value i).map .value, ps)
  | .setValue i v => changed (ps.setValue i v) ps
  | .clearOutputs => (.ok .done, ps.clearOutputs)

/-- The slots after a list of operations. -/
def run (ops : List Operation) (ps : Parameters) : Parameters :=
  ops.foldl (fun ps op => (step op ps).2) ps

/-! ## Refusals -/

/-- The faults that an operation can meet: there is no such slot, the slot is of another kind, or the
data do not fit into its buffer. -/
inductive Refuses (ps : Parameters) : Operation → ParameterFault → Prop
  | range {op : Operation} {i : Nat} {wanted : Kind × List Kind} (hi : op.index? = some i)
      (hw : op.kinds? = some wanted) (h : 4 ≤ i) : Refuses ps op (.slotOutOfRange i)
  | kind {op : Operation} {i : Nat} {s : Slot} {wanted : Kind} {others : List Kind}
      (hi : op.index? = some i) (hw : op.kinds? = some (wanted, others)) (hs : ps[i]? = some s)
      (h : s.kind ∉ wanted :: others) : Refuses ps op (.wrongKind i s.kind wanted)
  | room {i : Nat} {data : Bytes} {s : Slot} {buffer : OutputBuffer} (hs : ps[i]? = some s)
      (hb : s.output? = some buffer) (h : buffer.capacity < data.length) :
      Refuses ps (.write i data) (.bufferTooSmall buffer.capacity data.length)

variable {ps : Parameters} {i : Nat} {s : Slot}

theorem getElem?_of_le (ps : Parameters) (h : 4 ≤ i) : ps[i]? = none := by
  rw [Vector.getElem?_eq_none_iff]
  omega

theorem slot_of_some (h : ps[i]? = some s) : ps.slot i = .ok s := by
  rw [Parameters.slot, h]

theorem slot_of_none (h : ps[i]? = none) : ps.slot i = .error (.slotOutOfRange i) := by
  rw [Parameters.slot, h]

theorem output_of_some (h : ps[i]? = some s) : ps.output i = match s.output? with
    | some buffer => .ok buffer
    | none => .error (.wrongKind i s.kind .memrefOutput) := by
  rw [Parameters.output, slot_of_some h]
  cases s <;> rfl

theorem output_of_none (h : ps[i]? = none) : ps.output i = .error (.slotOutOfRange i) := by
  rw [Parameters.output, slot_of_none h]
  rfl

theorem step_refused {op : Operation} {fault : ParameterFault} (h : Refuses ps op fault) :
    step op ps = (.error fault, ps) := by
  cases h with
  | @range op i wanted hi hw h =>
    have hnone := getElem?_of_le ps h
    cases op <;> simp only [Operation.index?, Operation.kinds?, Option.some.injEq, reduceCtorEq] at hi hw
    all_goals
      subst hi
      simp [step, changed, Parameters.memrefInput, Parameters.write, Parameters.clear,
        Parameters.outputCapacity, Parameters.value, Parameters.setValue, slot_of_none hnone,
        output_of_none hnone, bind, Except.bind, Except.map]
  | @kind op i s wanted others hi hw hs h =>
    cases op <;> simp only [Operation.index?, Operation.kinds?, Option.some.injEq, reduceCtorEq] at hi hw
    all_goals
      subst hi
      obtain ⟨rfl, rfl⟩ := Prod.mk.inj hw
      cases s <;> simp [Slot.kind] at h
    all_goals
      simp [step, changed, Parameters.memrefInput, Parameters.write, Parameters.clear,
        Parameters.outputCapacity, Parameters.value, Parameters.setValue, slot_of_some hs,
        output_of_some hs, Slot.output?, Slot.kind, bind, Except.bind, Except.map, throw, throwThe,
        MonadExceptOf.throw]
  | @room i data s buffer hs hb h =>
    simp [step, changed, Parameters.write, output_of_some hs, hb, OutputBuffer.write, Nat.not_le.mpr h,
      bind, Except.bind]

/-! ## What an operation does -/

/-- The slot with a value put into it, if it takes one. -/
def setValue (v : Pair) : Slot → Slot
  | .valueOutput _ => .valueOutput v
  | .valueInout _ => .valueInout v
  | slot => slot

/-- All that an operation can do: its answer and the slots that it leaves. -/
inductive Does (ps : Parameters) : Operation → Except ParameterFault Answer → Parameters → Prop
  | refused {op : Operation} {fault : ParameterFault} (h : Refuses ps op fault) :
      Does ps op (.error fault) ps
  | input {i : Nat} {bytes : Bytes} (hs : ps[i]? = some (.memrefInput bytes)) :
      Does ps (.memrefInput i) (.ok (.bytes bytes)) ps
  | capacity {i : Nat} {s : Slot} {buffer : OutputBuffer} (hs : ps[i]? = some s)
      (hb : s.output? = some buffer) : Does ps (.outputCapacity i) (.ok (.capacity buffer.capacity)) ps
  | size (i : Nat) : Does ps (.outputSize i) (.ok (.size (ps.outputSize? i))) ps
  | value {i : Nat} {s : Slot} {v : Pair} (hs : ps[i]? = some s) (hv : s.value? = some v)
      (h : s.kind = .valueInput ∨ s.kind = .valueInout) : Does ps (.value i) (.ok (.value v)) ps
  | written {i : Nat} {data : Bytes} {s : Slot} {buffer : OutputBuffer} (hs : ps[i]? = some s)
      (hb : s.output? = some buffer) (h : data.length ≤ buffer.capacity) :
      Does ps (.write i data) (.ok .done) (ps.setIfInBounds i
        (s.setOutput ⟨data ++ buffer.contents.drop data.length, data.length⟩))
  | cleared {i : Nat} {s : Slot} {buffer : OutputBuffer} (hs : ps[i]? = some s)
      (hb : s.output? = some buffer) :
      Does ps (.clear i) (.ok .done) (ps.setIfInBounds i (s.setOutput buffer.clear))
  | set {i : Nat} {v : Pair} {s : Slot} (hs : ps[i]? = some s)
      (h : s.kind = .valueOutput ∨ s.kind = .valueInout) :
      Does ps (.setValue i v) (.ok .done) (ps.setIfInBounds i (setValue v s))
  | clearedAll : Does ps .clearOutputs (.ok .done) ps.clearOutputs

section Accepted

variable {buffer : OutputBuffer} (hs : ps[i]? = some s) (hb : s.output? = some buffer)

include hs

theorem step_memrefInput {bytes : Bytes} (h : s = .memrefInput bytes) :
    step (.memrefInput i) ps = (.ok (.bytes bytes), ps) := by
  simp [step, Parameters.memrefInput, slot_of_some hs, h, bind, Except.bind, pure, Except.pure,
    Except.map]

theorem step_value {v : Pair} (hv : s.value? = some v)
    (h : s.kind = .valueInput ∨ s.kind = .valueInout) :
    step (.value i) ps = (.ok (.value v), ps) := by
  cases s <;> simp [Slot.kind, Slot.value?] at h hv
  all_goals
    simp [step, Parameters.value, slot_of_some hs, hv, bind, Except.bind, pure, Except.pure, Except.map]

theorem step_setValue (v : Pair) (h : s.kind = .valueOutput ∨ s.kind = .valueInout) :
    step (.setValue i v) ps = (.ok .done, ps.setIfInBounds i (setValue v s)) := by
  cases s <;> simp [Slot.kind] at h
  all_goals
    simp [step, changed, Parameters.setValue, slot_of_some hs, setValue, bind, Except.bind, pure,
      Except.pure]

include hb

theorem step_write {data : Bytes} (h : data.length ≤ buffer.capacity) :
    step (.write i data) ps = (.ok .done, ps.setIfInBounds i
      (s.setOutput ⟨data ++ buffer.contents.drop data.length, data.length⟩)) := by
  simp [step, changed, Parameters.write, output_of_some hs, hb, OutputBuffer.write, h,
    Parameters.setOutput, hs, bind, Except.bind, pure, Except.pure]

theorem step_clear :
    step (.clear i) ps = (.ok .done, ps.setIfInBounds i (s.setOutput buffer.clear)) := by
  simp [step, changed, Parameters.clear, output_of_some hs, hb, Parameters.setOutput, hs, bind,
    Except.bind, pure, Except.pure]

theorem step_outputCapacity :
    step (.outputCapacity i) ps = (.ok (.capacity buffer.capacity), ps) := by
  simp [step, Parameters.outputCapacity, output_of_some hs, hb, bind, Except.bind, pure, Except.pure,
    Except.map]

end Accepted

theorem exists_output {s : Slot} (h : s.kind ∈ [Kind.memrefOutput, .memrefInout]) :
    ∃ buffer, s.output? = some buffer := by
  cases s <;> simp [Slot.kind, Slot.output?] at h ⊢

theorem exists_value {s : Slot} (h : s.kind ∈ [Kind.valueInput, .valueInout]) :
    ∃ v, s.value? = some v := by
  cases s <;> simp [Slot.kind, Slot.value?] at h ⊢

theorem exists_bytes {s : Slot} (h : s.kind ∈ [Kind.memrefInput]) :
    ∃ bytes, s = .memrefInput bytes := by
  cases s <;> simp [Slot.kind] at h ⊢

theorem step_does (op : Operation) (ps : Parameters) : Does ps op (step op ps).1 (step op ps).2 := by
  by_cases hrefused : ∃ fault, Refuses ps op fault
  · obtain ⟨fault, h⟩ := hrefused
    rw [step_refused h]
    exact .refused h
  -- The slot is there and of a kind that the operation takes.
  have hslot : ∀ i wanted others, op.index? = some i → op.kinds? = some (wanted, others) →
      ∃ s, ps[i]? = some s ∧ s.kind ∈ wanted :: others := by
    intro i wanted others hi hw
    rcases hs : ps[i]? with _ | s
    · have hle : 4 ≤ i := Vector.getElem?_eq_none_iff.mp hs
      exact absurd ⟨_, .range hi hw hle⟩ hrefused
    · refine ⟨s, rfl, Classical.byContradiction fun hk => ?_⟩
      exact hrefused ⟨_, .kind hi hw hs hk⟩
  cases op with
  | memrefInput i =>
    obtain ⟨s, hs, hk⟩ := hslot i _ _ rfl rfl
    obtain ⟨bytes, rfl⟩ := exists_bytes hk
    rw [step_memrefInput hs rfl]
    exact .input hs
  | write i data =>
    obtain ⟨s, hs, hk⟩ := hslot i _ _ rfl rfl
    obtain ⟨buffer, hb⟩ := exists_output hk
    have hroom : data.length ≤ buffer.capacity := Nat.not_lt.mp fun h => hrefused ⟨_, .room hs hb h⟩
    rw [step_write hs hb hroom]
    exact .written hs hb hroom
  | clear i =>
    obtain ⟨s, hs, hk⟩ := hslot i _ _ rfl rfl
    obtain ⟨buffer, hb⟩ := exists_output hk
    rw [step_clear hs hb]
    exact .cleared hs hb
  | outputCapacity i =>
    obtain ⟨s, hs, hk⟩ := hslot i _ _ rfl rfl
    obtain ⟨buffer, hb⟩ := exists_output hk
    rw [step_outputCapacity hs hb]
    exact .capacity hs hb
  | outputSize i => exact .size i
  | value i =>
    obtain ⟨s, hs, hk⟩ := hslot i _ _ rfl rfl
    obtain ⟨v, hv⟩ := exists_value hk
    replace hk : s.kind = .valueInput ∨ s.kind = .valueInout := by simpa using hk
    rw [step_value hs hv hk]
    exact .value hs hv hk
  | setValue i v =>
    obtain ⟨s, hs, hk⟩ := hslot i _ _ rfl rfl
    replace hk : s.kind = .valueOutput ∨ s.kind = .valueInout := by simpa using hk
    rw [step_setValue hs v hk]
    exact .set hs hk
  | clearOutputs => exact .clearedAll

theorem step_error_iff (op : Operation) (ps : Parameters) (fault : ParameterFault) :
    (step op ps).1 = .error fault ↔ Refuses ps op fault := by
  constructor
  · intro h
    have hdoes := step_does op ps
    rw [h] at hdoes
    generalize (step op ps).2 = qs at hdoes
    cases hdoes with
    | refused hrefuses => exact hrefuses
  · intro h
    rw [step_refused h]

/-! ## What stays -/

/-- The size reported for the slot's buffer, if it has one for output, is within that buffer. -/
def Sized (s : Slot) : Prop := ∀ buffer, s.output? = some buffer → buffer.size ≤ buffer.capacity

/-- What one slot can become: a slot of the same kind, with a buffer as long as before. -/
structure Evolves (s s' : Slot) : Prop where
  kind : s'.kind = s.kind
  capacity : s'.output?.map OutputBuffer.capacity = s.output?.map OutputBuffer.capacity
  input : s.kind = .memrefInput ∨ s.kind = .valueInput → s' = s
  sized : Sized s → Sized s'

theorem Evolves.refl (s : Slot) : Evolves s s := ⟨rfl, rfl, fun _ => rfl, fun h => h⟩

theorem Evolves.trans {s s' s'' : Slot} (h : Evolves s s') (h' : Evolves s' s'') : Evolves s s'' := by
  refine ⟨h'.kind.trans h.kind, h'.capacity.trans h.capacity, ?_, fun hs => h'.sized (h.sized hs)⟩
  intro hk
  rw [← h.kind] at hk
  rw [h'.input hk, h.input (h.kind ▸ hk)]

theorem evolves_setOutput {buffer : OutputBuffer} (new : OutputBuffer) (hb : s.output? = some buffer)
    (hcapacity : new.capacity = buffer.capacity) (hsize : new.size ≤ new.capacity) :
    Evolves s (s.setOutput new) := by
  cases s <;> simp [Slot.output?] at hb
  all_goals
    subst hb
    refine ⟨rfl, congrArg some hcapacity, ?_, ?_⟩
    · simp [Slot.kind]
    · intro _ buffer h
      obtain rfl := Option.some.inj h
      exact hsize

theorem evolves_setValue (v : Pair) (h : s.kind = .valueOutput ∨ s.kind = .valueInout) :
    Evolves s (setValue v s) := by
  cases s <;> simp [Slot.kind] at h
  all_goals
    refine ⟨rfl, rfl, ?_, ?_⟩
    · simp [Slot.kind]
    · simp [Sized, setValue, Slot.output?]

theorem evolves_clear (s : Slot) : Evolves s s.clear := by
  cases s with
  | memrefOutput buffer | memrefInout buffer => exact evolves_setOutput buffer.clear rfl rfl (Nat.zero_le _)
  | _ => exact .refl _

theorem capacity_written {buffer : OutputBuffer} {data : Bytes} (h : data.length ≤ buffer.capacity) :
    (OutputBuffer.mk (data ++ buffer.contents.drop data.length) data.length).capacity =
      buffer.capacity := by
  unfold OutputBuffer.capacity at h ⊢
  rw [List.length_append, List.length_drop]
  omega

theorem evolves_put {s' : Slot} (hs : ps[i]? = some s) (h : Evolves s s') {j : Nat} (hj : j < 4) :
    Evolves ps[j] (ps.setIfInBounds i s')[j] := by
  rw [Vector.getElem_setIfInBounds]
  split
  · next hij =>
    subst hij
    rw [Vector.getElem?_eq_getElem hj] at hs
    rwa [Option.some.inj hs]
  · exact .refl _

theorem Does.evolves {op : Operation} {answer : Except ParameterFault Answer} {qs : Parameters}
    (h : Does ps op answer qs) {j : Nat} (hj : j < 4) : Evolves ps[j] qs[j] := by
  cases h with
  | refused | input | capacity | size | value => exact .refl _
  | written hs hb h =>
    have hcapacity := capacity_written h
    exact evolves_put hs (evolves_setOutput _ hb hcapacity (hcapacity.symm ▸ h)) hj
  | @cleared _ _ buffer hs hb =>
    exact evolves_put hs (evolves_setOutput buffer.clear hb rfl (Nat.zero_le _)) hj
  | set hs h => exact evolves_put hs (evolves_setValue _ h) hj
  | clearedAll =>
    rw [Parameters.clearOutputs, Vector.getElem_map]
    exact evolves_clear _

theorem run_evolves (ops : List Operation) (ps : Parameters) {j : Nat} (hj : j < 4) :
    Evolves ps[j] (run ops ps)[j] := by
  induction ops generalizing ps with
  | nil => exact .refl _
  | cons op rest ih => exact ((step_does op ps).evolves hj).trans (ih (step op ps).2)

theorem Does.others {op : Operation} {answer : Except ParameterFault Answer} {qs : Parameters}
    (h : Does ps op answer qs) (hi : op.index? = some i) {j : Nat} (hj : j ≠ i) : qs[j]? = ps[j]? := by
  cases h with
  | refused | input | capacity | size | value => rfl
  | written | cleared | set =>
    obtain rfl := Option.some.inj hi
    rw [Vector.getElem?_setIfInBounds_ne (Ne.symm hj)]
  | clearedAll => cases hi

theorem output_put (new : OutputBuffer) {buffer : OutputBuffer} (hs : ps[i]? = some s)
    (hb : s.output? = some buffer) :
    Parameters.output i (ps.setIfInBounds i (s.setOutput new)) = .ok new := by
  have hi : i < 4 := (Vector.getElem?_eq_some_iff.mp hs).1
  have hput : (ps.setIfInBounds i (s.setOutput new))[i]? = some (s.setOutput new) := by
    rw [Vector.getElem?_setIfInBounds_self, if_pos hi]
  rw [output_of_some hput]
  cases s <;> simp [Slot.output?] at hb
  all_goals rfl

theorem output_eq_ok_iff {buffer : OutputBuffer} :
    ps.output i = .ok buffer ↔ ∃ s, ps[i]? = some s ∧ s.output? = some buffer := by
  rcases hs : ps[i]? with _ | s
  · simp [output_of_none hs]
  · rw [output_of_some hs]
    rcases hb : s.output? with _ | buffer'
    · simp [hb]
    · simp [hb]

theorem Does.sameData {answer : Except ParameterFault Answer} {qs : Parameters}
    (h : Does ps (.clear i) answer qs) : ps.SameData qs := by
  cases h with
  | refused => exact .refl _
  | @cleared _ s buffer hs hb =>
    apply Parameters.sameData_of_slots
    intro j hj
    rw [Vector.getElem_setIfInBounds]
    split
    · next hij =>
      subst hij
      rw [Vector.getElem?_eq_getElem hj] at hs
      obtain rfl := Option.some.inj hs
      cases h : ps[i] <;> simp [h, Slot.output?] at hb
      all_goals
        subst hb
        exact ⟨rfl, rfl, rfl⟩
    · exact ⟨rfl, rfl, rfl⟩

/-- No operation changes the kind or the capacity of a slot, or what the caller only hands in. One that is
refused changes nothing, and the others only the slot that they name. -/
theorem operations_contained (ops : List Operation) (ps : Parameters) :
    let qs := run ops ps
    (∀ i (_ : i < 4), qs[i].kind = ps[i].kind ∧
      qs[i].output?.map OutputBuffer.capacity = ps[i].output?.map OutputBuffer.capacity ∧
      (Sized ps[i] → Sized qs[i]) ∧
      (ps[i].kind = .memrefInput ∨ ps[i].kind = .valueInput → qs[i] = ps[i])) ∧
    (∀ op fault, ((step op qs).1 = .error fault ↔ Refuses qs op fault) ∧
      ((step op qs).1 = .error fault → (step op qs).2 = qs)) ∧
    (∀ op i j, op.index? = some i → j ≠ i → (step op qs).2[j]? = qs[j]?) ∧
    (∀ i data answer, (step (.write i data) qs).1 = .ok answer →
      ∃ buffer, qs.output i = .ok buffer ∧ data.length ≤ buffer.capacity ∧
        (step (.write i data) qs).2.output i =
          .ok ⟨data ++ buffer.contents.drop data.length, data.length⟩) ∧
    (∀ i, qs.SameData (step (.clear i) qs).2 ∧ ∀ answer, (step (.clear i) qs).1 = .ok answer →
      ∃ buffer, qs.output i = .ok buffer ∧
        (step (.clear i) qs).2.output i = .ok ⟨buffer.contents, 0⟩) ∧
    qs.SameData (step .clearOutputs qs).2 ∧
    ∀ i buffer, qs.output i = .ok buffer →
      (step .clearOutputs qs).2.output i = .ok ⟨buffer.contents, 0⟩ := by
  intro qs
  refine ⟨?_, ?_, ?_, ?_, ?_, ?_, ?_⟩
  · intro i hi
    have h := run_evolves ops ps hi
    exact ⟨h.kind, h.capacity, h.sized, h.input⟩
  · intro op fault
    refine ⟨step_error_iff op qs fault, fun h => ?_⟩
    rw [step_refused ((step_error_iff op qs fault).mp h)]
  · intro op i j hi hj
    exact (step_does op qs).others hi hj
  · intro i data answer h
    have hdoes := step_does (.write i data) qs
    rw [h] at hdoes
    generalize (step (.write i data) qs).2 = rs at hdoes
    cases hdoes with
    | written hs hb hroom => exact ⟨_, output_eq_ok_iff.mpr ⟨_, hs, hb⟩, hroom, output_put _ hs hb⟩
  · intro i
    have hdoes := step_does (.clear i) qs
    refine ⟨hdoes.sameData, fun answer h => ?_⟩
    rw [h] at hdoes
    generalize (step (.clear i) qs).2 = rs at hdoes
    cases hdoes with
    | cleared hs hb => exact ⟨_, output_eq_ok_iff.mpr ⟨_, hs, hb⟩, output_put _ hs hb⟩
  · exact Parameters.sameData_clearOutputs qs
  · intro i buffer h
    obtain ⟨s, hs, hb⟩ := output_eq_ok_iff.mp h
    refine output_eq_ok_iff.mpr ⟨s.clear, ?_, ?_⟩
    · simp [step, Parameters.clearOutputs, hs]
    · cases s <;> simp [Slot.output?] at hb
      all_goals
        subst hb
        rfl

end Channel

end AttestedImaging

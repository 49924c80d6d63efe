import AttestedImaging.Application
import AttestedImaging.Proofs.Invocation.Request

/-!
# Data without their secrets

A blank is what is left of some data when the bytes in its buffers, or the attestation in it, are taken
away: lengths, kinds, reported sizes, handles and counts stay. Two data with the same blank differ only
in what was taken away. A log record is blanked by taking out the text of the digest.
-/

namespace AttestedImaging

def Bytes.blank (bytes : Bytes) : Bytes := List.replicate bytes.length 0

theorem Bytes.blank_eq_iff {bytes bytes' : Bytes} :
    Bytes.blank bytes = Bytes.blank bytes' ↔ bytes.length = bytes'.length := by
  constructor
  · intro h
    simpa [blank] using congrArg List.length h
  · intro h
    rw [blank, blank, h]

def OutputBuffer.blank (buffer : OutputBuffer) : OutputBuffer :=
  { buffer with contents := Bytes.blank buffer.contents }

theorem OutputBuffer.blank_eq_iff {buffer buffer' : OutputBuffer} :
    buffer.blank = buffer'.blank ↔
      buffer.capacity = buffer'.capacity ∧ buffer.size = buffer'.size := by
  rw [blank, blank, mk.injEq, Bytes.blank_eq_iff]
  rfl

def Slot.blank : Slot → Slot
  | .memrefInput bytes => .memrefInput (Bytes.blank bytes)
  | .memrefOutput buffer => .memrefOutput buffer.blank
  | .memrefInout buffer => .memrefInout buffer.blank
  | slot => slot

def Parameters.blank (ps : Parameters) : Parameters := ps.map Slot.blank

def Context.blank (c : Context) : Context := { c with result := none }

theorem Context.blank_eq_iff {c c' : Context} : c.blank = c'.blank ↔
    c.operation = c'.operation ∧ c.key = c'.key ∧ c.completed = c'.completed := by
  simp [blank]

def Session.blank (s : Session) : Session := { s with context := s.context.blank }

theorem Session.blank_eq_iff {s s' : Session} :
    s.blank = s'.blank ↔ s.id = s'.id ∧ s.context.blank = s'.context.blank := by
  simp [blank]

def Application.Request.blank : Request → Request
  | .invoke number command ps => .invoke number command ps.blank
  | request => request

def Application.Reply.blank : Reply → Reply
  | .opened session => .opened session.blank
  | .answered status ps => .answered status ps.blank
  | reply => reply

/-- The record without the text of a digest, which stands in the fields of these two names. -/
def Event.Record.blank (r : Record) : Record :=
  { r with fields := r.fields.map fun field =>
      if field.1 = "digest" ∨ field.1 = "id" then (field.1, .plain "") else field }

/-! ## Slots -/

namespace Parameters

theorem kinds_blank (ps : Parameters) : ps.blank.kinds = ps.kinds := by
  have hkind : Slot.kind ∘ Slot.blank = Slot.kind := by
    funext slot
    cases slot <;> rfl
  rw [kinds, blank, Vector.map_map, hkind]
  rfl

theorem clearOutputs_blank (ps : Parameters) : ps.clearOutputs.blank = ps.blank.clearOutputs := by
  have hclear : Slot.blank ∘ Slot.clear = Slot.clear ∘ Slot.blank := by
    funext slot
    cases slot <;> rfl
  rw [clearOutputs, clearOutputs, blank, blank, Vector.map_map, Vector.map_map, hclear]

end Parameters

namespace Invocation

theorem blank_slots (image : Bytes) (bundle gray : OutputBuffer) :
    (slots image bundle gray).blank = slots (Bytes.blank image) bundle.blank gray.blank := by
  simp [slots, Parameters.blank, Slot.blank]

theorem slots_of_blank {image : Bytes} {bundle gray : OutputBuffer} {ps : Parameters}
    (h : (slots image bundle gray).blank = ps.blank) : ∃ image' bundle' gray',
      ps = slots image' bundle' gray' ∧ image.length = image'.length ∧
      bundle.blank = bundle'.blank ∧ gray.blank = gray'.blank := by
  have hkinds : (slots image bundle gray).kinds = ps.kinds := by
    rw [← Parameters.kinds_blank, h, Parameters.kinds_blank]
  obtain ⟨image', bundle', gray', rfl⟩ := (kinds_eq_iff ps).mp (by rw [← hkinds, kinds_slots])
  rw [blank_slots, blank_slots] at h
  obtain ⟨himage, hbundle, hgray⟩ := slots_inj h
  exact ⟨image', bundle', gray', rfl, Bytes.blank_eq_iff.mp himage, hbundle, hgray⟩

theorem checkLengths_of_blank (config : Config) {image image' : Bytes}
    {bundle bundle' gray gray' : OutputBuffer} (himage : image.length = image'.length)
    (hbundle : bundle.blank = bundle'.blank) (hgray : gray.blank = gray'.blank) :
    (∃ cause, checkLengths config (slots image bundle gray) = .error cause ∧
      checkLengths config (slots image' bundle' gray') = .error cause) ∨
    (Fits config image bundle gray ∧ Fits config image' bundle' gray') := by
  have hcapacity := (OutputBuffer.blank_eq_iff.mp hbundle).1
  have hsame := (OutputBuffer.blank_eq_iff.mp hgray).1
  have hempty : image = [] ↔ image' = [] := by
    rw [← List.length_eq_zero_iff, himage, List.length_eq_zero_iff]
  by_cases hfits : Fits config image bundle gray
  · refine .inr ⟨hfits, ?_⟩
    exact ⟨fun h => hfits.nonempty (hempty.mpr h), himage ▸ hfits.within, himage ▸ hfits.whole,
      hcapacity ▸ hfits.room, hsame ▸ himage ▸ hfits.same⟩
  · obtain ⟨cause, hcause⟩ := checkLengths_error hfits
    refine .inl ⟨cause, hcause, ?_⟩
    rw [checkLengths_slots, himage, hcapacity, hsame] at hcause
    rw [checkLengths_slots, ← hcause]
    by_cases h : image = []
    · rw [if_pos h, if_pos (hempty.mp h)]
    · rw [if_neg h, if_neg fun h' => h (hempty.mpr h')]
      split_ifs <;> simp_all

end Invocation

end AttestedImaging

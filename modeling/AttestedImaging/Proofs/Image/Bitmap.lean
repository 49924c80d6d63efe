import AttestedImaging.Image.Bitmap
import AttestedImaging.Proofs.Bytes
import AttestedImaging.Proofs.Image.Grayscale

/-!
# Bitmap files, read back

A picture that is written and read again is the same picture: every field of the header is found where
it was put, and the rows lose their padding, their order and the order of their colours twice over.
-/

namespace AttestedImaging.Bitmap

open Grayscale (whole_induction)

/-! ## Pieces -/

theorem length_pieces (size count : Nat) (bytes : Bytes) : (pieces size count bytes).length = count := by
  induction count generalizing bytes with
  | zero => rfl
  | succ count ih => rw [pieces, List.length_cons, ih]

theorem flatten_pieces {size count : Nat} {bytes : Bytes} (h : bytes.length = count * size) :
    (pieces size count bytes).flatten = bytes := by
  induction count generalizing bytes with
  | zero =>
    rw [Nat.zero_mul, List.length_eq_zero_iff] at h
    rw [h]
    rfl
  | succ count ih =>
    have hrest : (bytes.drop size).length = count * size := by
      rw [List.length_drop, h, Nat.succ_mul, Nat.add_sub_cancel]
    rw [pieces, List.flatten_cons, ih hrest, List.take_append_drop]

theorem length_of_mem_pieces {size count : Nat} {bytes piece : Bytes}
    (h : bytes.length = count * size) (hp : piece ∈ pieces size count bytes) : piece.length = size := by
  induction count generalizing bytes with
  | zero => cases hp
  | succ count ih =>
    rw [Nat.succ_mul] at h
    rcases List.mem_cons.mp hp with rfl | hp
    · rw [List.length_take, h]
      omega
    · exact ih (by rw [List.length_drop, h, Nat.add_sub_cancel]) hp

theorem pieces_flatten {size : Nat} {rows : List Bytes} (h : ∀ row ∈ rows, row.length = size) :
    pieces size rows.length rows.flatten = rows := by
  induction rows with
  | nil => rfl
  | cons row rest ih =>
    obtain ⟨hrow, hrest⟩ := List.forall_mem_cons.mp h
    rw [List.length_cons, List.flatten_cons, pieces, List.take_left' hrow, List.drop_left' hrow,
      ih hrest]

theorem length_flatten_of_forall {size : Nat} {rows : List Bytes} (h : ∀ row ∈ rows, row.length = size) :
    rows.flatten.length = rows.length * size := by
  rw [List.length_flatten, List.map_congr_left h, List.map_const', List.sum_replicate, smul_eq_mul]

/-! ## Rows -/

theorem length_swap {row : Bytes} (h : row.length % 3 = 0) : (swap row).length = row.length := by
  induction row, h using whole_induction with
  | nil => rfl
  | pixel r g b rest hrest ih => simp only [swap, List.length_cons, ih]

theorem swap_swap {row : Bytes} (h : row.length % 3 = 0) : swap (swap row) = row := by
  induction row, h using whole_induction with
  | nil => rfl
  | pixel r g b rest hrest ih => rw [swap, swap, ih]

theorem length_encodeRow {row : Bytes} (h : row.length % 3 = 0) :
    (encodeRow row).length = row.length + padding row.length := by
  rw [encodeRow, List.length_append, length_swap h, List.length_replicate]

theorem decodeRow_three {l : Layout} (h : l.depth = 3) (row : Bytes) :
    decodeRow l row = swap (row.take (3 * l.width)) := by
  simp [decodeRow, h]

theorem decodeRow_encodeRow {l : Layout} (hdepth : l.depth = 3) {row : Bytes}
    (h : row.length = 3 * l.width) : decodeRow l (encodeRow row) = row := by
  have hwhole : row.length % 3 = 0 := by omega
  have hswap : (swap row).length = 3 * l.width := by rw [length_swap hwhole, h]
  rw [decodeRow_three hdepth, encodeRow, List.take_left' hswap, swap_swap hwhole]

theorem field?_cons (offset count : Nat) (b : UInt8) (rest : Bytes) :
    field? (offset + 1) count (b :: rest) = field? offset count rest := rfl

theorem field?_skip {before : Bytes} {offset : Nat} (h : before.length ≤ offset) (count : Nat)
    (rest : Bytes) : field? offset count (before ++ rest) = field? (offset - before.length) count rest := by
  have hdrop : (before ++ rest).drop offset = rest.drop (offset - before.length) := by
    rw [List.drop_append, List.drop_eq_nil_of_le h, List.nil_append]
  simp only [field?, Bytes.slice?, hdrop]

theorem field?_here {count n : Nat} (h : n < 256 ^ count) (rest : Bytes) :
    field? 0 count (Bytes.ofNatLE count n ++ rest) = some n := by
  have htake : (Bytes.ofNatLE count n ++ rest).take count = Bytes.ofNatLE count n :=
    List.take_left' (Bytes.length_ofNatLE count n)
  rw [field?, Bytes.slice?_of_le (by simp), List.drop_zero, htake, Option.map_some,
    Bytes.toNatLE_ofNatLE, Nat.mod_eq_of_lt h]

theorem length_header (width height : Nat) : (header width height).length = 54 := by
  simp [header]

theorem fields_header {width height : Nat} (hwidth : width < 256 ^ 4) (hheight : height < 256 ^ 4)
    (pixels : Bytes) :
    let file := header width height ++ pixels
    Bytes.slice? 0 2 file = some signature ∧ field? 10 4 file = some 54 ∧ field? 14 4 file = some 40 ∧
      field? 18 4 file = some width ∧ field? 22 4 file = some height ∧ field? 26 2 file = some 1 ∧
      field? 28 2 file = some 24 ∧ field? 30 4 file = some 0 := by
  intro file
  have hmagic : Bytes.slice? 0 2 file = some signature := by
    simp [file, Bytes.slice?, header, signature]
  refine ⟨hmagic, ?_⟩
  simp [file, header, field?_cons, field?_skip, field?_here, field?_here hwidth, field?_here hheight]

theorem layout?_header {width height : Nat} (hwidth : 0 < width) (hwidth' : width ≤ maxSide)
    (hheight : 0 < height) (hheight' : height ≤ maxSide) (hsize : 3 * width * height ≤ maxBytes)
    (pixels : Bytes) : layout? (header width height ++ pixels) =
      some { offset := 54, width, height, topDown := false, depth := 3 } := by
  have hword : maxSide < 256 ^ 4 := by decide
  obtain ⟨hmagic, hoffset, hkind, hw, hh, hplanes, hbits, hcompression⟩ :=
    fields_header (hwidth'.trans_lt hword) (hheight'.trans_lt hword) pixels
  have hside : ¬ 0x80000000 < height := by
    unfold maxSide at hheight'
    omega
  have hlength : 54 ≤ (header width height).length + pixels.length := by
    rw [length_header]
    omega
  have hlong : longLayout? 54 (header width height ++ pixels) =
      some { offset := 54, width, height, topDown := false, depth := 3 } := by
    simp [longLayout?, guard, hw, hh, hplanes, hbits, hcompression, hlength, hside, hheight']
  simp [layout?, guard, hmagic, hoffset, hkind, hlong, hwidth, hwidth', hheight, hsize]

/-! ## Whole files -/

/-- A picture that can be written and read again. -/
structure Readable (p : Picture) : Prop where
  width_pos : 0 < p.width
  width_le : p.width ≤ maxSide
  height_pos : 0 < p.height
  height_le : p.height ≤ maxSide
  length_eq : p.rgb.length = 3 * p.width * p.height
  size_le : 3 * p.width * p.height ≤ maxBytes

theorem Readable.whole {p : Picture} (h : Readable p) : p.rgb.length % 3 = 0 := by
  rw [h.length_eq, Nat.mul_assoc, Nat.mul_mod_right]

theorem Readable.fits {p : Picture} (h : Readable p) : fits p.width p.height := by
  have hpad : ∀ n, padding n < 4 := fun n => Nat.mod_lt _ (by decide)
  have hpadding := hpad (3 * p.width)
  have hwidth := h.width_le
  have hheight := h.height_le
  have hsize := h.size_le
  have hrest : p.height * padding (3 * p.width) ≤ p.height * 3 := Nat.mul_le_mul_left _ (by omega)
  have hpixels : pixelBytes p.width p.height =
      3 * p.width * p.height + p.height * padding (3 * p.width) := by
    rw [pixelBytes, Nat.mul_add, Nat.mul_comm p.height]
  have hword : UInt32.size = 4294967296 := rfl
  unfold maxSide at hwidth hheight
  unfold maxBytes at hsize
  simp only [Bitmap.fits, Bool.and_eq_true, decide_eq_true_eq, hpixels, hword]
  omega

def written (p : Picture) : Layout := ⟨54, p.width, p.height, false, 3⟩

/-- The rows as they stand in the file, without their padding. -/
def upward (p : Picture) : List Bytes := (rows p.width p.rgb).reverse

theorem encode_eq (p : Picture) :
    encode p = header p.width p.height ++ ((upward p).map encodeRow).flatten := rfl

theorem Readable.layout?_encode {p : Picture} (h : Readable p) :
    layout? (encode p) = some (written p) :=
  layout?_header h.width_pos h.width_le h.height_pos h.height_le h.size_le _

section Rows

variable {p : Picture} (hpos : 0 < p.width) (hlength : p.rgb.length = 3 * p.width * p.height)

include hpos hlength

theorem rows_eq : rows p.width p.rgb = pieces (3 * p.width) p.height p.rgb := by
  rw [rows, hlength, Nat.mul_div_cancel_left p.height (by omega)]

theorem length_upward : (upward p).length = p.height := by
  rw [upward, List.length_reverse, rows_eq hpos hlength, length_pieces]

theorem length_row {row : Bytes} (hrow : row ∈ upward p) : row.length = 3 * p.width := by
  rw [upward, List.mem_reverse, rows_eq hpos hlength] at hrow
  exact length_of_mem_pieces (by rw [hlength, Nat.mul_comm]) hrow

theorem length_encodedRow : ∀ row ∈ (upward p).map encodeRow, row.length = rowBytes (written p) := by
  intro encoded hencoded
  obtain ⟨row, hrow, rfl⟩ := List.mem_map.mp hencoded
  have hsize := length_row hpos hlength hrow
  rw [length_encodeRow (by omega), hsize]
  rfl

theorem flatten_rows : (rows p.width p.rgb).flatten = p.rgb := by
  rw [rows_eq hpos hlength, flatten_pieces (by rw [hlength, Nat.mul_comm])]

end Rows

/-- A file has no more than its header and its rows, of which there are none if the width is 0. -/
theorem length_encode {p : Picture} (hlength : p.rgb.length = 3 * p.width * p.height) :
    (encode p).length = 54 + pixelBytes p.width p.height := by
  rw [encode_eq, List.length_append, length_header]
  rcases Nat.eq_zero_or_pos p.width with hzero | hpos
  · simp [upward, rows, hzero, pieces, pixelBytes, padding]
  · rw [length_flatten_of_forall (length_encodedRow hpos hlength), List.length_map,
      length_upward hpos hlength]
    rfl

theorem Readable.pixels {p : Picture} (h : Readable p) :
    Bytes.slice? 54 (p.height * rowBytes (written p)) (encode p) =
      some ((upward p).map encodeRow).flatten := by
  have hlength := length_flatten_of_forall (length_encodedRow h.width_pos h.length_eq)
  rw [List.length_map, length_upward h.width_pos h.length_eq] at hlength
  rw [Bytes.slice?_eq_some_iff, encode_eq, List.drop_left' (length_header p.width p.height)]
  exact ⟨(List.take_of_length_le hlength.le).symm, hlength⟩

theorem Readable.decodedRows {p : Picture} (h : Readable p) :
    (pieces (rowBytes (written p)) p.height ((upward p).map encodeRow).flatten).map
      (decodeRow (written p)) = upward p := by
  have hpieces := pieces_flatten (length_encodedRow h.width_pos h.length_eq)
  have hcancel : ∀ row ∈ upward p, decodeRow (written p) (encodeRow row) = row := fun row hrow =>
    decodeRow_encodeRow rfl (length_row h.width_pos h.length_eq hrow)
  rw [List.length_map, length_upward h.width_pos h.length_eq] at hpieces
  rw [hpieces, List.map_map]
  exact (List.map_congr_left hcancel).trans (List.map_id _)

theorem decode?_encode {p : Picture} (h : Readable p) : decode? (encode p) = some p := by
  have hpixels : Bytes.slice? (written p).offset ((written p).height * rowBytes (written p))
      (encode p) = some ((upward p).map encodeRow).flatten := h.pixels
  have hfound : (pieces (rowBytes (written p)) (written p).height
      ((upward p).map encodeRow).flatten).map (decodeRow (written p)) = upward p := h.decodedRows
  have hrgb : (upward p).reverse.flatten = p.rgb := by
    rw [upward, List.reverse_reverse, flatten_rows h.width_pos h.length_eq]
  simp only [decode?, h.layout?_encode, Option.bind_eq_bind, Option.bind_some, hpixels, hfound]
  simp only [written, Bool.false_eq_true, if_false, hrgb, Option.pure_def]

/-! ## Any file -/

end AttestedImaging.Bitmap

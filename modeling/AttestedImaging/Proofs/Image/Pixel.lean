import AttestedImaging.Proofs.Image.Bitmap

/-!
# Where the pixels of a bitmap file stand

The file of a picture has the rows from the bottom to the top, each with its padding, and the three
colours of a pixel in the opposite order.
-/

namespace AttestedImaging.Bitmap

open Grayscale (whole_induction)

theorem getElem?_swap {row : Bytes} (h : row.length % 3 = 0) (i : Nat) {c : Nat} (hc : c < 3) :
    (swap row)[3 * i + (2 - c)]? = row[3 * i + c]? := by
  induction row, h using whole_induction generalizing i with
  | nil => rfl
  | pixel r g b rest hrest ih =>
    cases i with
    | zero => interval_cases c <;> rfl
    | succ i =>
      have hleft : 3 * (i + 1) + (2 - c) = 3 * i + (2 - c) + 3 := by omega
      have hright : 3 * (i + 1) + c = 3 * i + c + 3 := by omega
      rw [hleft, hright]
      exact ih i

theorem getElem?_pieces {size count : Nat} (bytes : Bytes) {j : Nat} (hj : j < count) :
    (pieces size count bytes)[j]? = some ((bytes.drop (j * size)).take size) := by
  induction count generalizing bytes j with
  | zero => omega
  | succ count ih =>
    cases j with
    | zero => simp [pieces]
    | succ j =>
      rw [pieces, List.getElem?_cons_succ, ih _ (by omega), List.drop_drop, Nat.succ_mul, Nat.add_comm]

theorem getElem?_flatten {size : Nat} {rows : List Bytes} (h : ∀ row ∈ rows, row.length = size)
    (j : Nat) {k : Nat} (hk : k < size) : rows.flatten[j * size + k]? = rows[j]?.bind (·[k]?) := by
  induction rows generalizing j with
  | nil => rfl
  | cons row rest ih =>
    obtain ⟨hrow, hrest⟩ := List.forall_mem_cons.mp h
    cases j with
    | zero => simp [List.getElem?_append_left, hrow, hk]
    | succ j =>
      have hindex : (j + 1) * size + k = row.length + (j * size + k) := by
        rw [hrow, Nat.succ_mul]
        omega
      rw [List.flatten_cons, hindex, List.getElem?_append_right (by omega), Nat.add_sub_cancel_left,
        List.getElem?_cons_succ]
      exact ih hrest j

/-- Colour `c` of the pixel in column `i` of row `j`. -/
theorem getElem?_encode {p : Picture} (hlength : p.rgb.length = 3 * p.width * p.height) {i j c : Nat}
    (hi : i < p.width) (hj : j < p.height) (hc : c < 3) :
    (encode p)[54 + (p.height - 1 - j) * (3 * p.width + padding (3 * p.width)) + 3 * i + (2 - c)]? =
      p.rgb[3 * (j * p.width + i) + c]? := by
  have hpos : 0 < p.width := by omega
  have hstride : ∀ row ∈ (upward p).map encodeRow,
      row.length = 3 * p.width + padding (3 * p.width) := length_encodedRow hpos hlength
  -- The bottom row comes first.
  have hrow : (upward p)[p.height - 1 - j]? =
      some ((p.rgb.drop (j * (3 * p.width))).take (3 * p.width)) := by
    have hback : p.height - 1 - (p.height - 1 - j) = j := by omega
    rw [upward, rows_eq hpos hlength, List.getElem?_reverse (by rw [length_pieces]; omega),
      length_pieces, hback, getElem?_pieces _ hj]
  have hsize := length_row hpos hlength (List.mem_of_getElem? hrow)
  have hindex : 54 + (p.height - 1 - j) * (3 * p.width + padding (3 * p.width)) + 3 * i + (2 - c) =
      (header p.width p.height).length +
        ((p.height - 1 - j) * (3 * p.width + padding (3 * p.width)) + (3 * i + (2 - c))) := by
    rw [length_header]
    omega
  rw [encode_eq, hindex, List.getElem?_append_right (by omega), Nat.add_sub_cancel_left,
    getElem?_flatten hstride _ (by omega), List.getElem?_map, hrow, Option.map_some, Option.bind_some,
    encodeRow, List.getElem?_append_left (by rw [length_swap (by omega), hsize]; omega),
    getElem?_swap (by omega) i hc, List.getElem?_take_of_lt (by omega), List.getElem?_drop]
  congr 1
  ring

end AttestedImaging.Bitmap

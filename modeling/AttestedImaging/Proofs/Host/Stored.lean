import AttestedImaging.Proofs.Host.Run
import AttestedImaging.Proofs.Image.File
import AttestedImaging.Proofs.Image.Pixel

/-!
# Pictures in a directory

A picture that is stored as a bitmap is loaded again as it was. One with too few bytes is refused, and of one
with too many the first ones are written.
-/

namespace AttestedImaging.Host

open Bitmap (Readable)
open ImageFile (Format NamesBitmap trimmed)
open Program (Runs stop writeGray)

namespace Directory

theorem exists_write? {path name : String} (hname : fileName? path = some name) (contents : Bytes)
    (d : Directory) : ∃ d', d.write? path contents = some d' ∧ d'.read path = some contents ∧
      ∀ other, fileName? other ≠ some name → d'.read other = d.read other := by
  refine ⟨d.put name contents, by simp [write?, hname], by simp [read, hname, Assoc.get?_put], ?_⟩
  intro other hother
  rcases h : fileName? other with _ | name'
  · simp [read, h]
  · have hne : name ≠ name' := by
      rintro rfl
      exact hother h
    simp [read, h, Assoc.get?_put, hne]

theorem store_readable {p : Picture} {path name : String} (hformat : Format.ofPath? path = some .bitmap)
    (hname : fileName? path = some name) (h : Readable p) :
    Directory.store path p = .ok (Bitmap.encode p) := by
  simp [Directory.store, ImageFile.store_bitmap hformat h, hname, bind, Except.bind, pure, Except.pure]

/-- A picture that is stored as a bitmap is loaded as it was, and no other file is touched. -/
theorem stored_loads {p : Picture} (hwidth : 1 ≤ p.width ∧ p.width ≤ 65535)
    (hheight : 1 ≤ p.height ∧ p.height ≤ 65535) (hlength : p.rgb.length = 3 * p.width * p.height)
    (hsize : p.rgb.length ≤ 512 * 1024 * 1024) {path : String} (hpath : NamesBitmap path) :
    ∃ file, ImageFile.store path p = .ok ⟨file, true⟩ ∧
      (∀ path', NamesBitmap path' → ImageFile.load path' (some file) = .ok p) ∧
      ∀ (d : Directory) name, fileName? path = some name →
        Directory.store path p = .ok file ∧ ∃ d', d.write? path file = some d' ∧
          ImageFile.load path (d'.read path) = .ok p ∧
          ∀ other, fileName? other ≠ some name → d'.read other = d.read other := by
  have h : Readable p := ⟨hwidth.1, hwidth.2, hheight.1, hheight.2, hlength, hlength ▸ hsize⟩
  refine ⟨_, ImageFile.store_bitmap hpath.ofPath? h,
    fun path' hpath' => ImageFile.load_encode hpath'.ofPath? h, fun d name hname => ?_⟩
  obtain ⟨d', hwrite, hread, hothers⟩ := exists_write? hname (Bitmap.encode p) d
  refine ⟨store_readable hpath.ofPath? hname h, d', hwrite, ?_, hothers⟩
  rw [hread, ImageFile.load_encode hpath.ofPath? h]

/-- Rows of nine bytes, which are padded by three, in a file that is there already. -/
theorem stored_loads_padded :
    let p : Picture := ⟨3, 2, [1, 2, 3, 4, 5, 6, 7, 8, 9, 10, 11, 12, 13, 14, 15, 16, 17, 18]⟩
    let d : Directory := [("gray.BMP", [0]), ("in.bmp", [1])]
    ∃ file d', Directory.store "./gray.BMP" p = .ok file ∧ d.write? "./gray.BMP" file = some d' ∧
      ImageFile.load "./gray.BMP" (d'.read "./gray.BMP") = .ok p ∧
      d'.read "in.bmp" = d.read "in.bmp" := by
  intro p d
  have hpath : NamesBitmap "./gray.BMP" :=
    ⟨['.', '/'], "gray".toList, "BMP".toList, rfl, .inr rfl, by decide, by decide, by decide⟩
  have hname : fileName? "./gray.BMP" = some "gray.BMP" ∧ fileName? "in.bmp" = some "in.bmp" := by
    simp only [fileName?, ImageFile.components_eq, show "/" = String.ofList ['/'] from rfl,
      Text.splitOn_eq]
    decide +kernel
  obtain ⟨file, -, -, hstored⟩ := stored_loads (p := p) (by decide) (by decide) rfl (by decide) hpath
  obtain ⟨hstore, d', hwrite, hload, hothers⟩ := hstored d "gray.BMP" hname.1
  refine ⟨file, d', hstore, hwrite, hload, hothers "in.bmp" ?_⟩
  rw [hname.2]
  decide

end Directory

/-! ## Pictures with another number of bytes -/

theorem index_lt {width height i j c : Nat} (hi : i < width) (hj : j < height) (hc : c < 3) :
    3 * (j * width + i) + c < 3 * width * height := by
  have hrow : j * width + i < height * width := by
    calc j * width + i < j * width + width := by omega
      _ = (j + 1) * width := (Nat.succ_mul j width).symm
      _ ≤ height * width := Nat.mul_le_mul_right width hj
  calc 3 * (j * width + i) + c < 3 * (height * width) := by omega
    _ = 3 * width * height := by ring

theorem getElem?_stored {path : String} {p : Picture} {contents : Bytes}
    (h : ImageFile.store path p = .ok ⟨contents, true⟩) {i j c : Nat} (hi : i < p.width)
    (hj : j < p.height) (hc : c < 3) :
    contents[54 + (p.height - 1 - j) * (3 * p.width + Bitmap.padding (3 * p.width)) + 3 * i + (2 - c)]? =
      p.rgb[3 * (j * p.width + i) + c]? := by
  obtain ⟨hle, -, rfl⟩ := ImageFile.store_complete h
  have hpixel := Bitmap.getElem?_encode (ImageFile.length_trimmed hle) hi hj hc
  have hfirst : (trimmed p).rgb[3 * (j * p.width + i) + c]? = p.rgb[3 * (j * p.width + i) + c]? :=
    List.getElem?_take_of_lt (index_lt hi hj hc)
  exact hpixel.trans hfirst

/-- Only a picture with too few bytes is refused for its size. One with too many is stored as if it ended
where its sides say. -/
theorem store_sizes (path : String) (p : Picture) :
    (∀ actual width height, ImageFile.store path p = .error (.sizeMismatch actual width height) ↔
      p.rgb.length < 3 * p.width * p.height ∧
        actual = p.rgb.length ∧ width = p.width ∧ height = p.height) ∧
    (p.rgb.length < 3 * p.width * p.height → ∀ filter ending d o,
      Runs (writeGray filter (some path) p ending) d o ↔ Runs (ending (stop
        (ImageFile.Fault.sizeMismatch p.rgb.length p.width p.height).message)) d o) ∧
    (3 * p.width * p.height ≤ p.rgb.length → ImageFile.store path (trimmed p) = ImageFile.store path p) ∧
    ∀ contents, ImageFile.store path p = .ok ⟨contents, true⟩ →
      contents.length = 54 + Bitmap.pixelBytes p.width p.height ∧
      (∀ i j c, i < p.width → j < p.height → c < 3 →
        contents[54 + (p.height - 1 - j) * (3 * p.width + Bitmap.padding (3 * p.width)) + 3 * i +
          (2 - c)]? = p.rgb[3 * (j * p.width + i) + c]?) ∧
      (Readable (trimmed p) → ImageFile.load path (some contents) = .ok (trimmed p)) := by
  refine ⟨fun _ _ _ => ImageFile.store_sizeMismatch_iff, ?_, ImageFile.store_trimmed path, ?_⟩
  · intro hlt filter ending d o
    rw [writeGray, ImageFile.store_of_lt path hlt]
  · intro contents hstore
    obtain ⟨hle, hformat, hcontents⟩ := ImageFile.store_complete hstore
    refine ⟨?_, fun i j c => getElem?_stored hstore, fun hreadable => ?_⟩
    · rw [hcontents]
      exact Bitmap.length_encode (ImageFile.length_trimmed hle)
    · rw [hcontents, ImageFile.load_encode hformat hreadable]

/-- Five bytes for two pixels, and six bytes for one. -/
theorem store_sizes_other :
    let short : Picture := ⟨2, 1, [1, 2, 3, 4, 5]⟩
    let long : Picture := ⟨1, 1, [1, 2, 3, 4, 5, 6]⟩
    ImageFile.store "gray.bmp" short = .error (.sizeMismatch 5 2 1) ∧
      (∃ o, Runs (writeGray LogFilter.default (some "gray.bmp") short id) [] o ∧ o.exitCode = 1 ∧
        o.directory = []) ∧
      ∃ contents, ImageFile.store "gray.bmp" long = .ok ⟨contents, true⟩ ∧ contents.length = 58 ∧
        contents[56]? = some 1 ∧ ImageFile.load "gray.bmp" (some contents) = .ok ⟨1, 1, [1, 2, 3]⟩ := by
  intro short long
  have hformat : Format.ofPath? "gray.bmp" = some .bitmap :=
    NamesBitmap.ofPath? ⟨[], "gray".toList, "bmp".toList, rfl, .inl rfl, by decide, by decide, by decide⟩
  have hreadable : Readable (trimmed long) := by constructor <;> decide
  obtain ⟨hmismatch, hstops, -, -⟩ := store_sizes "gray.bmp" short
  obtain ⟨-, -, htrimmed, hcomplete⟩ := store_sizes "gray.bmp" long
  have hstore : ImageFile.store "gray.bmp" long = .ok ⟨Bitmap.encode (trimmed long), true⟩ :=
    (htrimmed (by decide)).symm.trans (ImageFile.store_bitmap hformat hreadable)
  obtain ⟨hlength, hpixels, hload⟩ := hcomplete _ hstore
  have hruns := (hstops (by decide) LogFilter.default id [] _).mpr (.done 1 _ [])
  exact ⟨(hmismatch 5 2 1).mpr (by decide), ⟨_, hruns, rfl, rfl⟩, _, hstore, hlength,
    hpixels 0 0 0 (by decide) (by decide) (by decide), hload hreadable⟩

/-- Of six bytes for a single pixel the file has the first three. -/
theorem surplus_stored :
    let p : Picture := ⟨1, 1, [1, 2, 3, 4, 5, 6]⟩
    p.rgb.length ≠ 3 * p.width * p.height ∧
      ∃ contents, ImageFile.store "a.bmp" p = .ok ⟨contents, true⟩ ∧
        contents.drop 54 = [3, 2, 1, 0] ∧
        ImageFile.load "a.bmp" (some contents) = .ok ⟨1, 1, [1, 2, 3]⟩ := by
  intro p
  have hformat : Format.ofPath? "a.bmp" = some .bitmap :=
    NamesBitmap.ofPath? ⟨[], ['a'], "bmp".toList, rfl, .inl rfl, by decide, by decide, by decide⟩
  have hreadable : Readable (trimmed p) := by constructor <;> decide
  have hstore : ImageFile.store "a.bmp" p = .ok ⟨Bitmap.encode (trimmed p), true⟩ := by
    rw [← ImageFile.store_trimmed "a.bmp" (by decide)]
    exact ImageFile.store_bitmap hformat hreadable
  exact ⟨by decide, _, hstore, by decide +kernel, ImageFile.load_encode hformat hreadable⟩

end AttestedImaging.Host

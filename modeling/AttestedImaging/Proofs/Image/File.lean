import AttestedImaging.Image.File
import AttestedImaging.Proofs.Image.Bitmap
import AttestedImaging.Proofs.Text.Split

/-!
# Image files, written and loaded

A picture that is stored under a path with the extension of a bitmap is what is loaded from it.
-/

namespace AttestedImaging.ImageFile

open Bitmap (Readable)

/-! ## Paths -/

theorem components_eq (path : String) : components path =
    ((path.toList.splitOn '/').map String.ofList).filter fun name => name ≠ "" && name ≠ "." := by
  rw [components]
  exact congrArg (List.filter _) (Text.splitOn_eq path '/')

/-- The last name of the path is something, a dot, and `bmp` in either case. -/
def NamesBitmap (path : String) : Prop :=
  ∃ front stem extension : List Char, path.toList = front ++ (stem ++ '.' :: extension) ∧
    (front = [] ∨ front.getLast? = some '/') ∧ stem ≠ [] ∧ '/' ∉ stem ∧
    extension.map Char.toLower = ['b', 'm', 'p']

theorem extensionOf?_append {stem extension : List Char} (hstem : stem ≠ []) (hdot : '.' ∉ extension) :
    extensionOf? (stem ++ '.' :: extension) = some extension := by
  obtain ⟨c, rest, hrest⟩ := List.exists_cons_of_ne_nil (List.reverse_ne_nil_iff.mpr hstem)
  have hreverse : (stem ++ '.' :: extension).reverse = extension.reverse ++ '.' :: c :: rest := by
    simp [hrest]
  have hlast : (extension.reverse ++ '.' :: c :: rest).takeWhile (· ≠ '.') = extension.reverse := by
    rw [List.takeWhile_append_of_pos (by simpa using fun c hc => ne_of_mem_of_not_mem hc hdot)]
    simp
  simp only [extensionOf?, hreverse, hlast, List.drop_left, List.reverse_reverse]

theorem splitOn_front {front name : List Char} (hfront : front = [] ∨ front.getLast? = some '/')
    (hslash : '/' ∉ name) : ∃ parts, (front ++ name).splitOn '/' = parts ++ [name] := by
  rcases hfront with rfl | hfront
  · exact ⟨[], List.splitOn_eq_singleton hslash⟩
  · obtain ⟨before, rfl⟩ := List.getLast?_eq_some_iff.mp hfront
    refine ⟨before.splitOn '/', ?_⟩
    rw [List.append_assoc, List.singleton_append, List.splitOn_append_cons_self,
      List.splitOn_eq_singleton hslash]

theorem NamesBitmap.ofPath? {path : String} (h : NamesBitmap path) :
    Format.ofPath? path = some .bitmap := by
  obtain ⟨front, stem, extension, hpath, hfront, hstem, hslash, hext⟩ := h
  have hnot : ∀ c, c.toLower ∉ ['b', 'm', 'p'] → c ∉ extension := by
    intro c hc hmem
    rw [← hext] at hc
    exact hc (List.mem_map_of_mem hmem)
  have hlength : extension.length = 3 := by simpa using congrArg List.length hext
  have hextension := extensionOf?_append hstem (hnot '.' (by decide))
  have hslash' : '/' ∉ stem ++ '.' :: extension := by simp [hslash, hnot '/' (by decide)]
  -- The name is too long for those that are left out or stand for the directory above.
  have hlong : ∀ text : String, text.toList.length < 4 →
      String.ofList (stem ++ '.' :: extension) ≠ text := by
    rintro text hshort rfl
    simp [hlength] at hshort
  generalize stem ++ '.' :: extension = name at *
  obtain ⟨parts, hparts⟩ := splitOn_front hfront hslash'
  have hcomponents : (components path).getLast? = some (.ofList name) := by
    rw [components_eq, hpath, hparts, List.map_append, List.filter_append]
    simp [hlong "" (by decide), hlong "." (by decide)]
  simp only [Format.ofPath?, hcomponents, Option.bind_eq_bind, Option.bind_some, guard,
    if_pos (hlong ".." (by decide)), String.toList_ofList, hextension, hext]
  rfl

/-! ## Contents -/

theorem load_ok_iff {path : String} {contents : Option Bytes} {p : Picture} :
    load path contents = .ok p ↔
      Format.ofPath? path = some .bitmap ∧ contents.bind Bitmap.decode? = some p := by
  unfold load
  split
  · rename_i picture hformat hcontents
    simp [hformat, hcontents]
  · rename_i hother
    constructor
    · intro h
      cases h
    · rintro ⟨hformat, hcontents⟩
      exact absurd hcontents (hother p hformat)

/-- The picture with no more bytes than its sides say. -/
def trimmed (p : Picture) : Picture := { p with rgb := p.rgb.take (3 * p.width * p.height) }

theorem length_trimmed {p : Picture} (h : 3 * p.width * p.height ≤ p.rgb.length) :
    (trimmed p).rgb.length = 3 * p.width * p.height := by
  rw [trimmed, List.length_take]
  omega

theorem store_of_lt {p : Picture} (path : String) (h : p.rgb.length < 3 * p.width * p.height) :
    store path p = .error (.sizeMismatch p.rgb.length p.width p.height) := by
  rw [store, if_pos h]

theorem store_cases {p : Picture} (path : String) (h : 3 * p.width * p.height ≤ p.rgb.length) :
    (Format.ofPath? path = some .bitmap ∧ store path p = .ok ⟨Bitmap.encode (trimmed p), true⟩) ∨
      store path p = .ok ⟨[], false⟩ ∨ store path p = .error (.unwritable path) := by
  rw [store, if_neg (by omega)]
  split
  · next hformat =>
    split
    · exact .inl ⟨hformat, rfl⟩
    · exact .inr (.inl rfl)
  · exact .inr (.inl rfl)
  · exact .inr (.inr rfl)

theorem store_trimmed {p : Picture} (path : String) (h : 3 * p.width * p.height ≤ p.rgb.length) :
    store path (trimmed p) = store path p := by
  have hlength : ¬ (p.rgb.take (3 * p.width * p.height)).length < 3 * p.width * p.height :=
    (length_trimmed h).not_lt
  simp only [store, trimmed, if_neg hlength, if_neg h.not_gt, List.take_take, Nat.min_self]

theorem store_sizeMismatch_iff {path : String} {p : Picture} {actual width height : Nat} :
    store path p = .error (.sizeMismatch actual width height) ↔
      p.rgb.length < 3 * p.width * p.height ∧
        actual = p.rgb.length ∧ width = p.width ∧ height = p.height := by
  rcases Nat.lt_or_ge p.rgb.length (3 * p.width * p.height) with h | h
  · simp [store_of_lt path h, h, eq_comm]
  · obtain ⟨-, hstore⟩ | hstore | hstore := store_cases path h <;> simp [hstore, h]

theorem store_complete {path : String} {p : Picture} {contents : Bytes}
    (h : store path p = .ok ⟨contents, true⟩) : 3 * p.width * p.height ≤ p.rgb.length ∧
      Format.ofPath? path = some .bitmap ∧ contents = Bitmap.encode (trimmed p) := by
  rcases Nat.lt_or_ge p.rgb.length (3 * p.width * p.height) with hlt | hle
  · rw [store_of_lt path hlt] at h
    cases h
  · obtain ⟨hformat, hstore⟩ | hstore | hstore := store_cases path hle
    · rw [hstore] at h
      cases h
      exact ⟨hle, hformat, rfl⟩
    all_goals
      rw [hstore] at h
      cases h

theorem store_bitmap {path : String} {p : Picture} (hformat : Format.ofPath? path = some .bitmap)
    (h : Readable p) : store path p = .ok ⟨Bitmap.encode p, true⟩ := by
  have hshort : ¬ p.rgb.length < 3 * p.width * p.height := by rw [h.length_eq]; omega
  have htake : p.rgb.take (3 * p.width * p.height) = p.rgb := by rw [← h.length_eq, List.take_length]
  simp only [store, if_neg hshort, hformat, h.fits, if_true, htake]

theorem load_encode {path : String} {p : Picture} (hformat : Format.ofPath? path = some .bitmap)
    (h : Readable p) : load path (some (Bitmap.encode p)) = .ok p := by
  have hcontents : (some (Bitmap.encode p)).bind Bitmap.decode? = some p := by
    rw [Option.bind_some, Bitmap.decode?_encode h]
  exact load_ok_iff.mpr ⟨hformat, hcontents⟩

end AttestedImaging.ImageFile

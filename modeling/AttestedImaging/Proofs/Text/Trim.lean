import AttestedImaging.Text.Blank
import Mathlib.Data.List.DropRight

/-!
# Trimming

Trimming takes the white space off both ends of a text, as far as it goes.
-/

namespace AttestedImaging.Text

variable {before core after text : List Char}

/-- What is left of a text when the white space is cut off at both ends. -/
structure Trimmed (text core : List Char) : Prop where
  cut : ∃ before after, text = before ++ core ++ after ∧ (∀ c ∈ before, isBlank c = true) ∧
    ∀ c ∈ after, isBlank c = true
  head : ∀ c ∈ core.head?, isBlank c = false
  last : ∀ c ∈ core.getLast?, isBlank c = false

theorem Trimmed.of_append (hbefore : ∀ c ∈ before, isBlank c = true)
    (hafter : ∀ c ∈ after, isBlank c = true) (hcore : ∀ c ∈ core, isBlank c = false) :
    Trimmed (before ++ core ++ after) core :=
  ⟨⟨before, after, rfl, hbefore, hafter⟩, fun c hc => hcore c (List.mem_of_mem_head? hc),
    fun c hc => hcore c (List.mem_of_mem_getLast? hc)⟩

theorem trim_eq_rdropWhile (text : List Char) :
    trim text = (text.dropWhile isBlank).rdropWhile isBlank := rfl

theorem dropWhile_append_of_head? (hbefore : ∀ c ∈ before, isBlank c = true)
    (hcore : ∀ c ∈ core.head?, isBlank c = false) : (before ++ core).dropWhile isBlank = core := by
  rw [List.dropWhile_append_of_pos hbefore]
  cases core with
  | nil => rfl
  | cons c rest => exact List.dropWhile_cons_of_neg (by simp [hcore c rfl])

theorem rdropWhile_append_of_getLast? (hafter : ∀ c ∈ after, isBlank c = true)
    (hcore : ∀ c ∈ core.getLast?, isBlank c = false) : (core ++ after).rdropWhile isBlank = core := by
  have hdrop : (after.reverse ++ core.reverse).dropWhile isBlank = core.reverse :=
    dropWhile_append_of_head? (by simpa using hafter) (by simpa using hcore)
  rw [List.rdropWhile, List.reverse_append, hdrop, List.reverse_reverse]

theorem Trimmed.trim_eq (h : Trimmed text core) : trim text = core := by
  obtain ⟨before, after, rfl, hbefore, hafter⟩ := h.cut
  rw [trim_eq_rdropWhile]
  cases core with
  | nil =>
    -- Nothing tells the two ends apart, and the front takes everything.
    have hall : (before ++ [] ++ after).dropWhile isBlank = [] := by
      rw [List.append_nil, List.dropWhile_eq_nil_iff]
      exact fun c hc => (List.mem_append.mp hc).elim (hbefore c) (hafter c)
    rw [hall, List.rdropWhile_nil]
  | cons c rest =>
    have hfront : (before ++ (c :: rest ++ after)).dropWhile isBlank = c :: rest ++ after :=
      dropWhile_append_of_head? hbefore fun d hd => h.head d hd
    rw [List.append_assoc, hfront, rdropWhile_append_of_getLast? hafter h.last]

theorem isBlank_head?_dropWhile (text : List Char) :
    ∀ c ∈ (text.dropWhile isBlank).head?, isBlank c = false := by
  intro c hc
  have hnot := List.head?_dropWhile_not isBlank text
  rw [hc] at hnot
  exact hnot

theorem trimmed_trim (text : List Char) : Trimmed text (trim text) where
  cut := by
    refine ⟨text.takeWhile isBlank, (text.dropWhile isBlank).rtakeWhile isBlank, ?_,
      fun c => List.mem_takeWhile_imp, fun c => List.mem_rtakeWhile_imp⟩
    rw [trim_eq_rdropWhile, List.append_assoc, List.rdropWhile_append_rtakeWhile,
      List.takeWhile_append_dropWhile]
  head := by
    intro c hc
    -- Cutting off the end leaves the first character where it is.
    obtain ⟨rest, hrest⟩ := List.head?_eq_some_iff.mp hc
    obtain ⟨tail, htail⟩ := List.rdropWhile_prefix isBlank (l := text.dropWhile isBlank)
    refine isBlank_head?_dropWhile text c ?_
    rw [← htail, ← trim_eq_rdropWhile, hrest]
    rfl
  last := by
    intro c hc
    rw [trim, List.getLast?_reverse] at hc
    exact isBlank_head?_dropWhile _ c hc

theorem trim_eq_iff : trim text = core ↔ Trimmed text core :=
  ⟨fun h => h ▸ trimmed_trim text, Trimmed.trim_eq⟩

end AttestedImaging.Text

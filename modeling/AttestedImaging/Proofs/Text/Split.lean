import Mathlib

/-!
# Splitting texts

A text that is split at a character has as its parts those of its list of characters.
-/

namespace AttestedImaging.Text

open String (utf8Len)

/-- What is left to do after some parts have been found, and some characters of the current part. -/
theorem splitOnAux_of_valid (c : Char) (before current rest : List Char) (found : List String) :
    String.splitOnAux (.ofList (before ++ current ++ rest)) (.ofList [c]) ⟨utf8Len before⟩
        ⟨utf8Len before + utf8Len current⟩ 0 found =
      found.reverse ++ (List.splitOnPPrepend (· == c) rest current.reverse).map String.ofList := by
  induction rest generalizing before current found with
  | nil =>
    have hend := String.atEnd_of_valid (before ++ current) []
    have hlast := String.extract_of_valid before current []
    rw [String.utf8Len_append] at hend
    rw [String.splitOnAux, if_pos (hend.mpr rfl), hlast]
    simp
  | cons d rest ih =>
    have hend := String.atEnd_of_valid (before ++ current) (d :: rest)
    have hget := String.get_of_valid (before ++ current) (d :: rest)
    have hnext := String.next_of_valid (before ++ current) d rest
    have hpart := String.extract_of_valid before current (d :: rest)
    rw [String.utf8Len_append] at hend hget hnext
    -- The separator is a single character, so it is past its end as soon as that has been found.
    have hsep : String.Pos.Raw.get (.ofList [c]) 0 = c := String.get_of_valid [] [c]
    have hpast : String.Pos.Raw.next (.ofList [c]) 0 = ⟨c.utf8Size⟩ := by
      simpa using String.next_of_valid [] c []
    have hover : String.Pos.Raw.atEnd (.ofList [c]) ⟨c.utf8Size⟩ := by
      simpa using (String.atEnd_of_valid [c] []).mpr rfl
    rw [String.splitOnAux, if_neg (by rw [hend]; simp)]
    simp only [hget, hnext, hsep, hpast, hover, if_true, List.headD_cons]
    by_cases hd : d = c
    · subst hd
      have hcut : (String.Pos.Raw.mk (utf8Len before + utf8Len current + d.utf8Size)).unoffsetBy
          ⟨d.utf8Size⟩ = ⟨utf8Len before + utf8Len current⟩ := by
        simp [String.Pos.Raw.unoffsetBy]
      have hrest := ih (before ++ current ++ [d]) [] (String.ofList current :: found)
      simp only [List.append_assoc, String.utf8Len_append, String.utf8Len_cons, String.utf8Len_nil]
        at hrest
      rw [if_pos (beq_self_eq_true d), hcut, hpart]
      simpa [List.splitOnPPrepend_cons_eq_if, Nat.add_assoc] using hrest
    · have hstay : (String.Pos.Raw.mk (utf8Len before + utf8Len current)).unoffsetBy 0 =
          ⟨utf8Len before + utf8Len current⟩ := rfl
      have hrest := ih before (current ++ [d]) found
      rw [if_neg (by simpa using hd), hstay, hnext]
      simpa [List.splitOnPPrepend_cons_eq_if, hd, Nat.add_assoc] using hrest

theorem splitOn_eq (text : String) (c : Char) :
    text.splitOn (.ofList [c]) = (text.toList.splitOn c).map String.ofList := by
  have hparts := splitOnAux_of_valid c [] [] text.toList []
  have hnonempty : (String.ofList [c] == "") = false := by simp
  rw [String.splitOn, hnonempty]
  simpa [List.splitOn] using hparts

end AttestedImaging.Text

import CloudCensus.Text.Utf8
import Mathlib.Data.List.Lex
import Mathlib.Data.String.Basic

namespace CloudCensus.Utf8

/-- Of two characters the lesser one has the lesser code, whatever follows either. -/
theorem encodeChar_append_lt (c d : Char) (less : c < d) (after later : List Nat) :
    encodeChar c ++ after < encodeChar d ++ later := by
  have below : c.toNat < d.toNat := less
  simp only [encodeChar]
  split_ifs <;> simp only [List.cons_append, List.nil_append, List.cons_lt_cons_iff] <;> omega

theorem encodeChar_ne_nil (c : Char) : encodeChar c ≠ [] := by
  rw [encodeChar]
  split_ifs <;> exact List.cons_ne_nil _ _

theorem flatMap_encodeChar_lt {cs ds : List Char} (less : cs < ds) :
    cs.flatMap encodeChar < ds.flatMap encodeChar := by
  induction less with
  | nil =>
      rename_i d ds
      rw [List.flatMap_nil, List.flatMap_cons]
      obtain ⟨b, bytes, split⟩ := List.exists_cons_of_ne_nil (encodeChar_ne_nil d)
      rw [split, List.cons_append]
      exact .nil
  | rel less =>
      rw [List.flatMap_cons, List.flatMap_cons]
      exact encodeChar_append_lt _ _ less _ _
  | cons _ ih =>
      rw [List.flatMap_cons, List.flatMap_cons]
      exact List.Lex.append_left _ ih _

/-- Texts stand in the order of their bytes. -/
theorem encode_lt_encode_iff (s t : String) : encode s < encode t ↔ s < t := by
  have mono : StrictMono encode := fun _ _ less =>
    flatMap_encodeChar_lt (String.lt_iff_toList_lt.mp less)
  exact mono.lt_iff_lt

end CloudCensus.Utf8

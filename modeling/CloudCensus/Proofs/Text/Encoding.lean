import CloudCensus.Proofs.Text.Utf8
import Mathlib.Tactic.IntervalCases

/-!
Encoded texts are read back.

The first byte of a character announces the bytes after it and the range of the second one, which keeps out
the characters with a shorter code and those that do not exist.
-/

namespace CloudCensus.Utf8

theorem follow_bits (more low high bits n : Nat) (bytes : List Nat)
    (within : low ≤ 0x80 + n % 64 ∧ 0x80 + n % 64 ≤ high) :
    follow (more + 1) low high bits ((0x80 + n % 64) :: bytes) =
      follow more 0x80 0xbf (bits * 64 + n % 64) bytes := by
  have same : (0x80 + n % 64) % 64 = n % 64 := by omega
  rw [follow, if_pos within, same]

theorem follow_tail (more bits n : Nat) (bytes : List Nat) :
    follow (more + 1) 0x80 0xbf bits ((0x80 + n % 64) :: bytes) =
      follow more 0x80 0xbf (bits * 64 + n % 64) bytes :=
  follow_bits more 0x80 0xbf bits n bytes (by omega)

theorem follow_zero (low high bits : Nat) (bytes : List Nat) :
    follow 0 low high bits bytes = (some bits, bytes) := rfl

/-! What a first byte announces that holds the first bits of a character. -/

theorem lead?_two (k : Nat) (least : 2 ≤ k) (most : k ≤ 31) :
    lead? (0xc0 + k) = some ⟨1, 0x80, 0xbf, k⟩ := by
  rw [lead?, if_pos (by omega), Nat.add_sub_cancel_left]

theorem lead?_three (k : Nat) (most : k ≤ 15) :
    lead? (0xe0 + k) = some ⟨2, if k = 0 then 0xa0 else 0x80, if k = 13 then 0x9f else 0xbf, k⟩ := by
  interval_cases k <;> rfl

theorem lead?_four (k : Nat) (most : k ≤ 4) :
    lead? (0xf0 + k) = some ⟨3, if k = 0 then 0x90 else 0x80, if k = 4 then 0x8f else 0xbf, k⟩ := by
  interval_cases k <;> rfl

/-- Reading the code of a character gives the character, whatever follows it. -/
theorem next_encodeChar (c : Char) (rest : List Nat) :
    ∃ b bytes, encodeChar c ++ rest = b :: bytes ∧ next b bytes = (some c, rest) := by
  have exists_ : c.toNat < 0xd800 ∨ 0xdfff < c.toNat ∧ c.toNat < 0x110000 := c.valid
  rw [encodeChar]
  by_cases one : c.toNat < 0x80
  · refine ⟨c.toNat, rest, by simp [one], ?_⟩
    rw [next, if_pos one, Char.ofNat_toNat]
  · by_cases two : c.toNat < 0x800
    · refine ⟨0xc0 + c.toNat / 64, [0x80 + c.toNat % 64] ++ rest, by simp [one, two], ?_⟩
      have code : c.toNat / 64 * 64 + c.toNat % 64 = c.toNat := Nat.div_add_mod' _ _
      rw [next, if_neg (by omega), lead?_two _ (by omega) (by omega)]
      simp only [List.cons_append, List.nil_append, follow_tail, follow_zero, code, Option.map_some,
        Char.ofNat_toNat]
    · by_cases three : c.toNat < 0x10000
      · refine ⟨0xe0 + c.toNat / 4096, [0x80 + c.toNat / 64 % 64, 0x80 + c.toNat % 64] ++ rest,
          by simp [one, two, three], ?_⟩
        have code : (c.toNat / 4096 * 64 + c.toNat / 64 % 64) * 64 + c.toNat % 64 = c.toNat := by omega
        have second : (if c.toNat / 4096 = 0 then 0xa0 else 0x80) ≤ 0x80 + c.toNat / 64 % 64 ∧
            0x80 + c.toNat / 64 % 64 ≤ if c.toNat / 4096 = 13 then 0x9f else 0xbf := by
          constructor
          · split <;> omega
          · split <;> omega
        rw [next, if_neg (by omega), lead?_three _ (by omega)]
        simp only [List.cons_append, List.nil_append, follow_bits _ _ _ _ _ _ second, follow_tail,
          follow_zero, code, Option.map_some, Char.ofNat_toNat]
      · refine ⟨0xf0 + c.toNat / 262144,
          [0x80 + c.toNat / 4096 % 64, 0x80 + c.toNat / 64 % 64, 0x80 + c.toNat % 64] ++ rest,
          by simp [one, two, three], ?_⟩
        have code : ((c.toNat / 262144 * 64 + c.toNat / 4096 % 64) * 64 + c.toNat / 64 % 64) * 64 +
            c.toNat % 64 = c.toNat := by omega
        have second : (if c.toNat / 262144 = 0 then 0x90 else 0x80) ≤ 0x80 + c.toNat / 4096 % 64 ∧
            0x80 + c.toNat / 4096 % 64 ≤ if c.toNat / 262144 = 4 then 0x8f else 0xbf := by
          constructor
          · split <;> omega
          · split <;> omega
        rw [next, if_neg (by omega), lead?_four _ (by omega)]
        simp only [List.cons_append, List.nil_append, follow_bits _ _ _ _ _ _ second, follow_tail,
          follow_zero, code, Option.map_some, Char.ofNat_toNat]

theorem pieces_flatMap (cs : List Char) (fuel : Nat) (enough : (cs.flatMap encodeChar).length ≤ fuel) :
    pieces fuel (cs.flatMap encodeChar) = cs.map some := by
  induction cs generalizing fuel with
  | nil => cases fuel <;> rfl
  | cons c cs ih =>
      obtain ⟨b, bytes, whole, first⟩ := next_encodeChar c (cs.flatMap encodeChar)
      have lengths := congrArg List.length whole
      have some_ : 0 < (encodeChar c).length := List.length_pos_iff.mpr (encodeChar_ne_nil c)
      rw [List.length_append, List.length_cons] at lengths
      rw [List.flatMap_cons, whole] at enough ⊢
      cases fuel with
      | zero => cases enough
      | succ fuel =>
          rw [List.length_cons] at enough
          rw [pieces, first, List.map_cons, ← ih fuel (by omega)]

theorem text?_encode (s : String) : text? (encode s) = some s := by
  have characters : decode (encode s) = s.toList.map some := pieces_flatMap s.toList _ (Nat.le_refl _)
  have kept : (s.toList.map some).mapM id = some s.toList := by
    rw [List.mapM_map]
    exact List.mapM_pure.trans (congrArg some (List.map_id _))
  rw [text?, characters, kept, Option.map_some, String.ofList_toList]

end CloudCensus.Utf8

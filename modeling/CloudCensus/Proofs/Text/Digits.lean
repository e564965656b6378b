import CloudCensus.Text.Blank
import CloudCensus.Text.Digits
import Mathlib.Data.List.Induction
import Mathlib.Data.Nat.Digits.Defs

namespace CloudCensus

/-- The characters are digits with the given values. -/
def Spell (cs : List Char) (ds : List Nat) : Prop := cs.map digit? = ds.map some

def Stops (cs : List Char) : Prop := ∀ c ∈ cs.head?, digit? c = none

theorem digit?_digitChar {d : Nat} (small : d < 10) : digit? d.digitChar = some d := by
  revert d
  decide

theorem digit?_bounds {c : Char} {d : Nat} (digit : digit? c = some d) :
    c.toNat = 48 + d ∧ d < 10 := by
  rw [digit?] at digit
  split at digit
  · rename_i range
    obtain ⟨low, high⟩ := range
    obtain rfl := Option.some.inj digit
    have lowNat : 48 ≤ c.toNat := low
    have highNat : c.toNat ≤ 57 := high
    have zero : '0'.toNat = 48 := rfl
    omega
  · cases digit

theorem not_blank_of_digit {c : Char} {d : Nat} (digit : digit? c = some d) : isBlank c = false := by
  obtain ⟨value, small⟩ := digit?_bounds digit
  simp only [isBlank, value, Bool.or_eq_false_iff, Bool.and_eq_false_iff, decide_eq_false_iff_not]
  omega

theorem ofDigits_concat (ds : List Nat) (d : Nat) :
    ofDigits 10 (ds ++ [d]) = ofDigits 10 ds * 10 + d := by
  simp [ofDigits]

theorem ofDigits_zeros (n : Nat) (ds : List Nat) :
    ofDigits 10 (List.replicate n 0 ++ ds) = ofDigits 10 ds := by
  induction n with
  | zero => rfl
  | succ n ih => exact ih

theorem ofDigits_lt (ds : List Nat) (small : ∀ d ∈ ds, d < 10) : ofDigits 10 ds < 10 ^ ds.length := by
  induction ds using List.reverseRecOn with
  | nil => exact Nat.one_pos
  | append_singleton ds d ih =>
      have front := ih fun e mem => small e (List.mem_append_left _ mem)
      have last := small d (by simp)
      rw [ofDigits_concat, List.length_append, List.length_singleton, Nat.pow_succ]
      omega

theorem Spell.append {cs cs' : List Char} {ds ds' : List Nat} (front : Spell cs ds)
    (back : Spell cs' ds') : Spell (cs ++ cs') (ds ++ ds') := by
  rw [Spell, List.map_append, List.map_append, front, back]

theorem Spell.length {cs : List Char} {ds : List Nat} (spell : Spell cs ds) : cs.length = ds.length := by
  simpa using congrArg List.length spell

theorem Spell.cons_iff {c : Char} {cs : List Char} {d : Nat} {ds : List Nat} :
    Spell (c :: cs) (d :: ds) ↔ digit? c = some d ∧ Spell cs ds := by
  simp [Spell]

theorem spell_toDigits (n : Nat) : ∃ ds, Spell (Nat.toDigits 10 n) ds ∧ ofDigits 10 ds = n := by
  induction n using Nat.strongRecOn with
  | ind n ih =>
      by_cases single : n < 10
      · refine ⟨[n], ?_, by simp [ofDigits]⟩
        rw [Nat.toDigits_of_lt_base single, Spell]
        exact congrArg (fun x => [x]) (digit?_digitChar single)
      · obtain ⟨ds, spell, value⟩ := ih (n / 10) (by omega)
        refine ⟨ds ++ [n % 10], ?_, ?_⟩
        · rw [Nat.toDigits_of_base_le (by decide) (by omega)]
          refine spell.append ?_
          exact congrArg (fun x => [x]) (digit?_digitChar (by omega))
        · rw [ofDigits_concat, value]
          omega

end CloudCensus

import CloudCensus.Time.Instant
import Mathlib.Data.Prod.Lex

namespace CloudCensus.Instant

def key (t : Instant) : Int ×ₗ Nat := toLex (t.second, t.nano)

theorem key_injective : Function.Injective key := by
  intro a b same
  obtain ⟨seconds, nanos⟩ := Prod.mk.inj (toLex.injective same)
  cases a
  cases b
  simp only [Instant.mk.injEq]
  exact ⟨seconds, nanos⟩

instance : LinearOrder Instant := LinearOrder.lift' key key_injective

theorem le_iff (a b : Instant) : a.le b = true ↔ a ≤ b := by
  have inLine : a ≤ b ↔ a.second < b.second ∨ a.second = b.second ∧ a.nano ≤ b.nano :=
    Prod.Lex.toLex_le_toLex
  simp [le, inLine]

theorem latest_eq_max (a b : Option Instant) : latest a b = max a b := by
  cases a with
  | none => simp [latest]
  | some first =>
      cases b with
      | none => simp [latest]
      | some second =>
          rw [Option.max_some_some, latest]
          split
          · rename_i backward
            rw [max_eq_left ((le_iff second first).mp backward)]
          · rename_i ahead
            rw [max_eq_right (le_of_not_ge fun backward => ahead ((le_iff second first).mpr backward))]

theorem latest_comm (a b : Option Instant) : latest a b = latest b a := by
  cases a <;> cases b <;> simp [latest_eq_max, max_comm]

@[simp] theorem latest_self (a : Option Instant) : latest a a = a := by
  cases a <;> simp [latest_eq_max]

theorem max?_append (front back : List Instant) :
    (front ++ back).max? = latest front.max? back.max? := by
  rw [latest_eq_max]
  cases front with
  | nil => simp
  | cons first rest =>
      cases back with
      | nil => simp
      | cons second others =>
          -- both sides are one pass over all of them, which the second list may begin anew
          rw [List.cons_append, List.max?_cons', List.foldl_append, List.foldl_cons, List.foldl_assoc,
            List.max?_cons', List.max?_cons', Option.max_some_some]

end CloudCensus.Instant

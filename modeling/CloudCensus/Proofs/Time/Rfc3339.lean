import CloudCensus.Proofs.Text.Digits
import CloudCensus.Proofs.Time.Calendar
import CloudCensus.Time.Rfc3339

/-!
Timestamps that are written read back as the same instants.

The instants that a text can name are those with a year that can be told apart, and with more than a
second's worth of nanoseconds only in the last second of a minute.
-/

namespace CloudCensus.Rfc3339

section reading

theorem spell_padded (width n : Nat) :
    ∃ ds, Spell (padded width n).toList ds ∧ ofDigits 10 ds = n := by
  obtain ⟨ds, spell, value⟩ := spell_toDigits n
  refine ⟨List.replicate (width - (Nat.toDigits 10 n).length) 0 ++ ds, ?_, ?_⟩
  · rw [padded, String.toList_ofList]
    refine Spell.append ?_ spell
    have zero : digit? '0' = some 0 := by decide
    rw [Spell, List.map_replicate, List.map_replicate, zero]
  · rw [ofDigits_zeros, value]

theorem length_padded {width n : Nat} (room : n < 10 ^ width) (positive : 0 < width) :
    (padded width n).toList.length = width := by
  have fits := (Nat.length_toDigits_le_iff (by decide) positive).mpr room
  rw [padded, String.toList_ofList, List.length_append, List.length_replicate]
  omega

theorem padded_ne_nil (width n : Nat) : (padded width n).toList ≠ [] := by
  have positive : 0 < (Nat.toDigits 10 n).length := Nat.length_toDigits_pos
  rw [padded, String.toList_ofList]
  intro nothing
  rw [List.append_eq_nil_iff] at nothing
  rw [nothing.2] at positive
  exact absurd positive (Nat.lt_irrefl 0)

variable {cs rest : List Char} {ds : List Nat} {width n : Nat}

theorem digitsUpTo_of_spell (spell : Spell cs ds) (fits : cs.length ≤ width)
    (whole : cs.length = width ∨ Stops rest) : digitsUpTo width (cs ++ rest) = (ds, rest) := by
  induction cs generalizing ds width with
  | nil =>
      obtain rfl : ds = [] := List.length_eq_zero_iff.mp spell.length.symm
      cases width with
      | zero => rfl
      | succ width =>
          have stops := whole.resolve_left (by simp)
          cases rest with
          | nil => rfl
          | cons c rest =>
              have other : digit? c = none := stops c rfl
              simp [digitsUpTo, other]
  | cons c cs ih =>
      cases ds with
      | nil => cases spell.length
      | cons d ds =>
          obtain ⟨digit, tail⟩ := Spell.cons_iff.mp spell
          cases width with
          | zero => cases fits
          | succ width =>
              have later := ih tail (Nat.le_of_succ_le_succ fits)
                (whole.imp_left fun same => Nat.succ.inj same)
              simp [digitsUpTo, digit, later]

theorem trimStart_of_spell (spell : Spell cs ds) (nonempty : cs ≠ []) :
    trimStart (cs ++ rest) = cs ++ rest := by
  cases cs with
  | nil => exact absurd rfl nonempty
  | cons c cs =>
      cases ds with
      | nil => cases spell.length
      | cons d ds =>
          have visible := not_blank_of_digit (Spell.cons_iff.mp spell).1
          simp [trimStart, visible]

theorem number?_of_spell (spell : Spell cs ds) (nonempty : cs ≠ []) (fits : cs.length ≤ width)
    (whole : cs.length = width ∨ Stops rest) :
    number? width (cs ++ rest) = some (ofDigits 10 ds, rest) := by
  have more : ds ≠ [] := by
    rintro rfl
    exact nonempty (List.length_eq_zero_iff.mp spell.length)
  rw [number?, trimStart_of_spell spell nonempty, digitsUpTo_of_spell spell fits whole]
  cases ds with
  | nil => exact absurd rfl more
  | cons d ds => rfl

/-- A padded number fills its width, so whatever follows is not taken for a part of it. -/
theorem number?_padded (room : n < 10 ^ width) (positive : 0 < width) :
    number? width ((padded width n).toList ++ rest) = some (n, rest) := by
  obtain ⟨ds, spell, value⟩ := spell_padded width n
  have full := length_padded room positive
  rw [number?_of_spell spell (padded_ne_nil width n) full.le (.inl full), value]

theorem stops_dash (rest : List Char) : Stops ('-' :: rest) := by
  rintro c ⟨⟩
  decide

theorem stops_zulu (rest : List Char) : Stops ('Z' :: rest) := by
  rintro c ⟨⟩
  decide

theorem year?_of_spell (spell : Spell cs ds) (nonempty : cs ≠ []) :
    year? (cs ++ rest) = (number? 4 (cs ++ rest)).map fun (n, rest) => ((n : Int), rest) := by
  rw [year?, trimStart_of_spell spell nonempty]
  cases cs with
  | nil => exact absurd rfl nonempty
  | cons c cs =>
      cases ds with
      | nil => cases spell.length
      | cons d ds =>
          have digit := (Spell.cons_iff.mp spell).1
          split
          · rename_i same
            obtain rfl := (List.cons.inj same).1
            cases digit
          · rename_i same
            obtain rfl := (List.cons.inj same).1
            cases digit
          · rfl

theorem year?_signed (spell : Spell cs ds) (nonempty : ds ≠ []) (stops : Stops rest) :
    year? ('-' :: (cs ++ rest)) = some (-(ofDigits 10 ds : Int), rest) ∧
      year? ('+' :: (cs ++ rest)) = some ((ofDigits 10 ds : Int), rest) := by
  have read : digitsUpTo (cs ++ rest).length (cs ++ rest) = (ds, rest) :=
    digitsUpTo_of_spell spell (by simp) (.inr stops)
  have minus : trimStart ('-' :: (cs ++ rest)) = '-' :: (cs ++ rest) := rfl
  have plus : trimStart ('+' :: (cs ++ rest)) = '+' :: (cs ++ rest) := rfl
  cases ds with
  | nil => exact absurd rfl nonempty
  | cons d ds =>
      constructor
      · rw [year?, minus]
        simp only [read]
      · rw [year?, plus]
        simp only [read]

theorem year?_yearText (year : Int) :
    year? ((yearText year).toList ++ '-' :: rest) = some (year, '-' :: rest) := by
  rw [yearText]
  by_cases plain : 0 ≤ year ∧ year ≤ 9999
  · obtain ⟨ds, spell, -⟩ := spell_padded 4 year.toNat
    have room : year.toNat < 10 ^ 4 := by omega
    rw [if_pos plain, year?_of_spell spell (padded_ne_nil _ _), number?_padded room (by decide)]
    simp [Int.toNat_of_nonneg plain.1]
  · obtain ⟨ds, spell, value⟩ := spell_padded 4 year.natAbs
    have more : ds ≠ [] := by
      rintro rfl
      exact padded_ne_nil _ _ (List.length_eq_zero_iff.mp spell.length)
    obtain ⟨minus, plus⟩ := year?_signed spell more (stops_dash rest)
    rw [if_neg plain]
    by_cases negative : year < 0
    · rw [if_pos negative, String.toList_append]
      have back : -(year.natAbs : Int) = year := by omega
      rw [value, back] at minus
      exact minus
    · rw [if_neg negative, String.toList_append]
      have back : (year.natAbs : Int) = year := by omega
      rw [value, back] at plus
      exact plus

theorem fraction?_of_spell (spell : Spell cs ds) (nonempty : ds ≠ []) (fits : cs.length ≤ 9) :
    fraction? ('.' :: (cs ++ 'Z' :: rest)) =
      some (ofDigits 10 ds * tenTo (9 - cs.length), 'Z' :: rest) := by
  have read : digitsUpTo 9 (cs ++ 'Z' :: rest) = (ds, 'Z' :: rest) :=
    digitsUpTo_of_spell spell fits (.inr (stops_zulu _))
  rw [fraction?, spell.length]
  simp only [read]
  cases ds with
  | nil => exact absurd rfl nonempty
  | cons d ds => rfl

theorem fraction?_padded (room : n < 10 ^ width) (positive : 0 < width) (fits : width ≤ 9) :
    fraction? ('.' :: ((padded width n).toList ++ 'Z' :: rest)) =
      some (n * tenTo (9 - width), 'Z' :: rest) := by
  obtain ⟨ds, spell, value⟩ := spell_padded width n
  have full := length_padded room positive
  have more : ds ≠ [] := by
    rintro rfl
    exact padded_ne_nil _ _ (List.length_eq_zero_iff.mp spell.length)
  rw [fraction?_of_spell spell more (by omega), value, full]

theorem fraction?_fractionText (small : n < tenTo 9) :
    fraction? ((fractionText n).toList ++ 'Z' :: rest) = some (n, 'Z' :: rest) := by
  have bound : n < 1000000000 := small
  rw [fractionText]
  split
  · rename_i none
    rw [none]
    rfl
  · split
    · rename_i milli
      have room : n / 1000000 < 10 ^ 3 := by omega
      rw [String.toList_append]
      refine (fraction?_padded room (by decide) (by decide)).trans ?_
      have scale : tenTo (9 - 3) = 1000000 := rfl
      rw [scale, Nat.div_mul_cancel (Nat.dvd_of_mod_eq_zero milli)]
    · split
      · rename_i micro
        have room : n / 1000 < 10 ^ 6 := by omega
        rw [String.toList_append]
        refine (fraction?_padded room (by decide) (by decide)).trans ?_
        have scale : tenTo (9 - 6) = 1000 := rfl
        rw [scale, Nat.div_mul_cancel (Nat.dvd_of_mod_eq_zero micro)]
      · rw [String.toList_append]
        refine (fraction?_padded (by omega) (by decide) (by decide)).trans ?_
        have scale : tenTo (9 - 9) = 1 := rfl
        rw [scale, Nat.mul_one]

end reading

def spelled (date : Date) (hour minute second nano : Nat) : List Char :=
  (yearText date.year).toList ++ '-' :: ((padded 2 date.month).toList ++ '-' ::
    ((padded 2 date.day).toList ++ 'T' :: ((padded 2 hour).toList ++ ':' ::
      ((padded 2 minute).toList ++ ':' :: ((padded 2 second).toList ++
        ((fractionText nano).toList ++ ['Z']))))))

/-- The second 60 is the one before it, with a second's worth of nanoseconds more. -/
theorem parse?_spelled {text : String} {date : Date} {hour minute second nano : Nat}
    (parts : text.toList = spelled date hour minute second nano)
    (valid : date.isValid = true) (hours : hour < 24) (minutes : minute < 60) (seconds : second ≤ 60)
    (nanos : nano < tenTo 9) {last : Nat × Nat} {t : Instant}
    (isLast : (if second = 60 then (59, nano + tenTo 9) else (second, nano)) = last)
    (isInstant : (⟨date.toDays * 86400 + ((hour * 3600 + minute * 60 + last.1 : Nat) : Int) - 0, last.2⟩ :
      Instant) = t) (inRange : t.isValid = true) : parse? text = some t := by
  have inYear : date.month < 10 ^ 2 ∧ date.day < 10 ^ 2 := by
    simp only [Date.isValid, Bool.and_eq_true, decide_eq_true_eq] at valid
    have length : Date.monthLength date.year date.month ≤ 31 := by
      rw [Date.monthLength]
      split
      · split <;> decide
      · split <;> decide
    omega
  have dash (rest : List Char) : expect? '-' ('-' :: rest) = some rest := rfl
  have colon (rest : List Char) : expect? ':' (':' :: rest) = some rest := rfl
  have cut (rest : List Char) : separator? ('T' :: rest) = some rest := rfl
  have zulu : offset? (trimStart ['Z']) = some (0, []) := by decide
  have two : 0 < 2 := by decide
  have hourRoom : hour < 10 ^ 2 := by omega
  have minuteRoom : minute < 10 ^ 2 := by omega
  have secondRoom : second < 10 ^ 2 := by omega
  have accepted : (date.isValid && decide (hour < 24) && decide (minute < 60) && decide (second ≤ 60) &&
      decide ((0 : Int).natAbs < 86400) && (trimStart []).isEmpty) = true := by
    simp [valid, hours, minutes, seconds, trimStart]
  rw [parse?, parts, spelled]
  refine Option.bind_eq_some_iff.mpr ⟨_, year?_yearText _, ?_⟩
  refine Option.bind_eq_some_iff.mpr ⟨_, dash _, ?_⟩
  refine Option.bind_eq_some_iff.mpr ⟨_, number?_padded inYear.1 two, ?_⟩
  refine Option.bind_eq_some_iff.mpr ⟨_, dash _, ?_⟩
  refine Option.bind_eq_some_iff.mpr ⟨_, number?_padded inYear.2 two, ?_⟩
  refine Option.bind_eq_some_iff.mpr ⟨_, cut _, ?_⟩
  refine Option.bind_eq_some_iff.mpr ⟨_, number?_padded hourRoom two, ?_⟩
  refine Option.bind_eq_some_iff.mpr ⟨_, colon _, ?_⟩
  refine Option.bind_eq_some_iff.mpr ⟨_, number?_padded minuteRoom two, ?_⟩
  refine Option.bind_eq_some_iff.mpr ⟨_, colon _, ?_⟩
  refine Option.bind_eq_some_iff.mpr ⟨_, number?_padded secondRoom two, ?_⟩
  refine Option.bind_eq_some_iff.mpr ⟨_, fraction?_fractionText nanos, ?_⟩
  refine Option.bind_eq_some_iff.mpr ⟨_, zulu, ?_⟩
  subst isLast isInstant
  exact (if_pos accepted).trans (if_pos inRange)

section bounds

variable {cs rest : List Char} {ds : List Nat} {n : Nat}

theorem digitsUpTo_bounds {width : Nat} (read : digitsUpTo width cs = (ds, rest)) :
    ds.length ≤ width ∧ ∀ d ∈ ds, d < 10 := by
  induction cs generalizing ds width with
  | nil =>
      obtain rfl : ds = [] := by
        cases width <;> exact (Prod.mk.inj read).1.symm
      simp
  | cons c cs ih =>
      cases width with
      | zero =>
          obtain rfl : ds = [] := (Prod.mk.inj read).1.symm
          simp
      | succ width =>
          rw [digitsUpTo] at read
          cases digit : digit? c with
          | none =>
              rw [digit] at read
              obtain rfl : ds = [] := (Prod.mk.inj read).1.symm
              simp
          | some d =>
              rw [digit] at read
              obtain rfl : ds = d :: (digitsUpTo width cs).1 := (Prod.mk.inj read).1.symm
              have tail : digitsUpTo width cs = ((digitsUpTo width cs).1, rest) :=
                Prod.ext rfl (Prod.mk.inj read).2
              obtain ⟨short, small⟩ := ih tail
              refine ⟨Nat.succ_le_succ short, ?_⟩
              intro e mem
              rcases List.mem_cons.mp mem with rfl | later
              · exact (digit?_bounds digit).2
              · exact small e later

theorem fraction?_lt (read : fraction? cs = some (n, rest)) : n < tenTo 9 := by
  unfold fraction? at read
  split at read
  · rename_i more
    have bounds : ∀ ds left, digitsUpTo 9 more = (ds, left) →
        ofDigits 10 ds * tenTo (9 - ds.length) < tenTo 9 := by
      intro ds left taken
      obtain ⟨short, small⟩ := digitsUpTo_bounds taken
      calc
        ofDigits 10 ds * tenTo (9 - ds.length) < 10 ^ ds.length * tenTo (9 - ds.length) :=
          Nat.mul_lt_mul_of_pos_right (ofDigits_lt ds small) (Nat.pow_pos (by decide))
        _ = tenTo 9 := by
          change 10 ^ ds.length * 10 ^ (9 - ds.length) = 10 ^ 9
          rw [← Nat.pow_add, Nat.add_sub_cancel' short]
    split at read
    · cases read
    · rename_i ds left _ taken
      obtain rfl : ofDigits 10 ds * tenTo (9 - ds.length) = n := (Prod.mk.inj (Option.some.inj read)).1
      exact bounds ds left taken
  · obtain rfl : 0 = n := (Prod.mk.inj (Option.some.inj read)).1
    decide

theorem offsetSize?_minutes (read : offsetSize? cs = some (n, rest)) : n % 60 = 0 := by
  obtain ⟨⟨hours, more⟩, -, read⟩ := Option.bind_eq_some_iff.mp read
  obtain ⟨⟨minutes, left⟩, -, read⟩ := Option.bind_eq_some_iff.mp read
  dsimp only at read
  split at read
  · obtain rfl : hours * 3600 + minutes * 60 = n := (Prod.mk.inj (Option.some.inj read)).1
    omega
  · cases read

theorem offset?_minutes {offset : Int} (read : offset? cs = some (offset, rest)) : offset % 60 = 0 := by
  have ahead : ∀ more, ((offsetSize? more).map fun (n, rest) => ((n : Int), rest)) = some (offset, rest) →
      offset % 60 = 0 := by
    intro more map
    obtain ⟨⟨n, left⟩, size, same⟩ := Option.map_eq_some_iff.mp map
    have whole := offsetSize?_minutes size
    obtain rfl : (n : Int) = offset := (Prod.mk.inj same).1
    omega
  have behind : ∀ more, ((offsetSize? more).map fun (n, rest) => (-(n : Int), rest)) =
      some (offset, rest) → offset % 60 = 0 := by
    intro more map
    obtain ⟨⟨n, left⟩, size, same⟩ := Option.map_eq_some_iff.mp map
    have whole := offsetSize?_minutes size
    obtain rfl : -(n : Int) = offset := (Prod.mk.inj same).1
    omega
  have universal : ∀ more, some ((0 : Int), more) = some (offset, rest) → offset % 60 = 0 := by
    rintro more ⟨⟩
    rfl
  unfold offset? at read
  split at read
  · exact universal _ read
  · split at read
    · exact universal _ read
    · exact universal _ read
    · exact ahead _ read
    · exact behind _ read
    · exact behind _ read
    · cases read

end bounds

structure Named (t : Instant) : Prop where
  valid : t.isValid = true
  nano : t.nano < tenTo 9 ∨ t.nano < 2 * tenTo 9 ∧ t.second % 60 = 59

theorem named_of_parse? {text : String} {t : Instant} (parsed : parse? text = some t) : Named t := by
  obtain ⟨⟨year, rest⟩, -, parsed⟩ := Option.bind_eq_some_iff.mp parsed
  obtain ⟨rest, -, parsed⟩ := Option.bind_eq_some_iff.mp parsed
  obtain ⟨⟨month, rest⟩, -, parsed⟩ := Option.bind_eq_some_iff.mp parsed
  obtain ⟨rest, -, parsed⟩ := Option.bind_eq_some_iff.mp parsed
  obtain ⟨⟨day, rest⟩, -, parsed⟩ := Option.bind_eq_some_iff.mp parsed
  obtain ⟨rest, -, parsed⟩ := Option.bind_eq_some_iff.mp parsed
  obtain ⟨⟨hour, rest⟩, -, parsed⟩ := Option.bind_eq_some_iff.mp parsed
  obtain ⟨rest, -, parsed⟩ := Option.bind_eq_some_iff.mp parsed
  obtain ⟨⟨minute, rest⟩, -, parsed⟩ := Option.bind_eq_some_iff.mp parsed
  obtain ⟨rest, -, parsed⟩ := Option.bind_eq_some_iff.mp parsed
  obtain ⟨⟨second, rest⟩, -, parsed⟩ := Option.bind_eq_some_iff.mp parsed
  obtain ⟨⟨nano, rest⟩, fraction, parsed⟩ := Option.bind_eq_some_iff.mp parsed
  obtain ⟨⟨offset, rest⟩, zone, parsed⟩ := Option.bind_eq_some_iff.mp parsed
  have small := fraction?_lt fraction
  have whole := offset?_minutes zone
  dsimp only at parsed
  split at parsed
  · split at parsed
    · split at parsed
      · rename_i valid
        obtain rfl := Option.some.inj parsed
        refine ⟨valid, .inr ⟨?_, ?_⟩⟩
        · dsimp only
          omega
        · dsimp only
          omega
      · cases parsed
    · split at parsed
      · rename_i valid
        obtain rfl := Option.some.inj parsed
        exact ⟨valid, .inl small⟩
      · cases parsed
  · cases parsed

def leapSecond (t : Instant) : Nat := if tenTo 9 ≤ t.nano then 1 else 0

theorem toList_render (t : Instant) :
    (render t).toList =
      spelled (Date.ofDays (t.second.fdiv 86400)) ((t.second.fmod 86400).toNat / 3600)
        ((t.second.fmod 86400).toNat / 60 % 60) ((t.second.fmod 86400).toNat % 60 + leapSecond t)
        (t.nano % tenTo 9) := by
  have dash : "-".toList = ['-'] := rfl
  have colon : ":".toList = [':'] := rfl
  have cut : "T".toList = ['T'] := rfl
  have zulu : "Z".toList = ['Z'] := rfl
  simp only [render, spelled, leapSecond, String.toList_append, dash, colon, cut, zulu, List.append_assoc,
    List.cons_append, List.nil_append]

/-- A leap second is written as the sixtieth, and read as what it was. -/
theorem leapSecond_read {t : Instant} {second : Nat}
    (nano : t.nano < tenTo 9 ∨ t.nano < 2 * tenTo 9 ∧ second = 59) (low : second < 60) :
    second + leapSecond t ≤ 60 ∧
      (if second + leapSecond t = 60 then (59, t.nano % tenTo 9 + tenTo 9)
        else (second + leapSecond t, t.nano % tenTo 9)) = (second, t.nano) := by
  by_cases late : tenTo 9 ≤ t.nano
  · obtain ⟨bound, last⟩ : t.nano < 2 * tenTo 9 ∧ second = 59 := nano.resolve_left (by omega)
    have whole : t.nano % tenTo 9 + tenTo 9 = t.nano := by
      rw [Nat.mod_eq_sub_mod late, Nat.mod_eq_of_lt (by omega)]
      omega
    rw [leapSecond, if_pos late, last, if_pos rfl, whole]
    exact ⟨Nat.le_refl _, rfl⟩
  · have whole : t.nano % tenTo 9 = t.nano := Nat.mod_eq_of_lt (by omega)
    rw [leapSecond, if_neg late, Nat.add_zero, if_neg (by omega), whole]
    exact ⟨by omega, rfl⟩

theorem parse?_render {t : Instant} (named : Named t) : parse? (render t) = some t := by
  have days : t.second.fdiv 86400 * 86400 + t.second.fmod 86400 = t.second := Int.fdiv_mul_add_fmod ..
  have clock : 0 ≤ t.second.fmod 86400 ∧ t.second.fmod 86400 < 86400 ∧
      t.second.fmod 86400 % 60 = t.second % 60 := by
    rw [Int.fmod_eq_emod_of_nonneg _ (by decide)]
    omega
  have nano : t.nano < tenTo 9 ∨ t.nano < 2 * tenTo 9 ∧ (t.second.fmod 86400).toNat % 60 = 59 :=
    named.nano.imp_right fun leap => ⟨leap.1, by omega⟩
  obtain ⟨seconds, read⟩ := leapSecond_read nano (Nat.mod_lt _ (by decide))
  have counted := Date.toDays_ofDays (t.second.fdiv 86400)
  have second : (Date.ofDays (t.second.fdiv 86400)).toDays * 86400 +
      (((t.second.fmod 86400).toNat / 3600 * 3600 + (t.second.fmod 86400).toNat / 60 % 60 * 60 +
        (t.second.fmod 86400).toNat % 60 : Nat) : Int) - 0 = t.second := by
    omega
  exact parse?_spelled (toList_render t) named.valid (by omega) (by omega) seconds
    (Nat.mod_lt _ (by decide)) read (by rw [second]) named.valid

example : render ⟨1709287199, 1500000000⟩ = "2024-03-01T09:59:60.500Z" := by decide +kernel

end CloudCensus.Rfc3339

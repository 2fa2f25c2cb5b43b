import RideLedger.Calendar.Text
import RideLedger.Proofs.Digits
import RideLedger.Proofs.Months

/-!
# Written — dates and instants are read back from their texts

A reader takes a text part by part: a number up to its last digit or up to a width
(`scanNumber?_append`), then a mark. The parts of a date and of an instant are digits between marks,
and the marks are no digits, so that each part ends where its digits do. Only the year has a width
that is not its own; its sign tells the reader which one (`scanYear?_yearText`). So every date and
every instant of the calendar is read back, with its fraction and its leap second
(`Date.ofText?_toText`, `Instant.ofText?_toText`).
-/

namespace RideLedger

variable {c : Char} {cs rest : List Char} {n width : Nat}

/-! ## Digits at the front of a text -/

/-- Digits are not blank. -/
theorem isBlank_of_isDigit (h : c.isDigit = true) : isBlank c = false := by
  obtain ⟨hlow, hhigh⟩ := digit_range h
  have hzero : '0'.toNat = 48 := rfl
  rw [hzero] at hlow hhigh
  simp only [isBlank, Bool.or_eq_false_iff, Bool.and_eq_false_imp, decide_eq_false_iff_not,
    decide_eq_true_eq, beq_eq_false_iff_ne, ne_eq]
  omega

/-- No blanks are skipped in front of a number. -/
theorem dropWhile_isBlank_padded (n : Nat) (hpos : 0 < width) (rest : List Char) :
    ((padded n width).toList ++ rest).dropWhile isBlank = (padded n width).toList ++ rest := by
  obtain ⟨c, cs, htext, hdigit⟩ := exists_padded_cons n hpos
  rw [htext, List.cons_append, List.dropWhile_cons_of_neg (by simp [isBlank_of_isDigit hdigit])]

/-- The digits at the front of a text end with the width, or before another character. -/
theorem takeWhile_isDigit_append (h : ∀ c ∈ cs, c.isDigit = true) (hle : cs.length ≤ width)
    (hend : cs.length = width ∨ ∀ c ∈ rest.head?, c.isDigit = false) :
    ((cs ++ rest).take width).takeWhile Char.isDigit = cs := by
  have hrest : (rest.take (width - cs.length)).takeWhile Char.isDigit = [] := by
    rcases hend with hlength | hhead
    · rw [hlength, Nat.sub_self, List.take_zero, List.takeWhile_nil]
    · cases rest with
      | nil => rw [List.take_nil, List.takeWhile_nil]
      | cons c rest =>
        cases width - cs.length with
        | zero => rw [List.take_zero, List.takeWhile_nil]
        | succ k => rw [List.take_succ_cons, List.takeWhile_cons_of_neg (by simp [hhead c rfl])]
  rw [List.take_append, List.take_of_length_le hle, List.takeWhile_append_of_pos h, hrest,
    List.append_nil]

/-- **A number at the front of a text is read up to its last digit.** -/
theorem scanNumber?_append {k : Nat} (hk : 0 < k) (hle : (padded n k).toList.length ≤ width)
    (hend : (padded n k).toList.length = width ∨ ∀ c ∈ rest.head?, c.isDigit = false) :
    scanNumber? width ((padded n k).toList ++ rest) = some (n, rest) := by
  simp only [scanNumber?, takeWhile_isDigit_append (fun c hc => isDigit_of_mem_padded hc) hle hend,
    natOfDigits?_padded n hk, Option.map_some, List.drop_left]

/-- A number that fits its width is read whatever follows. -/
theorem scanNumber?_padded (hpos : 0 < width) (h : n < 10 ^ width) (rest : List Char) :
    scanNumber? width ((padded n width).toList ++ rest) = some (n, rest) :=
  scanNumber?_append hpos (length_padded hpos h).le (.inl (length_padded hpos h))

theorem scanPart?_padded (h : n < 10 ^ 2) (rest : List Char) :
    scanPart? ((padded n 2).toList ++ rest) = some (n, rest) := by
  rw [scanPart?, dropWhile_isBlank_padded n (by decide), scanNumber?_padded (by decide) h]

theorem scanMark?_cons {mark : Char} (h : isBlank mark = false) (rest : List Char) :
    scanMark? mark (mark :: rest) = some rest := by
  rw [scanMark?, List.dropWhile_cons_of_neg (by simp [h])]
  exact if_pos rfl

/-! ## Dates -/

/-- **A year is read back**: a sign gives it room, and without one it has four digits. -/
theorem scanYear?_yearText (year : Int) (rest : List Char) :
    scanYear? ((yearText year).toList ++ '-' :: rest) = some (year, '-' :: rest) := by
  have hmark : ∀ c ∈ ('-' :: rest).head?, c.isDigit = false := by
    rintro c ⟨⟩
    rfl
  have hsigned : scanNumber? ((padded year.natAbs 4).toList ++ '-' :: rest).length
      ((padded year.natAbs 4).toList ++ '-' :: rest) = some (year.natAbs, '-' :: rest) :=
    scanNumber?_append (by decide) (by simp) (.inr hmark)
  rw [toList_yearText]
  split
  · next hneg =>
    have hyear : -(year.natAbs : Int) = year := by omega
    rw [scanYear?, List.cons_append, List.dropWhile_cons_of_neg (by decide)]
    simp only [hsigned, Option.map_some, hyear]
  · split
    · next hbig =>
      have hyear : (year.natAbs : Int) = year := by omega
      rw [scanYear?, List.cons_append, List.dropWhile_cons_of_neg (by decide)]
      simp only [hsigned, Option.map_some, hyear]
    · have hyear : (year.natAbs : Int) = year := by omega
      have hfour : year.natAbs < 10 ^ 4 := by omega
      rw [scanYear?, dropWhile_isBlank_padded _ (by decide)]
      -- the first character is a digit, so no sign
      obtain ⟨c, cs, htext, hdigit⟩ := exists_padded_cons year.natAbs (by decide : 0 < 4)
      have hread := scanNumber?_padded (by decide) hfour ('-' :: rest)
      rw [htext, List.cons_append] at hread ⊢
      split
      · next heq =>
        obtain ⟨rfl, -⟩ := List.cons.inj heq
        cases hdigit
      · next heq =>
        obtain ⟨rfl, -⟩ := List.cons.inj heq
        cases hdigit
      · simp only [hread, Option.map_some, hyear]

namespace Date

theorem toList_toText (d : Date) :
    d.toText.toList = (yearText d.year).toList ++
      '-' :: ((padded d.month 2).toList ++ '-' :: (padded d.dayOfMonth 2).toList) := by
  simp [toText, year, month, dayOfMonth]

/-- A day of a month has at most two digits. -/
theorem dayOfMonth_lt (d : Date) : d.dayOfMonth < 10 ^ 2 :=
  (Civil.day_le_of_valid d.valid_civil).1.trans_lt (by decide)

/-- A date at the front of a text is read. -/
theorem scanCivil?_toText (d : Date) (rest : List Char) :
    scanCivil? (d.toText.toList ++ rest) = some (d.civil, rest) := by
  rw [toList_toText, List.append_assoc, List.cons_append, List.append_assoc, List.cons_append]
  simp only [scanCivil?, scanYear?_yearText, scanMark?_cons (by decide : isBlank '-' = false),
    scanPart?_padded d.month_lt, scanPart?_padded d.dayOfMonth_lt, Option.bind_eq_bind,
    Option.bind_some]
  rfl

/-- **Every date is read back from its text.** -/
theorem ofText?_toText (d : Date) : ofText? d.toText = some d := by
  have hread := d.scanCivil?_toText []
  rw [List.append_nil] at hread
  rw [ofText?, hread]
  exact d.ofCivil?_civil

end Date

/-! ## Instants -/

/-- A fraction is read with the places that its digits have. -/
theorem scanFraction?_padded (hpos : 0 < width) (hle : width ≤ 9) (h : n < 10 ^ width)
    (hrest : ∀ c ∈ rest.head?, c.isDigit = false) :
    scanFraction? ('.' :: ((padded n width).toList ++ rest)) =
      some (n * 10 ^ (9 - width), rest) := by
  have hlength := length_padded hpos h
  have hread : scanNumber? 9 ((padded n width).toList ++ rest) = some (n, rest) :=
    scanNumber?_append hpos (hlength.trans_le hle) (.inr hrest)
  have hdigits : ((padded n width).toList ++ rest).takeWhile Char.isDigit =
      (padded n width).toList := by
    have hall : (padded n width).toList.length ≤ ((padded n width).toList ++ rest).length := by
      simp
    have htake := takeWhile_isDigit_append (fun c hc => isDigit_of_mem_padded hc) hall (.inr hrest)
    rwa [List.take_length] at htake
  have hdrop : ((padded n width).toList ++ rest).drop width = rest := List.drop_left' hlength
  simp only [scanFraction?, hread, Option.map_some, hdigits, hlength, hdrop]

/-- **A fraction of a second is read back.** -/
theorem scanFraction?_fractionText (h : n < nanosPerSecond) :
    scanFraction? ((Instant.fractionText n).toList ++ 'Z' :: rest) = some (n, 'Z' :: rest) := by
  have hmark : ∀ c ∈ ('Z' :: rest).head?, c.isDigit = false := by
    rintro c ⟨⟩
    rfl
  have hread {m width : Nat} (hpos : 0 < width) (hle : width ≤ 9) (hm : m < 10 ^ width)
      (hn : m * 10 ^ (9 - width) = n) :
      scanFraction? (("." ++ padded m width).toList ++ 'Z' :: rest) = some (n, 'Z' :: rest) := by
    rw [String.toList_append, ← hn]
    exact scanFraction?_padded hpos hle hm hmark
  rw [Instant.fractionText]
  split
  · next hzero =>
    subst hzero
    rfl
  · split
    · exact hread (by decide) (by decide) (by simp only [nanosPerSecond] at h; omega) (by omega)
    · split
      · exact hread (by decide) (by decide) (by simp only [nanosPerSecond] at h; omega) (by omega)
      · exact hread (by decide) (by decide) h (Nat.mul_one n)

namespace Instant

variable {t : Instant}

theorem at?_self (t : Instant) : at? t.second t.nano = some t :=
  dif_pos ⟨⟨t.first_le, t.lt_last⟩, t.nano_lt, t.leap⟩

/-- The seconds of an instant are those before its day and those passed of it. -/
theorem second_eq (t : Instant) : t.date.number * secondsPerDay + t.secondOfDay = t.second := by
  simp only [date, secondOfDay, secondsPerDay]
  omega

theorem toList_toText (t : Instant) :
    t.toText.toList = t.date.toText.toList ++ 'T' :: ((padded (t.secondOfDay / 3600) 2).toList ++
      ':' :: ((padded (t.secondOfDay / 60 % 60) 2).toList ++
      ':' :: ((padded (t.secondOfDay % 60 + t.nano / nanosPerSecond) 2).toList ++
      ((fractionText (t.nano % nanosPerSecond)).toList ++ ['Z'])))) := by
  simp [toText, localText]

/-- **Every instant is read back from its text**, leap seconds included. -/
theorem ofText?_toText (t : Instant) : ofText? t.toText = some t := by
  have hday : t.secondOfDay < 86400 := by
    simp only [secondOfDay, secondsPerDay]
    omega
  have hnano : t.nano / nanosPerSecond ≤ 1 :=
    Nat.lt_succ_iff.1 (Nat.div_lt_of_lt_mul (Nat.mul_comm .. ▸ t.nano_lt))
  -- the sixtieth second is the leap second behind the fifty-ninth
  have hsecond : t.secondOfDay % 60 + t.nano / nanosPerSecond ≤ 60 := by
    omega
  have hleap : (t.secondOfDay % 60 + t.nano / nanosPerSecond) / 60 = t.nano / nanosPerSecond := by
    have hlast : t.nano / nanosPerSecond = 1 → t.secondOfDay % 60 = 59 := by
      intro hover
      have := t.leap ((Nat.div_pos_iff.1 (hover ▸ Nat.one_pos)).2)
      simp only [secondOfDay, secondsPerDay]
      omega
    simp only [nanosPerSecond] at hnano hlast ⊢
    omega
  have hclock : t.secondOfDay / 3600 * 3600 + t.secondOfDay / 60 % 60 * 60 +
      (t.secondOfDay % 60 + t.nano / nanosPerSecond - t.nano / nanosPerSecond) =
      t.secondOfDay := by
    omega
  have hoffset : scanOffset? (['Z'].dropWhile isBlank) = some (0, []) := by decide
  have hread := t.date.scanCivil?_toText
  simp only [ofText?, toList_toText, hread, Option.bind_eq_bind, Option.bind_some,
    scanPart?_padded (by omega : t.secondOfDay / 3600 < 10 ^ 2),
    scanPart?_padded (by omega : t.secondOfDay / 60 % 60 < 10 ^ 2),
    scanPart?_padded (by omega : t.secondOfDay % 60 + t.nano / nanosPerSecond < 10 ^ 2),
    scanMark?_cons (by decide : isBlank ':' = false),
    scanFraction?_fractionText (Nat.mod_lt _ (by decide) : t.nano % nanosPerSecond < _),
    t.date.ofCivil?_civil, hoffset]
  rw [if_pos ⟨rfl, by omega, by omega, hsecond⟩, hleap, hclock, second_eq, Int.sub_zero,
    Nat.div_add_mod' t.nano, at?_self]

end Instant

/-! ## Documents -/

theorem Date.ofJson?_toJson (d : Date) : ofJson? (toJson d) = some d := d.ofText?_toText

theorem Instant.ofJson?_toJson (t : Instant) : ofJson? (toJson t) = some t := by
  change ofText? t.toText = some t
  exact t.ofText?_toText

end RideLedger

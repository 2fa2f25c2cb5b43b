import RideLedger.Identifier
import RideLedger.Proofs.Documents

/-!
# Identifiers in texts — what is written of an identifier is read back

An identifier is written with 32 hexadecimal digits, the higher ones first, in groups with hyphens
between them. The reader takes the hyphens out (`Uuid.ungroup?_intercalate`) and the value of the
digits (`Uuid.ofHex?_hexDigits`), and 32 digits have room for every identifier.
-/

namespace RideLedger

namespace Uuid

variable {cs : List Char} {ns : List Nat}

/-- There are as many digits as asked for. -/
theorem length_hexDigits (n count : Nat) : (hexDigits n count).length = count := by
  induction count generalizing n with
  | zero => rfl
  | succ count ih => rw [hexDigits, List.length_append, ih, List.length_singleton]

/-- **The digits of a number have its value**, as far as they go. -/
theorem ofHex?_hexDigits (n count : Nat) : ofHex? (hexDigits n count) = some (n % 16 ^ count) := by
  induction count generalizing n with
  | zero => rw [Nat.pow_zero, Nat.mod_one]; rfl
  | succ count ih =>
    have hdigit := Json.hexValue?_hexDigit (Nat.mod_lt n (by decide : 0 < 16))
    have hsum : n / 16 % 16 ^ count * 16 + n % 16 = n % 16 ^ (count + 1) := by
      rw [Nat.pow_succ', Nat.mod_mul]
      omega
    unfold ofHex? at ih ⊢
    rw [hexDigits, List.foldlM_append, ih]
    simp [hdigit, hsum]

theorem intercalate_pieces (n m : Nat) (more : List Nat) (cs : List Char) :
    ['-'].intercalate (pieces (n :: m :: more) cs) =
      cs.take n ++ '-' :: ['-'].intercalate (pieces (m :: more) (cs.drop n)) := by
  simp [pieces, List.intercalate]

/-- **Taking the hyphens out undoes putting them in.** By induction on the lengths of the groups. -/
theorem ungroup?_intercalate (hne : ns ≠ []) (h : cs.length = ns.sum) :
    ungroup? ns (['-'].intercalate (pieces ns cs)) = some cs := by
  induction ns generalizing cs with
  | nil => exact absurd rfl hne
  | cons n more ih =>
    cases more with
    | nil =>
      have hall : cs.length = n := by simpa using h
      simp [pieces, ungroup?, List.take_of_length_le hall.le, hall]
    | cons m more =>
      rw [List.sum_cons] at h
      have hfront : (cs.take n).length = n := by
        rw [List.length_take]
        omega
      have hrest : (cs.drop n).length = (m :: more).sum := by
        rw [List.length_drop]
        omega
      rw [intercalate_pieces, ungroup?, List.drop_left' hfront, List.take_left' hfront]
      · simp only
        rw [ih nofun hrest, Option.map_some, List.take_append_drop]
      · nofun

/-- A hyphen stands between any two groups. -/
theorem length_intercalate_pieces (hne : ns ≠ []) (h : cs.length = ns.sum) :
    (['-'].intercalate (pieces ns cs)).length + 1 = ns.sum + ns.length := by
  induction ns generalizing cs with
  | nil => exact absurd rfl hne
  | cons n more ih =>
    cases more with
    | nil =>
      have hall : cs.length = n := by simpa using h
      simp [pieces, List.take_of_length_le hall.le, hall]
    | cons m more =>
      rw [List.sum_cons] at h
      have hrest : (cs.drop n).length = (m :: more).sum := by
        rw [List.length_drop]
        omega
      have hlength := ih nofun hrest
      rw [intercalate_pieces, List.length_append, List.length_cons, List.length_take,
        List.sum_cons, List.length_cons]
      omega

theorem ofNat_value (u : Uuid) : ofNat u.value = u := by
  obtain ⟨value, value_lt⟩ := u
  simp only [ofNat, Nat.mod_eq_of_lt value_lt]

/-- **An identifier is read back from its text.** -/
theorem ofText?_toText (u : Uuid) : ofText? u.toText = some u := by
  have hsome : groups ≠ [] := List.cons_ne_nil _ _
  have hdigits : (hexDigits u.value 32).length = groups.sum := length_hexDigits _ _
  have hlength : (['-'].intercalate (pieces groups (hexDigits u.value 32))).length = 36 :=
    Nat.succ.inj (length_intercalate_pieces hsome hdigits)
  have hroom : u.value < 16 ^ 32 := Nat.lt_of_lt_of_eq u.value_lt (by norm_num)
  rw [ofText?, toText, String.toList_ofList]
  unfold ofChars?
  rw [hlength, if_neg (by decide), if_pos rfl, ofGroups?, ungroup?_intercalate hsome hdigits]
  simp only [Option.bind_eq_bind, Option.bind_some, ofHex?_hexDigits, Nat.mod_eq_of_lt hroom,
    ofNat_value]

end Uuid

/-- **And from its document.** -/
theorem Id.ofJson?_toJson {kind : IdKind} (i : Id kind) : ofJson? (toJson i) = some i :=
  congrArg (Option.map Id.mk) i.uuid.ofText?_toText

end RideLedger

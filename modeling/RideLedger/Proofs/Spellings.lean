import RideLedger.Proofs.Uuids

/-!
# Spellings — which texts are read as an identifier

An identifier has four spellings (`Uuid.Spells`): its 32 digits, the digits in groups, and the
groups in braces or behind the name mark, with letters of any case. The reader takes these and
nothing else (`Uuid.ofChars?_eq_some_iff`), because each of its steps can be turned around: digits
are told by their value, and hyphens that were taken out can be put back in one way.

An identifier of a kind is read from a spelling, or from one behind the mark of the kind
(`Id.ofText?_eq_some_iff`). No spelling has a hyphen among its first five characters, and every mark
ends in one there. So a text that begins with a mark is never read without it, and the shown form of
an identifier is not read as one of another kind.
-/

namespace RideLedger

namespace Uuid

variable {cs ds : List Char} {ns : List Nat} {u : Uuid} {n v : Nat} {c : Char}

/-! ## Digits -/

/-- A digit of either case is an ASCII character. -/
theorem toNat_lt_of_hexValue? (h : Json.hexValue? c = some v) : c.toNat < 128 := by
  have hle {d : Char} (hd : c ≤ d) : c.toNat ≤ d.toNat := hd
  unfold Json.hexValue? at h
  split at h
  · next hrange => exact Nat.lt_of_le_of_lt (hle hrange.2) (by decide)
  · split at h
    · next hrange => exact Nat.lt_of_le_of_lt (hle hrange.2) (by decide)
    · split at h
      · next hrange => exact Nat.lt_of_le_of_lt (hle hrange.2) (by decide)
      · cases h

/-- Only an ASCII character is one in small letters. -/
theorem toNat_lt_of_toLower (h : c.toLower.toNat < 128) : c.toNat < 128 := by
  unfold Char.toLower at h
  split at h
  · next hrange => exact Nat.lt_of_le_of_lt (show c.toNat ≤ 'Z'.toNat from hrange.2) (by decide)
  · exact h

/-- **A character has the value of the digit that it is in small letters.** -/
theorem hexValue?_eq_some_iff :
    Json.hexValue? c = some v ↔ v < 16 ∧ c.toLower = Json.hexDigit v := by
  have hascii : ∀ n < 128, ∀ v < 16,
      (Json.hexValue? (Char.ofNat n) = some v ↔ (Char.ofNat n).toLower = Json.hexDigit v) := by
    decide +kernel
  have hsmall : ∀ n < 128, ∀ v ∈ Json.hexValue? (Char.ofNat n), v < 16 := by decide +kernel
  constructor
  · intro h
    have hc := toNat_lt_of_hexValue? h
    rw [← Char.ofNat_toNat c] at h ⊢
    have hv := hsmall _ hc v h
    exact ⟨hv, (hascii _ hc v hv).1 h⟩
  · rintro ⟨hv, h⟩
    have hdigit : ∀ v < 16, (Json.hexDigit v).toNat < 128 := by decide
    have hc : c.toNat < 128 := toNat_lt_of_toLower (h ▸ hdigit v hv)
    rw [← Char.ofNat_toNat c] at h ⊢
    exact (hascii _ hc v hv).2 h

theorem ofHex?_concat (cs : List Char) (c : Char) :
    ofHex? (cs ++ [c]) =
      (ofHex? cs).bind fun n => (Json.hexValue? c).map (n * 16 + ·) := by
  rw [ofHex?, List.foldlM_append]
  simp [ofHex?]

/-- **Digits have a value exactly if in small letters they are those written for it.** By induction
from the last digit, as numbers are written. -/
theorem ofHex?_eq_some_iff : ofHex? cs = some n ↔
    cs.map Char.toLower = hexDigits n cs.length ∧ n < 16 ^ cs.length := by
  induction cs using List.reverseRecOn generalizing n with
  | nil => simp [ofHex?, hexDigits, eq_comm]
  | append_singleton cs c ih =>
    rw [ofHex?_concat, Option.bind_eq_some_iff]
    simp only [ih, Option.map_eq_some_iff, hexValue?_eq_some_iff]
    rw [List.length_append, List.length_singleton, hexDigits, List.map_append, List.map_singleton,
      Nat.pow_succ]
    constructor
    · rintro ⟨m, ⟨hdigits, hm⟩, v, ⟨hv, hdigit⟩, rfl⟩
      have hhigh : (m * 16 + v) / 16 = m := by omega
      have hlow : (m * 16 + v) % 16 = v := by omega
      rw [hhigh, hlow, hdigits, hdigit]
      exact ⟨rfl, by omega⟩
    · rintro ⟨happend, hn⟩
      obtain ⟨hdigits, hdigit⟩ := List.append_inj' happend rfl
      have hlow : n % 16 < 16 := Nat.mod_lt _ (by decide)
      exact ⟨n / 16, ⟨hdigits, by omega⟩, n % 16, ⟨hlow, List.singleton_inj.1 hdigit⟩,
        Nat.div_add_mod' n 16⟩

/-- The digits of an identifier, in any letter case. -/
def Digits (u : Uuid) (digits : List Char) : Prop :=
  digits.map Char.toLower = hexDigits u.value 32

theorem Digits.length (h : u.Digits ds) : ds.length = 32 := by
  have hlength := congrArg List.length h
  rwa [List.length_map, length_hexDigits] at hlength

/-- Thirty-two digits have the value of the identifier whose digits they are. -/
theorem ofHex?_map_eq_some_iff (hlength : ds.length = 32) :
    (ofHex? ds).map ofNat = some u ↔ u.Digits ds := by
  simp only [Option.map_eq_some_iff, ofHex?_eq_some_iff, hlength]
  constructor
  · rintro ⟨n, ⟨hdigits, hn⟩, rfl⟩
    rw [Digits, hdigits, ofNat]
    simp only [Nat.mod_eq_of_lt (show n < 2 ^ 128 from hn)]
  · intro h
    exact ⟨u.value, ⟨h, u.value_lt⟩, ofNat_value u⟩

theorem mem_hexDigits {count : Nat} (h : c ∈ hexDigits n count) :
    ∃ v < 16, c = Json.hexDigit v := by
  induction count generalizing n with
  | zero => cases h
  | succ count ih =>
    rw [hexDigits, List.mem_append, List.mem_singleton] at h
    exact h.elim ih fun hlast => ⟨n % 16, Nat.mod_lt _ (by decide), hlast⟩

/-- The digits that are written are in small letters. -/
theorem digits_hexDigits (u : Uuid) : u.Digits (hexDigits u.value 32) := by
  have hsmall : ∀ v < 16, (Json.hexDigit v).toLower = Json.hexDigit v := by decide
  refine (List.map_congr_left fun c hc => ?_).trans (List.map_id _)
  obtain ⟨v, hv, rfl⟩ := mem_hexDigits hc
  exact hsmall v hv

/-- No digit is a hyphen. -/
theorem Digits.not_mem (h : u.Digits ds) : '-' ∉ ds := by
  have hother : ∀ v < 16, '-' ≠ Json.hexDigit v := by decide
  intro hmem
  have hdigit : '-' ∈ hexDigits u.value 32 := h ▸ List.mem_map_of_mem (f := Char.toLower) hmem
  obtain ⟨v, hv, hv'⟩ := mem_hexDigits hdigit
  exact hother v hv hv'

/-! ## Groups -/

/-- **Hyphens that can be taken out stand where they are put in.** By induction on the lengths of
the groups. -/
theorem ungroup?_eq_some_iff (hne : ns ≠ []) :
    ungroup? ns cs = some ds ↔ ds.length = ns.sum ∧ ['-'].intercalate (pieces ns ds) = cs := by
  constructor
  · intro h
    induction ns generalizing cs ds with
    | nil => exact absurd rfl hne
    | cons n more ih =>
      cases more with
      | nil =>
        obtain ⟨hlength, rfl⟩ : cs.length = n ∧ cs = ds := by simpa [ungroup?] using h
        simp [pieces, List.take_of_length_le hlength.le, hlength]
      | cons m more =>
        rw [ungroup?] at h
        · split at h
          · next rest hrest =>
            obtain ⟨tail, htail, rfl⟩ := Option.map_eq_some_iff.1 h
            obtain ⟨hlength, hgroups⟩ := ih (List.cons_ne_nil m more) htail
            -- what is behind the first group begins with a hyphen, so the group is whole
            have hfront : (cs.take n).length = n := by
              have := congrArg List.length hrest
              rw [List.length_drop, List.length_cons] at this
              rw [List.length_take]
              omega
            refine ⟨?_, ?_⟩
            · rw [List.length_append, hfront, hlength, List.sum_cons (a := n)]
            · rw [intercalate_pieces, List.take_left' hfront, List.drop_left' hfront, hgroups,
                ← hrest, List.take_append_drop]
          · cases h
        · exact List.cons_ne_nil m more
  · rintro ⟨hlength, rfl⟩
    exact ungroup?_intercalate hne hlength

/-- Digits in groups, with hyphens between them. -/
def grouped (digits : List Char) : List Char := ['-'].intercalate (pieces groups digits)

theorem length_grouped (h : ds.length = 32) : (grouped ds).length = 36 :=
  Nat.succ.inj (length_intercalate_pieces (List.cons_ne_nil _ _) h)

/-- **Groups are read exactly as the identifier whose digits are in them.** -/
theorem ofGroups?_eq_some_iff :
    ofGroups? cs = some u ↔ ∃ digits, u.Digits digits ∧ grouped digits = cs := by
  have hsome : groups ≠ [] := List.cons_ne_nil _ _
  have hread {digits : List Char} : ((ofHex? digits).bind fun n => some (ofNat n)) =
      (ofHex? digits).map ofNat := Option.map_eq_bind.symm
  simp only [ofGroups?, Option.bind_eq_bind, hread]
  rw [Option.bind_eq_some_iff]
  constructor
  · rintro ⟨digits, hungrouped, hvalue⟩
    obtain ⟨hlength, hcs⟩ := (ungroup?_eq_some_iff hsome).1 hungrouped
    exact ⟨digits, (ofHex?_map_eq_some_iff hlength).1 hvalue, hcs⟩
  · rintro ⟨digits, hdigits, hcs⟩
    exact ⟨digits, (ungroup?_eq_some_iff hsome).2 ⟨hdigits.length, hcs⟩,
      (ofHex?_map_eq_some_iff hdigits.length).2 hdigits⟩

/-! ## Spellings -/

/-- The spellings of an identifier, without the mark of a kind. -/
inductive Spells (u : Uuid) : List Char → Prop
  | digits {digits : List Char} (h : u.Digits digits) : Spells u digits
  | groups {digits : List Char} (h : u.Digits digits) : Spells u (grouped digits)
  | braces {digits : List Char} (h : u.Digits digits) :
      Spells u ('\x7b' :: grouped digits ++ ['\x7d'])
  | name {front digits : List Char} (hfront : front.map Char.toLower = nameMark)
      (h : u.Digits digits) : Spells u (front ++ grouped digits)

theorem length_name {front : List Char} (hfront : front.map Char.toLower = nameMark) :
    front.length = 9 := by
  rw [← List.length_map Char.toLower, hfront]
  rfl

/-- A spelling behind the name mark does not begin with a brace. -/
theorem head?_name {front : List Char} (hfront : front.map Char.toLower = nameMark)
    (digits : List Char) :
    (front ++ grouped digits).head? ≠ some '\x7b' := by
  cases front with
  | nil => cases hfront
  | cons c rest =>
    rintro ⟨⟩
    have hletter : ('\x7b' : Char).toLower ≠ 'u' := by decide
    exact hletter (List.cons.inj hfront).1

/-- What is read as an identifier is one of its spellings. -/
theorem spells_of_ofChars? (h : ofChars? cs = some u) : u.Spells cs := by
  unfold ofChars? at h
  split at h
  · next hlength => exact .digits ((ofHex?_map_eq_some_iff hlength).1 h)
  split at h
  · obtain ⟨digits, hdigits, rfl⟩ := ofGroups?_eq_some_iff.1 h
    exact .groups hdigits
  split at h
  · next rest =>
    split at h
    · next hbrace =>
      obtain ⟨digits, hdigits, hgrouped⟩ := ofGroups?_eq_some_iff.1 h
      have hlast := List.dropLast_append_getLast? _ hbrace.2
      rw [← hlast, ← hgrouped]
      exact .braces hdigits
    · cases h
  · split at h
    · next hname =>
      obtain ⟨digits, hdigits, hgrouped⟩ := ofGroups?_eq_some_iff.1 h
      rw [← List.take_append_drop 9 cs, ← hgrouped]
      exact .name hname.2 hdigits
    · cases h

/-- A spelling is read as its identifier: by its length it is one of the four, and of the two that
are no digits alone only one begins with a brace. -/
theorem Spells.ofChars?_eq (h : u.Spells cs) : ofChars? cs = some u := by
  unfold ofChars?
  cases h with
  | digits h =>
    rw [if_pos h.length]
    exact (ofHex?_map_eq_some_iff h.length).2 h
  | groups h =>
    have hlength := length_grouped h.length
    rw [if_neg (by omega), if_pos hlength]
    exact ofGroups?_eq_some_iff.2 ⟨_, h, rfl⟩
  | @braces digits h =>
    have hlength := length_grouped h.length
    have hrest : (grouped digits ++ ['\x7d']).length = 37 := by simp [hlength]
    rw [List.cons_append, List.length_cons, hrest, if_neg (by decide), if_neg (by decide)]
    simp only
    rw [if_pos ⟨hrest, List.getLast?_concat⟩, List.dropLast_concat]
    exact ofGroups?_eq_some_iff.2 ⟨_, h, rfl⟩
  | @name front digits hfront h =>
    have hgrouped := length_grouped h.length
    have hnine := length_name hfront
    have hlength : (front ++ grouped digits).length = 45 := by simp [hnine, hgrouped]
    rw [hlength, if_neg (by decide), if_neg (by decide)]
    split
    · next rest hbrace =>
      -- the name mark begins with a letter, and no letter is a brace
      exact absurd (congrArg List.head? hbrace) (head?_name hfront digits)
    · rw [List.take_left' hnine, List.drop_left' hnine, if_pos ⟨hlength, hfront⟩]
      exact ofGroups?_eq_some_iff.2 ⟨_, h, rfl⟩

/-- **Exactly the spellings of an identifier are read as it.** -/
theorem ofChars?_eq_some_iff : ofChars? cs = some u ↔ u.Spells cs :=
  ⟨spells_of_ofChars?, Spells.ofChars?_eq⟩

/-- The groups begin with eight digits. -/
theorem take_grouped (hlength : ds.length = 32) (hfew : n ≤ 8) :
    (grouped ds).take n = ds.take n := by
  have hfirst : n ≤ (ds.take 8).length := by
    rw [List.length_take]
    omega
  rw [grouped, groups, intercalate_pieces, List.take_append_of_le_length hfirst, List.take_take,
    Nat.min_eq_left hfew]

/-- **No spelling has a hyphen among its first five characters.** -/
theorem Spells.not_mem_take (h : u.Spells cs) : '-' ∉ cs.take 5 := by
  have hdigits {digits : List Char} (h : u.Digits digits) (n : Nat) : '-' ∉ digits.take n :=
    fun hmem => h.not_mem (List.mem_of_mem_take hmem)
  cases h with
  | digits h => exact hdigits h 5
  | groups h =>
    rw [take_grouped h.length (by decide)]
    exact hdigits h 5
  | @braces digits h =>
    have hlong : 4 ≤ (grouped digits).length := by rw [length_grouped h.length]; decide
    rw [List.cons_append, List.take_succ_cons, List.take_append_of_le_length hlong,
      take_grouped h.length (by decide), List.mem_cons, not_or]
    exact ⟨by decide, hdigits h 4⟩
  | @name front digits hfront h =>
    have hnine := length_name hfront
    rw [List.take_append_of_le_length (by omega)]
    intro hmem
    have hmark : '-' ∈ nameMark :=
      hfront ▸ List.mem_map_of_mem (f := Char.toLower) (List.mem_of_mem_take hmem)
    exact absurd hmark (by decide)

/-- An identifier is spelled by its text. -/
theorem spells_toText (u : Uuid) : u.Spells u.toText.toList := by
  rw [toText, String.toList_ofList]
  exact .groups (digits_hexDigits u)

end Uuid

/-! ## Marks -/

namespace IdKind

theorem mark_inj {A B : IdKind} (h : A.mark = B.mark) : A = B := by
  cases A <;> cases B <;> first | rfl | exact absurd h (by decide)

/-- A mark is at most four letters. -/
theorem length_mark_le (A : IdKind) : A.mark.toList.length ≤ 4 := by
  cases A <;> decide

theorem not_mem_mark (A : IdKind) : '-' ∉ A.mark.toList := by
  cases A <;> decide

end IdKind

namespace Id

variable {A B : IdKind} {u : Uuid} {cs mark : List Char} {s : String}

/-- **A text that begins with a mark is no spelling.** -/
theorem not_spells_marked (hmark : mark.length ≤ 4) (cs : List Char) :
    ¬u.Spells (mark ++ '-' :: cs) := by
  intro h
  have hshort : (mark ++ ['-']).length ≤ 5 := by
    rw [List.length_append, List.length_singleton]
    omega
  have hfront : (mark ++ ['-']) <+: (mark ++ '-' :: cs).take 5 := by
    rw [List.prefix_take_iff]
    exact ⟨⟨cs, by simp⟩, hshort⟩
  exact h.not_mem_take (hfront.subset (by simp))

/-- What is left without a mark is a spelling exactly if the text is one, or is one behind the
mark. -/
theorem spells_withoutMark_iff (hmark : mark.length ≤ 4) :
    u.Spells (withoutMark mark cs) ↔
      u.Spells cs ∨ ∃ bare, u.Spells bare ∧ cs = mark ++ '-' :: bare := by
  unfold withoutMark
  split
  · next hfront =>
    obtain ⟨rest, rfl⟩ := List.isPrefixOf_iff_prefix.1 hfront
    have hdrop : (mark ++ ['-'] ++ rest).drop (mark.length + 1) = rest :=
      List.drop_left' (by simp)
    rw [hdrop, List.append_assoc, List.singleton_append,
      or_iff_right (not_spells_marked hmark rest)]
    constructor
    · exact fun h => ⟨rest, h, rfl⟩
    · rintro ⟨bare, h, hsame⟩
      have hbare : rest = bare := List.tail_eq_of_cons_eq (List.append_cancel_left hsame)
      exact hbare ▸ h
  · next hfront =>
    refine (or_iff_left ?_).symm
    rintro ⟨bare, -, rfl⟩
    exact hfront (List.isPrefixOf_iff_prefix.2 ⟨bare, by simp⟩)

/-- **An identifier of a kind is read from its spellings, and from those behind the mark.** -/
theorem ofText?_eq_some_iff :
    (ofText? s : Option (Id A)) = some ⟨u⟩ ↔
      ∃ bare : String, u.Spells bare.toList ∧ (s = bare ∨ s = A.mark ++ "-" ++ bare) := by
  have hread : (ofText? s : Option (Id A)) = some ⟨u⟩ ↔
      u.Spells (withoutMark A.mark.toList s.toList) := by
    rw [← Uuid.ofChars?_eq_some_iff, ofText?, Option.map_eq_some_iff]
    simp
  have hmarked {bare : List Char} :
      s.toList = A.mark.toList ++ '-' :: bare ↔ s = A.mark ++ "-" ++ String.ofList bare := by
    rw [← String.toList_inj]
    simp
  rw [hread, spells_withoutMark_iff A.length_mark_le]
  constructor
  · rintro (h | ⟨bare, h, hs⟩)
    · exact ⟨s, h, .inl rfl⟩
    · exact ⟨.ofList bare, by rwa [String.toList_ofList], .inr (hmarked.1 hs)⟩
  · rintro ⟨bare, h, rfl | hs⟩
    · exact .inl h
    · exact .inr ⟨bare.toList, h, hmarked.2 (by rwa [String.ofList_toList])⟩

/-- A text begins with one mark only: what stands in front of its first hyphen. -/
theorem mark_unique {t : String} (h : A.mark ++ "-" ++ s = B.mark ++ "-" ++ t) : A = B := by
  have hfront (kind : IdKind) (rest : String) :
      (kind.mark ++ "-" ++ rest).toList.takeWhile (· ≠ '-') = kind.mark.toList := by
    have hletters : ∀ c ∈ kind.mark.toList, decide (c ≠ '-') = true := fun c hc =>
      decide_eq_true fun heq => kind.not_mem_mark (heq ▸ hc)
    rw [String.toList_append, String.toList_append, List.append_assoc,
      List.takeWhile_append_of_pos hletters]
    simp
  have hmarks : A.mark.toList = B.mark.toList := by rw [← hfront A s, h, hfront]
  exact IdKind.mark_inj (String.toList_inj.1 hmarks)

/-- **Identifiers are read back as what they are, and only as that.** The shown form of an
identifier is read as one of its own kind and not as one of another. And exactly its spellings are
read as it, with the mark of the kind in front or without. -/
theorem shown_and_spelled (A B : IdKind) (u : Uuid) (s : String) :
    (ofText? (⟨u⟩ : Id B).toText : Option (Id A)) = (if A = B then some ⟨u⟩ else none) ∧
    ((ofText? s : Option (Id A)) = some ⟨u⟩ ↔
      ∃ bare : String, u.Spells bare.toList ∧ (s = bare ∨ s = A.mark ++ "-" ++ bare)) := by
  refine ⟨?_, ofText?_eq_some_iff⟩
  by_cases hkind : A = B
  · subst hkind
    rw [if_pos rfl, ofText?_eq_some_iff]
    exact ⟨u.toText, u.spells_toText, .inr rfl⟩
  · rw [if_neg hkind, Option.eq_none_iff_forall_ne_some]
    rintro ⟨v⟩ hread
    obtain ⟨bare, hspells, hbare | hmarked⟩ := ofText?_eq_some_iff.1 hread
    · have hshown : bare.toList = B.mark.toList ++ '-' :: u.toText.toList := by
        rw [← hbare]
        simp [toText]
      exact not_spells_marked B.length_mark_le _ (hshown ▸ hspells)
    · exact hkind (mark_unique hmarked).symm

-- a mark that begins with another one is not taken for it
example : (ofText? "INVL-00000000-0000-0000-0000-000000000001" : Option InvoiceId) = none := by
  decide +kernel

end Id

end RideLedger

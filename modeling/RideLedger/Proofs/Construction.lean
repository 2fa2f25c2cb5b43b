import Mathlib.Tactic.NormNum
import RideLedger.Proofs.Acceptance
import RideLedger.Proofs.AnyOrder
import RideLedger.Proofs.Rows

/-!
# Construction — which entries there can be

An entry is built as a debit or a credit, or taken from storage. Whichever way, one of its sides is
positive and the other one zero, and its reference has no blanks at its ends, is not empty and has
at most a hundred bytes. What is built also has an amount of at most the largest one. What is taken
from storage is not looked at for that: it has the amount that was stored, however large.
-/

namespace RideLedger

/-! ## References -/

/-- A text without blanks at its ends. -/
structure Trimmed (text : String) : Prop where
  first : ∀ c ∈ text.toList.head?, isBlank c = false
  last : ∀ c ∈ text.toList.getLast?, isBlank c = false

/-- **Trimming leaves a text as it is exactly if it has no blanks at its ends.** -/
theorem trim_eq_self_iff {text : String} : trim text = text ↔ Trimmed text := by
  have hfront {cs : List Char} :
      cs.dropWhile isBlank = cs ↔ ∀ c ∈ cs.head?, isBlank c = false := by
    cases cs with
    | nil => simp
    | cons c rest => simp [List.dropWhile_eq_self_iff]
  have hback {cs : List Char} :
      cs.rdropWhile isBlank = cs ↔ ∀ c ∈ cs.getLast?, isBlank c = false := by
    rcases List.eq_nil_or_concat cs with rfl | ⟨front, c, rfl⟩
    · simp
    · simp [List.rdropWhile_eq_self_iff]
  have htext : trim text = text ↔
      (text.toList.dropWhile isBlank).rdropWhile isBlank = text.toList := by
    rw [← String.toList_inj, trim, String.toList_ofList]
    rfl
  rw [htext]
  constructor
  · intro h
    have hdropped : text.toList.dropWhile isBlank = text.toList := by
      refine (List.dropWhile_suffix isBlank).eq_of_length_le ?_
      calc text.toList.length
          = ((text.toList.dropWhile isBlank).rdropWhile isBlank).length := by rw [h]
        _ ≤ (text.toList.dropWhile isBlank).length := (List.rdropWhile_prefix ..).length_le
    rw [hdropped] at h
    exact ⟨hfront.1 hdropped, hback.1 h⟩
  · rintro ⟨hfirst, hlast⟩
    rw [hfront.2 hfirst, hback.2 hlast]

/-- A text that can be the reference of an entry. -/
structure IsReference (text : String) : Prop extends Trimmed text where
  nonempty : text ≠ ""
  bytes : text.utf8ByteSize ≤ 100

namespace LedgerEntry

variable {side : PostingSide} {id : EntryId} {ledgerAccount : LedgerAccount} {amount : Money}
  {source : EntrySource} {e record : LedgerEntry} {reference valid : String}

theorem isReference_trim_iff : IsReference (trim reference) ↔
    trim reference ≠ "" ∧ (trim reference).utf8ByteSize ≤ maxReferenceLength :=
  ⟨fun h => ⟨h.nonempty, h.bytes⟩, fun h => ⟨trim_eq_self_iff.1 (trim_trim _), h.1, h.2⟩⟩

/-- A reference is taken without the blanks at its ends, if it is one then. -/
theorem validReference_eq_ok_iff :
    validReference reference = .ok valid ↔
      IsReference (trim reference) ∧ valid = trim reference := by
  rw [isReference_trim_iff]
  simp only [validReference]
  split
  · next hblank => exact iff_of_false (by simp) fun h => h.1.1 hblank
  · next hblank =>
    split
    · next hlong => exact iff_of_false (by simp) fun h => absurd h.1.2 (Nat.not_le.2 hlong)
    · next hlong =>
      rw [and_iff_right ⟨hblank, Nat.not_lt.1 hlong⟩, Except.ok.injEq, eq_comm]

/-! ## Amounts -/

/-- The largest amount of an entry. -/
theorem not_lt_iff_value {m : Money} :
    maxEntryAmount.lt m.amount = false ↔ m.value ≤ 999999999999999.9999 := by
  have hlargest : (999999999999999.9999 : ℚ) = largestAmount.value := by
    norm_num [largestAmount, Money.value, maxEntryAmount, Decimal.signed]
  rw [Money.not_lt_iff, hlargest, Money.value_le_iff]
  rfl

theorem oneSided_iff : e.OneSided ↔
    0 < e.debitAmount.value ∧ e.creditAmount.value = 0 ∨
      0 < e.creditAmount.value ∧ e.debitAmount.value = 0 := by
  simp only [OneSided, Money.isPositive_iff_value, Money.isZero_iff_value]

/-- An entry as it should be. -/
structure WellFormed (e : LedgerEntry) : Prop where
  oneSided : 0 < e.debitAmount.value ∧ e.creditAmount.value = 0 ∨
    0 < e.creditAmount.value ∧ e.debitAmount.value = 0
  bounded : e.amount.value ≤ 999999999999999.9999
  reference : IsReference e.reference

/-! ## Building, and taking from storage -/

/-- **What is built**: a positive amount that is not too large, with a reference. -/
theorem post_eq_ok_iff : post side id ledgerAccount amount source = .ok e ↔
    0 < amount.value ∧ amount.value ≤ 999999999999999.9999 ∧ IsReference (trim source.reference) ∧
      e = ofSource side id ledgerAccount amount source := by
  have hpositive : 0 < amount.units ↔ 0 < amount.value := by
    rw [← Money.isPositive_iff, Money.isPositive_iff_value]
  rw [post_eq, Requirement.judge_eq_ok_iff]
  simp only [entryRequirements, List.forall_mem_cons, decide_eq_true_eq, hpositive,
    ← Money.not_lt_iff, not_lt_iff_value, isReference_trim_iff, and_assoc, List.not_mem_nil,
    false_implies, implies_true, true_and, eq_comm (a := e)]

/-- **Whatever is built is as it should be.** -/
theorem wellFormed_of_post (h : post side id ledgerAccount amount source = .ok e) :
    e.WellFormed := by
  obtain ⟨hpositive, hbounded, hreference, rfl⟩ := post_eq_ok_iff.1 h
  have hzero : Money.zero.value = 0 := Money.isZero_iff_value.1 rfl
  cases side with
  | debit =>
    have hside : (ofSource .debit id ledgerAccount amount source).side = .debit :=
      if_pos (Money.isPositive_iff_value.2 hpositive)
    refine ⟨.inl ⟨hpositive, hzero⟩, ?_, hreference⟩
    rw [LedgerEntry.amount, hside]
    exact hbounded
  | credit => exact ⟨.inr ⟨hpositive, hzero⟩, hbounded, hreference⟩

/-- **What is taken from storage**: an entry with one side and a reference, whatever its amount. -/
theorem rehydrate_eq_ok_iff_reference : rehydrate record = .ok e ↔
    record.OneSided ∧ IsReference (trim record.reference) ∧
      e = { record with reference := trim record.reference } := by
  rw [rehydrate_eq_ok_iff]
  refine and_congr_right fun _ => ?_
  simp only [validReference_eq_ok_iff, and_assoc, exists_and_left, exists_eq_left]

/-- It is as it should be exactly if its amount is not too large. -/
theorem wellFormed_of_rehydrate (h : rehydrate record = .ok e) :
    e.WellFormed ↔ record.amount.value ≤ 999999999999999.9999 := by
  obtain ⟨hsided, hreference, rfl⟩ := rehydrate_eq_ok_iff_reference.1 h
  exact ⟨fun hwell => hwell.bounded, fun hle => ⟨oneSided_iff.1 hsided, hle, hreference⟩⟩

/-- **What entries there can be.** Whatever is built as a debit or a credit is as an entry should
be. What is taken from storage has one positive side and a reference, and is otherwise as it was
stored, so that it is as an entry should be exactly if the stored amount is not too large. -/
theorem constructed (id : EntryId) (ledgerAccount : LedgerAccount) (amount : Money)
    (source : EntrySource) (record e : LedgerEntry) :
    (debit id ledgerAccount amount source = .ok e ∨
      credit id ledgerAccount amount source = .ok e → e.WellFormed) ∧
    (rehydrate record = .ok e ↔ record.OneSided ∧ IsReference (trim record.reference) ∧
      e = { record with reference := trim record.reference }) ∧
    (rehydrate record = .ok e →
      (e.WellFormed ↔ record.amount.value ≤ 999999999999999.9999)) :=
  ⟨fun h => h.elim wellFormed_of_post wellFormed_of_post, rehydrate_eq_ok_iff_reference,
    wellFormed_of_rehydrate⟩

/-- A ride, built and stored. -/
theorem constructed_ride :
    debit MemoryStore.storedDebit.id .accountsReceivable Sample.rideFare rideSource =
        .ok MemoryStore.storedDebit ∧
      rehydrate MemoryStore.storedDebit = .ok MemoryStore.storedDebit ∧
      MemoryStore.storedDebit.WellFormed ∧
      MemoryStore.storedDebit.amount.value ≤ 999999999999999.9999 := by
  have hbuilt : debit MemoryStore.storedDebit.id .accountsReceivable Sample.rideFare rideSource =
      .ok MemoryStore.storedDebit := by decide +kernel
  have hstored : rehydrate MemoryStore.storedDebit = .ok MemoryStore.storedDebit := by
    decide +kernel
  obtain ⟨hwell, -, hiff⟩ := constructed MemoryStore.storedDebit.id .accountsReceivable
    Sample.rideFare rideSource MemoryStore.storedDebit MemoryStore.storedDebit
  exact ⟨hbuilt, hstored, hwell (.inl hbuilt), (hiff hstored).1 (hwell (.inl hbuilt))⟩

/-- A stored ride of a thousand million million. -/
def oversized : LedgerEntry :=
  { MemoryStore.storedDebit with debitAmount := Sample.cents 100000000000000000 }

/-- **An entry is taken from storage with an amount that no entry can be built with.** -/
theorem unbounded_oversized :
    rehydrate oversized = .ok oversized ∧ ¬oversized.WellFormed ∧
      debit oversized.id .accountsReceivable oversized.debitAmount rideSource =
        .error (.validation (.amountTooLarge oversized.debitAmount)) := by
  have hstored : rehydrate oversized = .ok oversized := by decide +kernel
  refine ⟨hstored, ?_, by decide +kernel⟩
  rw [wellFormed_of_rehydrate hstored, ← not_lt_iff_value]
  decide +kernel

end LedgerEntry

end RideLedger

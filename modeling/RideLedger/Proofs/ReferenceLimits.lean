import Mathlib.Data.String.Basic
import RideLedger.Proofs.Construction

/-!
# Limits of references — characters and bytes

The reference of a ride or a payment is looked at twice. The request is looked at for its length in
characters, and the entries are looked at for its length in bytes, with one limit of a hundred for
both. A character takes a byte or more. So what the entries take the request takes too, and a
reference that both are asked for parts them exactly if it has a hundred characters at most and more
than a hundred bytes.

Such a reference passes the request and is refused afterwards. Any other that passes it is not
looked at again: what comes then is up to the account, the event and the token
(`EventRequest.exists_recorded_after_check`).
-/

namespace RideLedger

open Requirement (judge judge_append judge_eq_ok_iff FirstUnmet firstUnmet_of_judge)

/-- Every character takes a byte or more. -/
theorem length_le_utf8ByteSize (text : String) : text.length ≤ text.utf8ByteSize := by
  rw [← String.utf8Len_toList, ← String.length_toList]
  induction text.toList with
  | nil => exact Nat.le_refl 0
  | cons c rest ih =>
    have hbyte := c.utf8Size_pos
    rw [List.length_cons, String.utf8Len_cons]
    omega

namespace EventRequest

variable {ctx : RequestContext} {r : EventRequest} {s : MemoryStore} {token : Quiet → Bool}
  {cancelled : Bool} {w : Quiet}

/-! ## The two looks -/

/-- The first look at a request. -/
def check : EventRequest → Outcome Unit
  | ride r => r.check
  | payment r => r.check

/-- A reference as both looks are meant for: it has no blanks at its ends and is not empty. -/
structure Referenced (r : EventRequest) : Prop extends Trimmed r.reference where
  nonempty : r.reference ≠ ""

/-- The first look is at the texts. -/
theorem run_check : r.check.run =
    .ok (judge () (textRequirements r.field r.reference r.description)) := by
  cases r <;> exact run_checkLengths

/-- It is at their lengths in characters. -/
theorem check_gives_iff : r.check.Gives () ↔
    (1 ≤ r.reference.length ∧ r.reference.length ≤ 100) ∧
      r.description.all (·.length ≤ maxDescriptionLength) = true := by
  rw [Outcome.Gives, run_check, Except.ok.injEq, judge_eq_ok_iff]
  simp [textRequirements]

theorem Referenced.one_le_length (h : r.Referenced) : 1 ≤ r.reference.length := by
  have hne : r.reference.length ≠ 0 := fun hzero =>
    h.nonempty (String.length_eq_zero_iff.1 hzero)
  omega

/-- The second look is at the reference in bytes. -/
theorem Referenced.validReference_iff (h : r.Referenced) :
    LedgerEntry.validReference r.reference = .ok r.reference ↔ r.reference.utf8ByteSize ≤ 100 := by
  have htrim : trim r.reference = r.reference := trim_eq_self_iff.2 h.toTrimmed
  rw [LedgerEntry.validReference_eq_ok_iff, LedgerEntry.isReference_trim_iff, htrim]
  simp [h.nonempty]

/-! ## What comes of it -/

/-- An amount that the second look takes. -/
def Payable (r : EventRequest) : Prop := 0 < r.amount.units ∧ r.amount.units ≤ maxEntryUnits

/-- The entries of a payable request with such a reference are refused for its bytes or not at
all. -/
theorem Referenced.judge_entry (h : r.Referenced) (hpayable : r.Payable) :
    judge () (entryRequirements r.amount r.reference) =
      if r.reference.utf8ByteSize ≤ 100 then .ok () else .error (.validation .longReference) := by
  have htrim : trim r.reference = r.reference := trim_eq_self_iff.2 h.toTrimmed
  simp [entryRequirements, judge, htrim, h.nonempty, hpayable.1, hpayable.2]

/-- Once the first look is over, all that is required comes to the bytes and to what the store is
asked for. -/
theorem Referenced.judge_requirements (h : r.Referenced) (hpayable : r.Payable)
    (hcheck : r.check.Gives ()) :
    judge () (r.requirements ctx s cancelled) =
      if r.reference.utf8ByteSize ≤ 100 then judge () (writingRequirements ctx r.key s cancelled)
      else .error (.validation .longReference) := by
  have htexts : judge () (textRequirements r.field r.reference r.description) = .ok () := by
    rw [← Except.ok.injEq, ← run_check]
    exact hcheck
  rw [requirements, judge_append (), htexts, ok_bind, judge_append (), h.judge_entry hpayable]
  split <;> rfl

/-- **What becomes of a request that passed the first look.** If its reference has too many bytes,
it is refused for that, and nothing is written. Otherwise it is recorded, or it is refused for the
account, the event or the token. -/
theorem exists_recorded_after_check (token : Quiet → Bool) (ctx : RequestContext)
    (href : r.Referenced) (hcheck : r.check.Gives ()) (hpayable : r.Payable)
    (hfresh : ∀ place < 2, (⟨w.supply.ordered place⟩ : EntryId) ∉ w.store.entries.keys) :
    ∃ result w', RunsAttended token (r.record ctx) w result w' ∧
      (100 < r.reference.utf8ByteSize →
        result = .error (.validation .longReference) ∧ w'.store = w.store) ∧
      (r.reference.utf8ByteSize ≤ 100 → ∀ x, result = .error x →
        FirstUnmet (writingRequirements ctx r.key w.store (token (w.drawn 4))) x) := by
  have hjudged : judge () (r.requirements ctx w.store (token (w.drawn 4))) = _ :=
    href.judge_requirements hpayable hcheck
  cases r.settled_record token ctx hfresh with
  | taken met runs store =>
    refine ⟨_, _, runs, fun hlong => ?_, fun _ x hx => nomatch hx⟩
    rw [if_neg (Nat.not_le.2 hlong), met] at hjudged
    cases hjudged
  | refused unmet runs same =>
    refine ⟨_, _, runs, fun hlong => ⟨?_, same⟩, fun hshort y hy => ?_⟩
    · rw [if_neg (Nat.not_le.2 hlong), unmet] at hjudged
      exact congrArg Except.error (Except.error.inj hjudged)
    · rw [if_pos hshort, unmet] at hjudged
      obtain rfl := Except.error.inj hy
      exact firstUnmet_of_judge hjudged.symm

/-- **The two limits.** Take a reference without blanks at its ends that is not empty, in a request
whose description has no more characters than it may. What the entries take of such references, the
request takes too. The two agree on the reference, unless it has a hundred characters at most and
more than a hundred bytes. And a payable request that passed the first look is refused for its
reference exactly then, with nothing written. -/
theorem reference_limits (token : Quiet → Bool) (ctx : RequestContext) {r : EventRequest}
    {w : Quiet} (href : r.Referenced)
    (hdescription : r.description.all (·.length ≤ maxDescriptionLength) = true) :
    (LedgerEntry.validReference r.reference = .ok r.reference → r.check.Gives ()) ∧
    ((r.check.Gives () ↔ LedgerEntry.validReference r.reference = .ok r.reference) ↔
      ¬(r.reference.length ≤ 100 ∧ 100 < r.reference.utf8ByteSize)) ∧
    (r.check.Gives () → r.Payable →
      (∀ place < 2, (⟨w.supply.ordered place⟩ : EntryId) ∉ w.store.entries.keys) →
      ∃ result w', RunsAttended token (r.record ctx) w result w' ∧
        (100 < r.reference.utf8ByteSize →
          result = .error (.validation .longReference) ∧ w'.store = w.store) ∧
        (r.reference.utf8ByteSize ≤ 100 → ∀ x, result = .error x →
          FirstUnmet (writingRequirements ctx r.key w.store (token (w.drawn 4))) x)) := by
  have hone := href.one_le_length
  have hbytes := length_le_utf8ByteSize r.reference
  have hgives : r.check.Gives () ↔ r.reference.length ≤ 100 := by
    rw [check_gives_iff, and_iff_left hdescription, and_iff_right hone]
  rw [href.validReference_iff, hgives]
  refine ⟨fun h => hbytes.trans h, by omega, fun hshort hpayable hfresh => ?_⟩
  exact exists_recorded_after_check token ctx href (hgives.2 hshort) hpayable hfresh

/-! ## A ride with an accented reference -/

/-- A ride whose reference is fifty-one letters of two bytes each. -/
def accentedRide : EventRequest :=
  .ride
    { account := MemoryStore.firstAccount, ride := String.ofList (List.replicate 51 'é')
      amount := Sample.rideFare, description := none }

theorem referenced_accentedRide : accentedRide.Referenced := by
  have hletters : accentedRide.reference.toList = List.replicate 51 'é' := String.toList_ofList
  have hletter : isBlank 'é' = false := by decide +kernel
  refine ⟨⟨?_, ?_⟩, fun hempty => ?_⟩
  · simpa [hletters] using hletter
  · simpa [hletters, List.getLast?_replicate] using hletter
  · rw [hempty] at hletters
    cases hletters

theorem gives_accentedRide : accentedRide.check.Gives () :=
  check_gives_iff.2 (by decide +kernel)

theorem payable_accentedRide : accentedRide.Payable := ⟨by decide, by decide⟩

theorem fresh_reconciled : ∀ place < 2,
    (⟨MemoryStore.reconciled.supply.ordered place⟩ : EntryId) ∉
      MemoryStore.reconciled.store.entries.keys := by
  decide +kernel

/-- The ride passes the first look, and is refused for its reference afterwards. -/
theorem reference_limits_accentedRide :
    accentedRide.Referenced ∧
    accentedRide.description.all (·.length ≤ maxDescriptionLength) = true ∧
    accentedRide.check.Gives () ∧
    ∃ w', RunsAttended (fun _ => false) (accentedRide.record Sample.operator)
      MemoryStore.reconciled (.error (.validation .longReference)) w' ∧
      w'.store = MemoryStore.reconciled.store := by
  obtain ⟨-, -, hrecord⟩ := reference_limits (fun _ => false) Sample.operator
    (w := MemoryStore.reconciled) referenced_accentedRide rfl
  obtain ⟨result, w', hruns, hlong, -⟩ :=
    hrecord gives_accentedRide payable_accentedRide fresh_reconciled
  obtain ⟨rfl, hstore⟩ := hlong (by decide +kernel)
  exact ⟨referenced_accentedRide, rfl, gives_accentedRide, w', hruns, hstore⟩

/-- **A reference that the request takes and the entries refuse.** It has no blanks at its ends and
is not empty, and the amount is one that is taken. -/
theorem accentedRide_refused :
    accentedRide.Referenced ∧ accentedRide.Payable ∧ accentedRide.check.Gives () ∧
    LedgerEntry.validReference accentedRide.reference = .error (.validation .longReference) ∧
    ∃ w', RunsAttended (fun _ => false) (accentedRide.record Sample.operator)
      MemoryStore.reconciled (.error (.validation .longReference)) w' := by
  obtain ⟨result, w', hruns, hlong, -⟩ :=
    exists_recorded_after_check (fun _ => false) Sample.operator referenced_accentedRide
      gives_accentedRide payable_accentedRide fresh_reconciled
  obtain ⟨rfl, -⟩ := hlong (by decide +kernel)
  exact ⟨referenced_accentedRide, payable_accentedRide, gives_accentedRide, by decide +kernel,
    w', hruns⟩

end EventRequest

end RideLedger

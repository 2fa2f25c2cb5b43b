import RideLedger.Database.Error

/-!
# Retrying — which faults are offered for another try

A fault of the database goes through three hands before a caller sees it. It gets a class, by its
kind and by its code; the class becomes a fault of the store; and that becomes an error of billing.
Each hand has a few faults that it knows by name, and a rest.

The first two agree on what passes by itself: a store fault is transient exactly if its class is one
of the connection. The third offers every failure of the infrastructure for another try. These are
the transient faults and the rest of the first hand, which the second hand passes on as internal
(`SqlFault.Unclassed`). So a fault that no class is for, such as a statement that the database does
not understand, is offered for another try as well, although it is not transient.
-/

namespace RideLedger

/-! ## The three hands, one by one -/

/-- **A store fault is transient exactly if its class is one of the connection.** -/
theorem DatabaseError.isTransient_toStoreFault (e : DatabaseError) :
    e.toStoreFault.isTransient = e.isConnectionError := by
  cases e <;> rfl

/-- **Billing offers a store fault for another try if it is transient or internal**, and in no other
case. -/
theorem BillingError.isRetryable_ofStoreFault_iff {fault : StoreFault} :
    (ofStoreFault fault).isRetryable = true ↔
      fault.isTransient = true ∨ ∃ text, fault = .internal text := by
  cases fault <;> simp [ofStoreFault, isRetryable, kind, StoreFault.isTransient]

/-! ## Codes -/

/-- The codes that have a class of their own: of unique rows, of references, of checks, of numbers
out of range, and of rows that stay as they are. -/
def classedCodes : List String := ["23505", "23503", "23514", "22003", "P0001"]

/-- The class that the code of a fault gives it. -/
inductive CodeClass (constraint table : Option String) (text : String) :
    Option String → DatabaseError → Prop
  | unique : CodeClass constraint table text (some "23505") (.duplicateEntry constraint text)
  | reference : CodeClass constraint table text (some "23503") (.foreignKeyViolation text)
  | check : CodeClass constraint table text (some "23514") (.constraintViolation text)
  | number : CodeClass constraint table text (some "22003") (.numericOverflow text)
  | immutable : CodeClass constraint table text (some "P0001")
      (.immutableRecord (table.getD "record") text)
  | rest {code : Option String} (other : ∀ c ∈ code, c ∉ classedCodes) :
      CodeClass constraint table text code (.queryFailed text)

theorem codeClass_ofCode (code constraint table : Option String) (text : String) :
    CodeClass constraint table text code (DatabaseError.ofCode code constraint table text) := by
  unfold DatabaseError.ofCode
  split
  · exact .unique
  · exact .reference
  · exact .check
  · exact .number
  · exact .immutable
  · next hunique hreference hcheck hnumber himmutable =>
    refine .rest fun c hc => ?_
    obtain rfl : code = some c := hc
    simp_all [classedCodes]

namespace CodeClass

variable {code constraint table : Option String} {text : String} {e : DatabaseError}

/-- No code is one of a connection. -/
theorem isConnectionError (h : CodeClass constraint table text code e) :
    e.isConnectionError = false := by
  cases h <;> rfl

/-- The other codes, and none, make a fault internal. -/
theorem internal_iff (h : CodeClass constraint table text code e) :
    (∃ text, e.toStoreFault = .internal text) ↔ ∀ c ∈ code, c ∉ classedCodes := by
  cases h with
  | rest hother => exact iff_of_true ⟨_, rfl⟩ hother
  | _ => simp [DatabaseError.toStoreFault, classedCodes]

/-- The codes of a conflict. -/
theorem isConflict_iff (h : CodeClass constraint table text code e) :
    (BillingError.ofStoreFault e.toStoreFault).isConflict = true ↔
      code = some "23505" ∨ code = some "P0001" := by
  cases h with
  | unique => exact iff_of_true rfl (.inl rfl)
  | immutable => exact iff_of_true rfl (.inr rfl)
  | rest hother =>
    refine iff_of_false Bool.false_ne_true ?_
    rintro (rfl | rfl) <;> exact hother _ rfl (by decide)
  | _ => exact iff_of_false Bool.false_ne_true (by decide)

end CodeClass

namespace SqlFault

/-! ## Kinds of faults -/

/-- What a fault is for billing, after all three hands. -/
def billed (f : SqlFault) : BillingError := .ofStoreFault (DatabaseError.ofSqlFault f).toStoreFault

/-- A fault of the connection: none was to be had, or it did not hold. -/
inductive OfConnection : SqlFault → Prop
  | timedOut : OfConnection .poolTimedOut
  | closed : OfConnection .poolClosed
  | io (text : String) : OfConnection (.io text)
  | tls (text : String) : OfConnection (.tls text)

/-- A fault that no class is for: a column that cannot be read, a fault of the database with another
code or with none, or one of a kind that is not looked at. -/
inductive Unclassed : SqlFault → Prop
  | column (index text : String) : Unclassed (.columnDecode index text)
  | coded {code : Option String} (other : ∀ c ∈ code, c ∉ classedCodes)
      (constraint table : Option String) (text : String) :
      Unclassed (.database code constraint table text)
  | protocol (text : String) : Unclassed (.protocol text)
  | other (text : String) : Unclassed (.other text)

variable {f : SqlFault}

/-- **The class of a fault is one of the connection exactly if the fault is.** -/
theorem isConnectionError_iff :
    (DatabaseError.ofSqlFault f).isConnectionError = true ↔ f.OfConnection := by
  cases f with
  | poolTimedOut => exact iff_of_true rfl .timedOut
  | poolClosed => exact iff_of_true rfl .closed
  | io text => exact iff_of_true rfl (.io text)
  | tls text => exact iff_of_true rfl (.tls text)
  | database code constraint table text =>
    refine iff_of_false ?_ nofun
    rw [DatabaseError.ofSqlFault, (codeClass_ofCode ..).isConnectionError]
    exact Bool.false_ne_true
  | _ => exact iff_of_false Bool.false_ne_true nofun

/-- **What no class is for becomes an internal fault**, and nothing else does. -/
theorem internal_iff :
    (∃ text, (DatabaseError.ofSqlFault f).toStoreFault = .internal text) ↔ f.Unclassed := by
  cases f with
  | columnDecode index text => exact iff_of_true ⟨_, rfl⟩ (.column index text)
  | protocol text => exact iff_of_true ⟨_, rfl⟩ (.protocol text)
  | other text => exact iff_of_true ⟨_, rfl⟩ (.other text)
  | database code constraint table text =>
    rw [DatabaseError.ofSqlFault, (codeClass_ofCode ..).internal_iff]
    exact ⟨fun hother => .coded hother constraint table text, fun | .coded hother _ _ _ => hother⟩
  | _ => exact iff_of_false nofun nofun

/-- **A fault is a conflict by its code alone.** -/
theorem isConflict_billed_iff :
    f.billed.isConflict = true ↔ ∃ code constraint table text,
      f = .database (some code) constraint table text ∧ (code = "23505" ∨ code = "P0001") := by
  cases f with
  | database code constraint table text =>
    rw [billed, DatabaseError.ofSqlFault, (codeClass_ofCode ..).isConflict_iff]
    constructor
    · rintro (rfl | rfl)
      · exact ⟨_, _, _, _, rfl, .inl rfl⟩
      · exact ⟨_, _, _, _, rfl, .inr rfl⟩
    · rintro ⟨_, _, _, _, ⟨⟩, rfl | rfl⟩
      · exact .inl rfl
      · exact .inr rfl
  | _ => exact iff_of_false Bool.false_ne_true nofun

/-! ## Another try -/

/-- **Which faults are offered for another try.** A store fault is transient exactly if its class is
one of the connection, which it is exactly if the fault is one of the connection. Billing offers
these for another try, and beside them exactly the faults that no class is for; no fault is both. A
fault is a conflict exactly if the database answered it with the code of a row that is there already
or of a row that stays as it is. -/
theorem offered_for_retry (f : SqlFault) :
    ((DatabaseError.ofSqlFault f).toStoreFault.isTransient = true ↔
      (DatabaseError.ofSqlFault f).isConnectionError = true) ∧
    ((DatabaseError.ofSqlFault f).isConnectionError = true ↔ f.OfConnection) ∧
    (f.billed.isRetryable = true ↔
      (DatabaseError.ofSqlFault f).toStoreFault.isTransient = true ∨ f.Unclassed) ∧
    ¬((DatabaseError.ofSqlFault f).toStoreFault.isTransient = true ∧ f.Unclassed) ∧
    (f.billed.isConflict = true ↔ ∃ code constraint table text,
      f = .database (some code) constraint table text ∧
        (code = "23505" ∨ code = "P0001")) := by
  have htransient := DatabaseError.isTransient_toStoreFault (DatabaseError.ofSqlFault f)
  refine ⟨by rw [htransient], isConnectionError_iff, ?_, ?_, isConflict_billed_iff⟩
  · rw [billed, BillingError.isRetryable_ofStoreFault_iff, internal_iff]
  · rintro ⟨hpasses, hunclassed⟩
    obtain ⟨text, htext⟩ := internal_iff.2 hunclassed
    rw [htext] at hpasses
    cases hpasses

/-- **A fault that is not transient and is offered all the same**: the database does not understand
a statement, and will not the next time. -/
theorem offered_syntaxError :
    (database (some "42601") none none "syntax error").billed.isRetryable = true ∧
    (DatabaseError.ofSqlFault
      (database (some "42601") none none "syntax error")).toStoreFault.isTransient = false ∧
    (DatabaseError.ofSqlFault
      (database (some "42601") none none "syntax error")).isConnectionError = false := by
  decide

end SqlFault

end RideLedger

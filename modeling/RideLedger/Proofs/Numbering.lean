import RideLedger.Proofs.Filing

/-!
# Numbering — invoice numbers never meet

The number of an invoice shows the month of issue and a sequence, and it shows nothing else: two
invoices with one number are of one month and of one sequence (`InvoiceNumber.new_injective`). The
store counts the sequences of a tenant's month up, so that the next number is always free
(`MemoryStore.Numbered`).
-/

namespace RideLedger

/-! ## What a number shows -/

/-- The last occurrence of a mark splits a list in one way. -/
theorem splits_at_last {α : Type} {mark : α} {front front' back back' : List α}
    (hback : mark ∉ back) (hback' : mark ∉ back')
    (h : front ++ mark :: back = front' ++ mark :: back') : front = front' ∧ back = back' := by
  have hlong {back back' middle : List α} (hback : mark ∉ back)
      (h : mark :: back = middle ++ mark :: back') : middle = [] ∧ back = back' := by
    cases middle with
    | nil => exact ⟨rfl, (List.cons.inj h).2⟩
    | cons first rest =>
      have hrest : back = rest ++ mark :: back' := (List.cons.inj h).2
      exact absurd (hrest ▸ List.mem_append_right _ (List.mem_cons_self ..)) hback
  rcases List.append_eq_append_iff.1 h with ⟨middle, rfl, hmiddle⟩ | ⟨middle, rfl, hmiddle⟩
  · obtain ⟨rfl, hsame⟩ := hlong hback hmiddle
    exact ⟨(List.append_nil _).symm, hsame⟩
  · obtain ⟨rfl, hsame⟩ := hlong hback' hmiddle
    exact ⟨List.append_nil _, hsame.symm⟩

/-- The digits of a number, as characters. -/
theorem toList_padded (n width : Nat) :
    (padded n width).toList =
      List.replicate (width - (Nat.repr n).length) '0' ++ Nat.toDigits 10 n := by
  simp [padded, Decimal.digits]

/-- A padded number is as long as its width, or as its digits. -/
theorem length_toList_padded (n width : Nat) :
    (padded n width).toList.length = max width (Nat.toDigits 10 n).length := by
  have hrepr : (Nat.repr n).length = (Nat.toDigits 10 n).length := by simp [Nat.repr]
  rw [toList_padded, List.length_append, List.length_replicate, hrepr]
  omega

/-- A padded number has no other characters than digits. -/
theorem isDigit_of_mem_padded {n width : Nat} {c : Char} (h : c ∈ (padded n width).toList) :
    c.isDigit = true := by
  rw [toList_padded] at h
  rcases List.mem_append.1 h with h | h
  · rw [List.eq_of_mem_replicate h]
    rfl
  · exact Nat.isDigit_of_mem_toDigits (by decide) (by decide) h

/-- A sign is not a digit. -/
theorem sign_not_mem_padded {sign : Char} (hsign : sign.isDigit = false) (n width : Nat) :
    sign ∉ (padded n width).toList := fun h =>
  Bool.eq_false_iff.1 hsign (isDigit_of_mem_padded h)

/-- The value of a padded number. -/
theorem ofDigitChars_padded (n width : Nat) :
    Nat.ofDigitChars 10 (padded n width).toList 0 = n := by
  rw [toList_padded, Nat.ofDigitChars_append, Nat.ofDigitChars_replicate_zero, Nat.mul_zero,
    Nat.ofDigitChars_ten_toDigits]

/-- Padding loses nothing. -/
theorem padded_injective {n n' width : Nat}
    (h : (padded n width).toList = (padded n' width).toList) : n = n' := by
  rw [← ofDigitChars_padded n width, h, ofDigitChars_padded n' width]

/-- **A number shows its month and its sequence.** -/
theorem InvoiceNumber.new_injective {issued issued' : Date} {n n' : Nat}
    (h : InvoiceNumber.new issued n = InvoiceNumber.new issued' n') :
    periodKey issued = periodKey issued' ∧ n = n' := by
  have htext := congrArg (fun number : InvoiceNumber => number.text.toList) h
  simp only [new, String.toList_append, List.append_assoc] at htext
  have hrest := List.append_cancel_left (List.append_cancel_left htext)
  obtain ⟨hkey, hsequence⟩ := splits_at_last (sign_not_mem_padded rfl n 6)
    (sign_not_mem_padded rfl n' 6) hrest
  exact ⟨String.toList_inj.1 hkey, padded_injective hsequence⟩

namespace MemoryStore

variable {cancelled : Bool} {request : StoreRequest} {ctx : RequestContext} {d : InvoiceDraft}
  {i : Invoice} {s s' : MemoryStore}

/-! ## Counting up -/

/-- Setting the sequence of a key sets that one alone. -/
theorem lookup_setSequence {key key' : TenantId × String} {value : UInt32}
    {sequences : List ((TenantId × String) × UInt32)} :
    (setSequence key value sequences).lookup key' =
      if key' = key then some value else sequences.lookup key' := by
  have hskip {k : TenantId × String} (h : key' ≠ k) (v : UInt32)
      (rest : List ((TenantId × String) × UInt32)) :
      ((k, v) :: rest).lookup key' = rest.lookup key' := by
    rw [List.lookup_cons, beq_false_of_ne h]
  induction sequences with
  | nil =>
    by_cases h : key' = key
    · simp [setSequence, h]
    · rw [setSequence, hskip h, if_neg h]
  | cons first rest ih =>
    obtain ⟨k, v⟩ := first
    rw [setSequence]
    split
    · next hk =>
      subst hk
      by_cases h : key' = k
      · simp [h]
      · rw [hskip h, hskip h, if_neg h]
    · next hk =>
      by_cases h : key' = k
      · subst h
        simp [hk]
      · rw [hskip h, hskip h, ih]

/-- A store whose invoices have the numbers that were counted so far. -/
def Numbered (s : MemoryStore) : Prop :=
  ∀ i ∈ s.invoices.values, ∃ n,
    1 ≤ n ∧
      n ≤ ((s.sequences.lookup (i.tenant, InvoiceNumber.periodKey i.issueDate)).getD 0).toNat ∧
      i.number = .new i.issueDate n

theorem numbered_empty : empty.Numbered := fun _ hi => absurd hi List.not_mem_nil

/-- **The next number is free.** -/
theorem Numbered.free (h : s.Numbered) (hnumbered : s.numbered ctx d = .ok i) :
    ∀ j ∈ s.invoices.values, j.tenant = ctx.tenant → j.number ≠ i.number := by
  have hnumber := (numbers_of_numbered hnumbered).number
  intro j hj htenant hsame
  obtain ⟨n, -, hle, hnew⟩ := h j hj
  rw [hnumber, hnew] at hsame
  obtain ⟨hkey, hn⟩ := InvoiceNumber.new_injective hsame
  rw [htenant, hkey, hn] at hle
  exact Nat.not_succ_le_self _ hle

/-- **Every request goes on counting.** -/
theorem Commit.numbered (h : Commit cancelled s request s') (hs : s.Numbered) : s'.Numbered := by
  cases h with
  | @invoiced ctx d event i hdraft hnumbered hinvoice hnodup =>
    have hof := numbers_of_numbered hnumbered
    have hown : i.tenant = ctx.tenant := tenant_of_numbered hdraft hnumbered
    intro j hj
    simp only [MemoryStore.invoiced, WriteOnce.extend_values, List.map_cons, List.map_nil,
      List.mem_append, List.mem_singleton] at hj
    simp only [MemoryStore.invoiced, lookup_setSequence]
    rcases hj with hj | rfl
    · obtain ⟨n, hpos, hle, hnew⟩ := hs j hj
      refine ⟨n, hpos, ?_, hnew⟩
      split
      · next hkey =>
        rw [hkey, hof.issueDate] at hle
        rw [Option.getD_some, toNat_nextSequence hof.left]
        exact Nat.le_succ_of_le hle
      · exact hle
    · refine ⟨s.lastSequence ctx d.issueDate + 1, Nat.succ_pos _, ?_, hof.issueDate ▸ hof.number⟩
      simp [hown, toNat_nextSequence hof.left]
  | _ => exact hs

end MemoryStore

end RideLedger

import OrgPipeline.Platform.Bulk
import OrgPipeline.Proofs.Decimal.Digits
import OrgPipeline.Proofs.Decimal.Whole
import OrgPipeline.Proofs.Json.Members

/-!
# What the allowances of a bulk job decide

The counts of a bulk result are added up in floating point and compared there. As long
as they are whole numbers whose sum stays below two to the fifty-third nothing is lost on
the way, so that a check is a comparison of integers: it depends on how many batches
failed and how many records, and on nothing else of the result.
-/

set_option autoImplicit false

namespace OrgPipeline.Bulk

open Decimal (Stands)

/-- A whole number as the platform writes it: in either form of a number, or as the
text of its digits. -/
inductive Count : Json → Nat → Prop
  | int (n : Nat) : Count (.num (.int n)) n
  | float {x : Float} {n : Nat} (h : Stands x n) : Count (.num (.float x)) n
  | text {s : String} (hne : s ≠ "") (h : s.toList.all Decimal.isDigit = true) :
      Count (.str s) (Decimal.valueOf s.toList)

inductive Reports : List Json → Nat → Prop
  | nil : Reports [] 0
  | silent {b : Json} {bs : List Json} {n : Nat} (h : b.get? "numberRecordsFailed" = none)
      (rest : Reports bs n) : Reports (b :: bs) n
  | counted {b v : Json} {bs : List Json} {k n : Nat}
      (h : b.get? "numberRecordsFailed" = some v) (hv : Count v k) (rest : Reports bs n) :
      Reports (b :: bs) (k + n)

def failedAmong (bs : List Json) : Nat :=
  bs.countP fun b => (b.get? "state").bind Json.asString? == some "Failed"

structure Limits where
  batches : Option Int
  records : Option Int

def Holds (x : Float) (k : Int) : Prop := Stands x k ∧ k.natAbs < 2 ^ 53

def Limits.HeldBy (l : Limits) (a : BulkAllowance) : Prop :=
  Option.Rel Holds a.failedBatches l.batches ∧ Option.Rel Holds a.failedRecords l.records

def Limits.Exceeded (l : Limits) (failed total : Nat) : Prop :=
  (∃ k ∈ l.batches, k < (failed : Int)) ∨ ∃ k ∈ l.records, k < (total : Int)

def Limits.Eased (l l' : Limits) : Prop :=
  (∀ k' ∈ l'.batches, ∃ k ∈ l.batches, k ≤ k') ∧ ∀ k' ∈ l'.records, ∃ k ∈ l.records, k ≤ k'

theorem isFailed_eq (b : Json) :
    isFailed b = ((b.get? "state").bind Json.asString? == some "Failed") := by
  unfold isFailed
  cases b.get? "state" with
  | none => rfl
  | some v => cases v <;> simp [Json.asString?]

theorem failedBatches_eq (result : Json) :
    failedBatches result = Decimal.ofNat (failedAmong (batches result)) := by
  rw [failedBatches, failedAmong, List.countP_eq_length_filter]
  congr 3
  funext b
  exact isFailed_eq b

theorem Count.stands {v : Json} {n : Nat} (hv : Count v n) (h : n < 2 ^ 53) :
    Stands (countOf v) n := by
  cases hv with
  | int => exact Decimal.stands_ofInt (by omega)
  | float hx => exact hx
  | text hne hdigits =>
    have hvalue := Decimal.read_digits hne hdigits (Nat.lt_trans h (by decide))
    rw [countOf, Decimal.trim_digits hdigits, hvalue]
    exact Decimal.stands_ofNat h

theorem Reports.stands_foldl {bs : List Json} {n : Nat} (h : Reports bs n) :
    ∀ {x : Float} {m : Nat}, Stands x m → m + n < 2 ^ 53 →
      Stands (((bs.filterMap fun b => b.get? "numberRecordsFailed").map countOf).foldl (· + ·) x)
        (m + n : Nat) := by
  induction h with
  | nil => exact fun hx _ => hx
  | silent hb _ ih =>
    intro x m hx hbound
    rw [List.filterMap_cons_none (f := fun b : Json => b.get? "numberRecordsFailed") hb]
    exact ih hx hbound
  | @counted b v bs k n hb hv _ ih =>
    intro x m hx hbound
    have hstep : Stands (x + countOf v) (m + k : Nat) :=
      hx.add (hv.stands (by omega)) (by omega)
    rw [List.filterMap_cons_some (f := fun b : Json => b.get? "numberRecordsFailed") hb,
      List.map_cons, List.foldl_cons, ← Nat.add_assoc]
    exact ih hstep (by omega)

theorem stands_failedRecords {result : Json} {total : Nat} (h : Reports (batches result) total)
    (hbound : total < 2 ^ 53) : Stands (failedRecords result) total := by
  have hempty : Stands emptySum (0 : Nat) := Decimal.stands_zero_iff.2 ⟨.negative, rfl⟩
  have hsum := h.stands_foldl hempty (by omega)
  rwa [Nat.zero_add] at hsum

theorem Reports.append {bs cs : List Json} {m n : Nat} (hb : Reports bs m) (hc : Reports cs n) :
    Reports (bs ++ cs) (m + n) := by
  induction hb with
  | nil => rwa [Nat.zero_add]
  | silent h _ ih => exact .silent h ih
  | counted h hv _ ih =>
    rw [Nat.add_assoc]
    exact .counted h hv ih

theorem Reports.perm {bs cs : List Json} (hperm : bs.Perm cs) :
    ∀ {n : Nat}, Reports bs n → Reports cs n := by
  induction hperm with
  | nil => exact id
  | cons b _ ih =>
    intro n h
    cases h with
    | silent hb rest => exact .silent hb (ih rest)
    | counted hb hv rest => exact .counted hb hv (ih rest)
  | swap a b bs =>
    intro n h
    cases h with
    | silent hb rest =>
      cases rest with
      | silent ha rest => exact .silent ha (.silent hb rest)
      | counted ha hv rest => exact .counted ha hv (.silent hb rest)
    | counted hb hv rest =>
      cases rest with
      | silent ha rest => exact .silent ha (.counted hb hv rest)
      | counted ha hw rest =>
        rw [Nat.add_left_comm]
        exact .counted ha hw (.counted hb hv rest)
  | trans _ _ ih₁ ih₂ => exact fun h => ih₂ (ih₁ h)

theorem failedAmong_perm {bs cs : List Json} (h : bs.Perm cs) : failedAmong bs = failedAmong cs :=
  h.countP_eq _

theorem failedAmong_append (bs cs : List Json) :
    failedAmong (bs ++ cs) = failedAmong bs + failedAmong cs := List.countP_append

theorem problem_ne_nil_iff (what : String) (count : Float) (limit : Option Float) :
    problem what count limit ≠ [] ↔ ∃ l ∈ limit, l < count := by
  cases limit with
  | none => simp [problem]
  | some l =>
    unfold problem
    split <;> simp_all

theorem exists_lt_iff {limit : Option Float} {k : Option Int} (h : Option.Rel Holds limit k)
    {count : Float} {n : Nat} (hcount : ∀ {l : Float} {m : Int}, Holds l m → (l < count ↔ m < n)) :
    (∃ l ∈ limit, l < count) ↔ ∃ m ∈ k, m < (n : Int) := by
  cases h with
  | none => simp
  | some hl => simpa using hcount hl

theorem check_error_iff (operation : String) (result : Json) (allowance : BulkAllowance) :
    (∃ e, check operation result allowance = .error e) ↔ problems result allowance ≠ [] := by
  unfold check
  cases problems result allowance <;> simp

theorem check_ok_iff (operation : String) (result : Json) (allowance : BulkAllowance) :
    check operation result allowance = .ok () ↔ problems result allowance = [] := by
  unfold check
  cases problems result allowance <;> simp

theorem problems_ne_nil_iff {result : Json} {allowance : BulkAllowance} {total : Nat}
    {limits : Limits} (hreports : Reports (batches result) total) (hbound : total < 2 ^ 53)
    (hlimits : limits.HeldBy allowance) :
    problems result allowance ≠ [] ↔ limits.Exceeded (failedAmong (batches result)) total := by
  have hrecords := stands_failedRecords hreports hbound
  rw [problems, ne_eq, List.append_eq_nil_iff, not_and_or, Limits.Exceeded]
  apply or_congr
  · rw [← ne_eq, problem_ne_nil_iff, failedBatches_eq]
    exact exists_lt_iff hlimits.1 fun hl => hl.1.lt_ofNat_iff hl.2 _
  · rw [← ne_eq, problem_ne_nil_iff]
    exact exists_lt_iff hlimits.2 fun hl => hl.1.lt_iff hl.2 hrecords hbound

theorem Limits.Exceeded.mono {l : Limits} {f t f' t' : Nat} (h : l.Exceeded f t) (hf : f ≤ f')
    (ht : t ≤ t') : l.Exceeded f' t' := by
  rcases h with ⟨k, hk, hlt⟩ | ⟨k, hk, hlt⟩
  · exact Or.inl ⟨k, hk, by omega⟩
  · exact Or.inr ⟨k, hk, by omega⟩

theorem Limits.Eased.exceeded {l l' : Limits} (h : l.Eased l') {f t : Nat}
    (h' : l'.Exceeded f t) : l.Exceeded f t := by
  rcases h' with ⟨k', hk', hlt⟩ | ⟨k', hk', hlt⟩
  · obtain ⟨k, hk, hle⟩ := h.1 k' hk'
    exact Or.inl ⟨k, hk, by omega⟩
  · obtain ⟨k, hk, hle⟩ := h.2 k' hk'
    exact Or.inr ⟨k, hk, by omega⟩

theorem get?_summary_toJson (f : PlatformFailure) : f.toJson.get? "summary" = f.summary := by
  obtain ⟨name, command, stack, logs, summary⟩ := f
  rw [PlatformFailure.toJson, Json.get?_object]
  · simp [Json.lookup_append, Json.lookup_member?, Json.lookup]
  · cases command <;> cases stack <;> cases logs <;> cases summary <;> simp [Json.member?]

theorem summary_of_check_error {operation : String} {result : Json} {allowance : BulkAllowance}
    {e : Error} (h : check operation result allowance = .error e) :
    e.details.get? "summary" = some result := by
  unfold check at h
  split at h
  · cases h
  · obtain rfl := Except.error.inj h
    exact get?_summary_toJson _

/-- Within the domain of whole counts and limits, a check fails exactly when a limit that
is present is smaller than its count. Neither the order of the batches matters nor
whether a single one stands in a list; another batch keeps a failure, limits that are
raised or dropped keep a success, and a failure carries the result. -/
theorem check_decided (operation : String) {result : Json} {allowance : BulkAllowance}
    {total : Nat} {limits : Limits} (hreports : Reports (batches result) total)
    (hbound : total < 2 ^ 53) (hlimits : limits.HeldBy allowance) :
    ((∃ e, check operation result allowance = .error e) ↔
      limits.Exceeded (failedAmong (batches result)) total) ∧
    (∀ items items', result = .arr items → items.Perm items' →
      (check operation (.arr items') allowance = .ok () ↔
        check operation result allowance = .ok ())) ∧
    (∀ items batch n, result = .arr items → Reports [batch] n → total + n < 2 ^ 53 →
      (∃ e, check operation result allowance = .error e) →
      ∃ e, check operation (.arr (items ++ [batch])) allowance = .error e) ∧
    (∀ allowance' limits', Limits.HeldBy limits' allowance' → limits.Eased limits' →
      check operation result allowance = .ok () → check operation result allowance' = .ok ()) ∧
    ((∀ items, result ≠ .arr items) →
      (check operation (.arr [result]) allowance = .ok () ↔
        check operation result allowance = .ok ())) ∧
    (∀ e, check operation result allowance = .error e →
      e.details.get? "summary" = some result) := by
  have hdecided := problems_ne_nil_iff hreports hbound hlimits
  refine ⟨?_, ?_, ?_, ?_, ?_, fun e => summary_of_check_error⟩
  · rw [check_error_iff]
    exact hdecided
  · rintro items items' rfl hperm
    have hreports' : Reports (batches (.arr items')) total := hreports.perm hperm
    have hsame := problems_ne_nil_iff hreports' hbound hlimits
    rw [check_ok_iff, check_ok_iff, ← not_iff_not, ← ne_eq, ← ne_eq, hdecided, hsame,
      batches, batches, failedAmong_perm hperm]
  · rintro items batch n rfl hbatch hsum
    have hreports' : Reports (batches (.arr (items ++ [batch]))) (total + n) :=
      hreports.append hbatch
    have hmore := problems_ne_nil_iff hreports' hsum hlimits
    rw [check_error_iff, check_error_iff, hdecided, hmore, batches, batches, failedAmong_append]
    exact fun h => h.mono (Nat.le_add_right ..) (Nat.le_add_right ..)
  · intro allowance' limits' hlimits' heased
    have heasier := problems_ne_nil_iff hreports hbound hlimits'
    rw [check_ok_iff, check_ok_iff, ← not_imp_not, ← ne_eq, ← ne_eq, hdecided, heasier]
    exact heased.exceeded
  · intro hsingle
    have hbatches : batches result = [result] := by
      cases result with
      | arr items => exact absurd rfl (hsingle items)
      | _ => rfl
    have hlist : problems (.arr [result]) allowance = problems result allowance := by
      rw [problems, problems, failedBatches, failedBatches, failedRecords, failedRecords, hbatches,
        batches]
    rw [check_ok_iff, check_ok_iff, hlist]

/-- Three, two and one failed records, in three forms, are more than five. -/
theorem check_three_forms :
    let result := Json.arr
      [.obj [("numberRecordsFailed", .str "03"), ("state", .str "Failed")],
        .obj [("numberRecordsFailed", .num (.int 2))], .obj [],
        .obj [("numberRecordsFailed", .num (.float (Decimal.ofNat 1)))]]
    ∃ e, check "upsert" result ⟨some (Decimal.ofInt 1), some (Decimal.ofInt 5)⟩ = .error e ∧
      e.details.get? "summary" = some result := by
  intro result
  have hreports : Reports (batches result) (Decimal.valueOf "03".toList + (2 + (1 + 0))) :=
    .counted rfl (.text (by decide) (by decide)) <| .counted rfl (.int 2) <| .silent rfl <|
      .counted rfl (.float (Decimal.stands_ofNat (by decide))) .nil
  have hlimits : Limits.HeldBy ⟨some 1, some 5⟩
      ⟨some (Decimal.ofInt 1), some (Decimal.ofInt 5)⟩ :=
    ⟨.some ⟨Decimal.stands_ofInt (by decide), by decide⟩,
      .some ⟨Decimal.stands_ofInt (by decide), by decide⟩⟩
  obtain ⟨hfails, -, -, -, -, hsummary⟩ :=
    check_decided "upsert" hreports (by decide) hlimits
  obtain ⟨e, he⟩ := hfails.2 (Or.inr ⟨5, rfl, by decide⟩)
  exact ⟨e, he, hsummary e he⟩

end OrgPipeline.Bulk

import OrgPipeline.Proofs.Pipeline.Outcome

/-!
# The first steps of a run

What the steps up to a place find, do and leave depends on no step behind them.
A run that they do not end goes on from where they left it, and all that they
have put into the store stays there.
-/

set_option autoImplicit false

namespace OrgPipeline

section Places
variable {c : RunContext} {s : Step} {steps : List Step} {x : Store × World} {j k : Nat}

theorem before_take (h : j ≤ k) : before c (steps.take k) x j = before c steps x j := by
  rw [before, before, List.take_take, Nat.min_eq_left h]

theorem getElem?_take_some {t : Step} :
    (steps.take k)[j]? = some t ↔ j < k ∧ steps[j]? = some t := by
  rw [List.getElem?_take]
  by_cases h : j < k
  · simp [h]
  · simp [h]

theorem FirstAbort.take {e : Error} (hj : j < k) (h : FirstAbort c steps x j s e) :
    FirstAbort c (steps.take k) x j s e where
  step := getElem?_take_some.2 ⟨hj, h.step⟩
  aborts := by
    rw [before_take (Nat.le_of_lt hj)]
    exact h.aborts
  first i hi t ht := by
    obtain ⟨hik, hstep⟩ := getElem?_take_some.1 ht
    rw [before_take (Nat.le_of_lt hik)]
    exact h.first i hi t hstep

theorem FirstAbort.of_take {e : Error} (h : FirstAbort c (steps.take k) x j s e) :
    j < k ∧ FirstAbort c steps x j s e := by
  obtain ⟨hj, hstep⟩ := getElem?_take_some.1 h.step
  refine ⟨hj, hstep, before_take (Nat.le_of_lt hj) ▸ h.aborts, ?_⟩
  intro i hi t ht
  have hik : i < k := Nat.lt_trans hi hj
  rw [← before_take (Nat.le_of_lt hik)]
  exact h.first i hi t (getElem?_take_some.2 ⟨hik, ht⟩)

theorem FirstAbort.unbroken {e : Error} (h : FirstAbort c steps x k s e) :
    Unbroken c (steps.take k) x := by
  intro j t ht
  obtain ⟨hj, hstep⟩ := getElem?_take_some.1 ht
  rw [before_take (Nat.le_of_lt hj)]
  exact h.first j hj t hstep

theorem Unbroken.take_succ (h : Unbroken c (steps.take k) x) (hs : steps[k]? = some s)
    (hgoes : ∀ e, ¬ s.AbortsWith c (before c steps x k) e) :
    Unbroken c (steps.take (k + 1)) x := by
  intro j t ht
  obtain ⟨hj, hstep⟩ := getElem?_take_some.1 ht
  rw [before_take (Nat.le_of_lt hj)]
  by_cases hlast : j = k
  · subst hlast
    obtain rfl : s = t := Option.some.inj (hs.symm.trans hstep)
    exact hgoes
  · have hjk : j < k := by omega
    rw [← before_take (Nat.le_of_lt hjk)]
    exact h j t (getElem?_take_some.2 ⟨hjk, hstep⟩)

theorem id_not_mem_take (hids : (steps.map (·.id)).Nodup) (hs : steps[k]? = some s) :
    s.id ∉ (steps.take k).map (·.id) := by
  have hfirst : ((steps.take (k + 1)).map (·.id)).Nodup :=
    hids.sublist ((List.take_sublist _ _).map _)
  rw [List.take_add_one, hs, Option.toList_some, List.map_append, List.nodup_append] at hfirst
  intro hmem
  exact hfirst.2.2 s.id hmem s.id (by simp) rfl

end Places

/-- The run of the steps from a place on, in the store and the world that the step
there finds. -/
def following (c : RunContext) (steps : List Step) (x : Store × World) (k : Nat) :
    RunTrace × World :=
  runSteps c (steps.drop k) (before c steps x k).1 (before c steps x k).2

theorem runSteps_following {c : RunContext} {steps : List Step} {x : Store × World} {k : Nat}
    (h : Unbroken c (steps.take k) x) :
    (runSteps c steps x.1 x.2).1.events =
        (steps.take k).flatMap Step.finished ++ (following c steps x k).1.events ∧
      (runSteps c steps x.1 x.2).1.store = (following c steps x k).1.store ∧
      (runSteps c steps x.1 x.2).1.error = (following c steps x k).1.error ∧
      (runSteps c steps x.1 x.2).2 = (following c steps x k).2 := by
  induction k generalizing steps x with
  | zero => exact ⟨rfl, rfl, rfl, rfl⟩
  | succ k ih =>
    cases steps with
    | nil => exact ⟨rfl, rfl, rfl, rfl⟩
    | cons s others =>
      have hfollowing :
          following c (s :: others) x (k + 1) = following c others (s.after c x) k := rfl
      rw [List.take_succ_cons] at h
      obtain ⟨hevents, hstore, herror, hworld⟩ := runSteps_cons h.head others
      obtain ⟨ihevents, ihstore, iherror, ihworld⟩ := ih h.tail
      rw [hevents, hstore, herror, hworld, ihevents, ihstore, iherror, ihworld, hfollowing,
        List.take_succ_cons, List.flatMap_cons, List.append_assoc]
      exact ⟨rfl, rfl, rfl, rfl⟩

/-- Of the steps behind the one that ends a run nothing is left, not even in the
trace. -/
theorem runSteps_take {c : RunContext} {steps : List Step} {x : Store × World} {j k : Nat}
    {s : Step} {e : Error} (h : FirstAbort c (steps.take k) x j s e) :
    runSteps c steps x.1 x.2 = runSteps c (steps.take k) x.1 x.2 := by
  induction steps generalizing x j k with
  | nil => rw [List.take_nil]
  | cons t rest ih =>
    cases k with
    | zero => cases h.step
    | succ k =>
      rw [List.take_succ_cons] at h ⊢
      cases j with
      | zero =>
        obtain rfl : t = s := Option.some.inj h.step
        have haborts : t.AbortsWith c x e := h.aborts
        rw [runSteps_aborted haborts, runSteps_aborted haborts]
      | succ j =>
        have hrest := ih h.tail
        cases hkind : t.kind.isUnsupported with
        | true =>
          rw [Step.after_unsupported c x hkind] at hrest
          rw [runSteps_unsupported hkind, runSteps_unsupported hkind, hrest]
        | false =>
          have hgoes : ∀ e', ¬ t.AbortsWith c x e' := h.first 0 (Nat.succ_pos j) t rfl
          rw [runSteps_finished hkind hgoes, runSteps_finished hkind hgoes, hrest]

/-- Every record is of a step that was carried out, and tells how this step ended
in the store and the world that it found. -/
theorem mem_records {c : RunContext} {steps : List Step} {x : Store × World} {id : String}
    {r : StepRecord} (h : (id, r) ∈ records c steps x) :
    ∃ (j : Nat) (s : Step), steps[j]? = some s ∧ s.kind.isUnsupported = false ∧ s.id = id ∧
      r = .ofResult (s.result c (before c steps x j)) := by
  induction steps generalizing x with
  | nil => cases h
  | cons s rest ih =>
    rw [records, List.mem_append] at h
    rcases h with hhead | hrest
    · cases hkind : s.kind.isUnsupported with
      | true =>
        rw [Step.recorded_unsupported c x hkind] at hhead
        cases hhead
      | false =>
        rw [Step.recorded_supported c x hkind, List.mem_singleton, Prod.mk.injEq] at hhead
        exact ⟨0, s, rfl, hkind, hhead.1.symm, hhead.2⟩
    · obtain ⟨j, t, ht, hkind, hid, hr⟩ := ih hrest
      exact ⟨j + 1, t, ht, hkind, hid, hr⟩

theorem records_append (c : RunContext) (first rest : List Step) (x : Store × World) :
    records c (first ++ rest) x =
      records c first x ++ records c rest (before c first x first.length) := by
  induction first generalizing x with
  | nil => rfl
  | cons s others ih =>
    rw [List.cons_append, records, ih, records, List.append_assoc, List.length_cons,
      before_cons_succ]

theorem records_take_succ {c : RunContext} {s : Step} {steps : List Step} {x : Store × World}
    {k : Nat} (h : steps[k]? = some s) :
    records c (steps.take (k + 1)) x =
      records c (steps.take k) x ++ s.recorded c (before c steps x k) := by
  rw [List.take_add_one, h, Option.toList_some, records_append, before_length_take, records,
    records, List.append_nil]

def Tolerated (steps : List Step) (records : List (String × StepRecord)) : Prop :=
  ∀ id f, (id, StepRecord.failure f) ∈ records →
    ∃ s ∈ steps, s.id = id ∧ s.continueOnError = true

theorem Tolerated.of_take {steps : List Step} {k : Nat} {records : List (String × StepRecord)}
    (h : Tolerated (steps.take k) records) : Tolerated steps records := by
  intro id f hf
  obtain ⟨s, hs, hid, hcontinue⟩ := h id f hf
  exact ⟨s, List.mem_of_mem_take hs, hid, hcontinue⟩

theorem Unbroken.tolerated {c : RunContext} {steps : List Step} {x : Store × World}
    (h : Unbroken c steps x) : Tolerated steps (records c steps x) := by
  intro id f hf
  obtain ⟨j, s, hs, hkind, hid, hr⟩ := mem_records hf
  refine ⟨s, List.mem_of_getElem? hs, hid, ?_⟩
  by_contra hcontinue
  cases hresult : s.result c (before c steps x j) with
  | ok payload =>
    rw [hresult] at hr
    cases hr
  | error e => exact h j s hs e ⟨hkind, by simpa using hcontinue, hresult⟩

/-- The inputs and the variables are the same, and no record and no diagnostic is
lost or changed: new ones come behind the old ones. -/
structure Store.Extends (t s : Store) : Prop where
  inputs : t.inputs = s.inputs
  vars : t.vars = s.vars
  outputs : s.outputs.toList <+: t.outputs.toList
  diagnostics : s.diagnostics <+: t.diagnostics

namespace Store

theorem Extends.refl (s : Store) : s.Extends s :=
  ⟨rfl, rfl, List.prefix_refl _, List.prefix_refl _⟩

theorem Extends.trans {s t u : Store} (hut : u.Extends t) (hts : t.Extends s) : u.Extends s where
  inputs := hut.inputs.trans hts.inputs
  vars := hut.vars.trans hts.vars
  outputs := hts.outputs.trans hut.outputs
  diagnostics := hts.diagnostics.trans hut.diagnostics

theorem extends_notes (s : Store) (ds : List Diagnostic) :
    Extends { s with diagnostics := s.diagnostics ++ ds } s where
  inputs := rfl
  vars := rfl
  outputs := List.prefix_refl _
  diagnostics := List.prefix_append _ _

theorem extends_setOutput (s : Store) (id : String) (r : StepRecord) :
    (s.setOutput id r).Extends s := by
  rw [setOutput]
  split
  · exact Extends.refl s
  · next hnew =>
    have hid : id ∉ s.outputs.keys := by
      rw [← Table.get?_eq_none_iff]
      simpa [Table.contains] using hnew
    refine ⟨rfl, rfl, ?_, List.prefix_refl _⟩
    rw [Table.toList_insert_of_not_mem _ _ _ hid]
    exact List.prefix_append _ _

end Store

theorem Step.after_extends (c : RunContext) (s : Step) (x : Store × World) :
    (s.after c x).1.Extends x.1 := by
  cases hkind : s.kind.isUnsupported with
  | true =>
    rw [Step.after_unsupported c x hkind]
    exact Store.Extends.refl _
  | false =>
    obtain ⟨ds, hds⟩ := Step.after_store c x hkind
    rw [hds]
    exact (Store.extends_setOutput _ _ _).trans (Store.extends_notes _ ds)

theorem before_extends (c : RunContext) (steps : List Step) (x : Store × World) (k : Nat) :
    (before c steps x k).1.Extends x.1 := by
  induction k generalizing steps x with
  | zero => exact Store.Extends.refl _
  | succ k ih =>
    cases steps with
    | nil => exact Store.Extends.refl _
    | cons s rest =>
      rw [before_cons_succ]
      exact (ih rest (s.after c x)).trans (s.after_extends c x)

theorem before_extends_of_le (c : RunContext) (steps : List Step) (x : Store × World) {j k : Nat}
    (h : j ≤ k) : (before c steps x k).1.Extends (before c steps x j).1 := by
  obtain ⟨n, rfl⟩ := Nat.exists_eq_add_of_le h
  have hsplit : before c steps x (j + n) = before c (steps.drop j) (before c steps x j) n := by
    rw [before, before, before, List.take_add, List.foldl_append]
  rw [hsplit]
  exact before_extends c _ _ n

theorem runSteps_extends (c : RunContext) (steps : List Step) (x : Store × World) :
    (runSteps c steps x.1 x.2).1.store.Extends x.1 := by
  rcases unbroken_or_firstAbort c steps x with h | ⟨k, s, e, h⟩
  · rw [(runSteps_unbroken h).2.1]
    exact before_extends c steps x _
  · rw [(runSteps_firstAbort h).2.1]
    exact before_extends c steps x _

end OrgPipeline

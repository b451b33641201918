import OrgPipeline.Proofs.Pipeline.Agreement

/-!
# Steps that are passed over

A run of a pipeline is the run of its supported steps. The others add a start
and a finish each at their places, as far as the run comes, and are listed as
skipped.
-/

set_option autoImplicit false

namespace OrgPipeline

def carriedOut (steps : List Step) : List Step := steps.filter fun s => !s.kind.isUnsupported

def passedOver (steps : List Step) : List Step := steps.filter fun s => s.kind.isUnsupported

/-- The events of a run of the supported steps, with a start and a finish put in
for every other step that comes before the end of the run. -/
def withPassedOver : List Step → List Event → List Event
  | [], events => events
  | s :: rest, events =>
    if s.kind.isUnsupported then s.finished ++ withPassedOver rest events
    else if events.take 2 = s.finished then s.finished ++ withPassedOver rest (events.drop 2)
    else events

section
variable {c : RunContext} {s : Step} {rest steps : List Step} {x : Store × World}

theorem carriedOut_unsupported (h : s.kind.isUnsupported = true) :
    carriedOut (s :: rest) = carriedOut rest :=
  List.filter_cons_of_neg (by simp [h])

theorem carriedOut_supported (h : s.kind.isUnsupported = false) :
    carriedOut (s :: rest) = s :: carriedOut rest :=
  List.filter_cons_of_pos (by simp [h])

theorem passedOver_carriedOut (steps : List Step) : passedOver (carriedOut steps) = [] := by
  rw [passedOver, List.filter_eq_nil_iff]
  intro s hs
  simpa using List.of_mem_filter hs

theorem carriedOut_append_passedOver_perm (steps : List Step) :
    (carriedOut steps ++ passedOver steps).Perm steps := by
  have h := List.filter_append_perm (fun s : Step => !s.kind.isUnsupported) steps
  simpa [carriedOut, passedOver] using h

theorem withPassedOver_unsupported (h : s.kind.isUnsupported = true) (events : List Event) :
    withPassedOver (s :: rest) events = s.finished ++ withPassedOver rest events := by
  rw [withPassedOver, if_pos h]

theorem withPassedOver_finished (rest : List Step) (h : s.kind.isUnsupported = false)
    (events : List Event) :
    withPassedOver (s :: rest) (s.finished ++ events) =
      s.finished ++ withPassedOver rest events := by
  have hfinished : (s.finished ++ events).take 2 = s.finished := rfl
  rw [withPassedOver, if_neg (by simp [h]), if_pos hfinished]
  rfl

theorem withPassedOver_aborted (h : s.kind.isUnsupported = false) (message : String) :
    withPassedOver (s :: rest) [.stepStart s.id, .stepError message] =
      [.stepStart s.id, .stepError message] := by
  rw [withPassedOver, if_neg (by simp [h]), if_neg (by simp [Step.finished])]

/-- Without the steps that are passed over a run leaves the same store, error and
world, and the same events but for theirs. -/
theorem runSteps_carriedOut (c : RunContext) (steps : List Step) (x : Store × World) :
    (runSteps c steps x.1 x.2).1.events =
        withPassedOver steps (runSteps c (carriedOut steps) x.1 x.2).1.events ∧
      (runSteps c steps x.1 x.2).1.store = (runSteps c (carriedOut steps) x.1 x.2).1.store ∧
      (runSteps c steps x.1 x.2).1.error = (runSteps c (carriedOut steps) x.1 x.2).1.error ∧
      (runSteps c steps x.1 x.2).2 = (runSteps c (carriedOut steps) x.1 x.2).2 := by
  induction steps generalizing x with
  | nil => exact ⟨rfl, rfl, rfl, rfl⟩
  | cons s rest ih =>
    cases hkind : s.kind.isUnsupported with
    | true =>
      obtain ⟨hevents, hstore, herror, hworld⟩ := ih x
      rw [carriedOut_unsupported hkind, runSteps_unsupported hkind,
        withPassedOver_unsupported hkind, ← hevents]
      exact ⟨rfl, hstore, herror, hworld⟩
    | false =>
      obtain ⟨hevents, hstore, herror, hworld⟩ := ih (s.after c x)
      rw [carriedOut_supported hkind, runSteps_supported hkind, runSteps_supported hkind]
      cases s.fatal? (s.result c x) with
      | some e =>
        refine ⟨?_, rfl, rfl, rfl⟩
        exact (withPassedOver_aborted hkind e.message).symm
      | none =>
        refine ⟨?_, hstore, herror, hworld⟩
        have hinserted := withPassedOver_finished rest hkind
          (runSteps c (carriedOut rest) (s.after c x).1 (s.after c x).2).1.events
        rw [← hevents] at hinserted
        exact hinserted.symm

/-- A run without an error comes to its end, and has then skipped all steps that
are not supported. -/
theorem runSteps_skipped (h : Unbroken c steps x) :
    (runSteps c steps x.1 x.2).1.skipped = (passedOver steps).map (·.id) := by
  induction steps generalizing x with
  | nil => rfl
  | cons s rest ih =>
    have hrest := ih h.tail
    cases hkind : s.kind.isUnsupported with
    | true =>
      rw [Step.after_unsupported c x hkind] at hrest
      have hpassed : passedOver (s :: rest) = s :: passedOver rest := List.filter_cons_of_pos hkind
      rw [runSteps_unsupported hkind, hpassed, List.map_cons, ← hrest]
      rfl
    | false =>
      have hpassed : passedOver (s :: rest) = passedOver rest :=
        List.filter_cons_of_neg (by simp [hkind])
      rw [runSteps_finished hkind h.head, hpassed, ← hrest]
      rfl

theorem unbroken_of_error_none (h : (runSteps c steps x.1 x.2).1.error = none) :
    Unbroken c steps x := by
  rcases unbroken_or_firstAbort c steps x with hrun | ⟨k, s, e, hrun⟩
  · exact hrun
  · rw [(runSteps_firstAbort hrun).2.2.1] at h
    cases h

end

end OrgPipeline

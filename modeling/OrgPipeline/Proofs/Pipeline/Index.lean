import OrgPipeline.Proofs.Pipeline.Outcome

/-!
# The places of steps

An index is built exactly where no identifier comes twice, and then it knows the place
of every step. Otherwise the error tells the first place at which an identifier comes
again, and the place at which it came first. A pipeline that was loaded has such an
index, so that a step is found by its identifier and no place lies behind the last
step.
-/

set_option autoImplicit false

namespace OrgPipeline

namespace StepIndex

def idAt (steps : List Step) (i : Nat) : Option String := (steps[i]?).map (·.id)

structure Indexes (index : StepIndex) (steps : List Step) : Prop where
  position : ∀ id i, index.position? id = some i ↔ idAt steps i = some id
  unknown : ∀ id, (∀ s ∈ steps, s.id ≠ id) → index.position? id = none
  size : index.size = steps.length

/-- Of all places whose identifier was there before, `again` is the least, and `first`
is the place at which its identifier came first. -/
structure FirstRepeat (steps : List Step) (id : String) (first again : Nat) : Prop where
  order : first < again
  id_first : idAt steps first = some id
  id_again : idAt steps again = some id
  unseen : ∀ i < first, idAt steps i ≠ some id
  least : ∀ j < again, ∀ i < j, idAt steps i ≠ idAt steps j

section
variable {steps seen rest : List Step} {id : String} {i j : Nat}

theorem idAt_eq : idAt steps i = (steps.map (·.id))[i]? := List.getElem?_map.symm

theorem idAt_eq_some_iff : idAt steps i = some id ↔ ∃ s, steps[i]? = some s ∧ s.id = id :=
  Option.map_eq_some_iff

theorem idAt_append_left (h : i < seen.length) : idAt (seen ++ rest) i = idAt seen i := by
  rw [idAt, List.getElem?_append_left h, idAt]

theorem lt_of_idAt (h : idAt steps i = some id) : i < steps.length := by
  obtain ⟨s, hs, -⟩ := idAt_eq_some_iff.1 h
  exact (List.getElem?_eq_some_iff.1 hs).1

theorem idAt_inj (hids : (steps.map (·.id)).Nodup) (hi : i < steps.length)
    (h : idAt steps i = idAt steps j) : i = j := by
  rw [idAt_eq, idAt_eq] at h
  exact (List.getElem?_inj (by simpa using hi) hids).1 h

theorem mem_ofSteps : (id, i) ∈ (ofSteps steps).positions ↔ idAt steps i = some id := by
  simp only [idAt_eq_some_iff, ofSteps, List.mem_map, Prod.mk.injEq, Prod.exists]
  constructor
  · rintro ⟨s, k, hmem, hid, rfl⟩
    exact ⟨s, List.mem_zipIdx_iff_getElem?.1 hmem, hid⟩
  · rintro ⟨s, hs, hid⟩
    exact ⟨s, i, List.mem_zipIdx_iff_getElem?.2 hs, hid, rfl⟩

theorem position?_ofSteps (hids : (steps.map (·.id)).Nodup) :
    (ofSteps steps).position? id = some i ↔ idAt steps i = some id := by
  have hfound (k : Nat) (h : (ofSteps steps).position? id = some k) : idAt steps k = some id := by
    obtain ⟨before, after, hsplit, -⟩ := List.lookup_eq_some_iff.1 h
    rw [← mem_ofSteps, hsplit]
    exact List.mem_append_right _ List.mem_cons_self
  refine ⟨hfound i, fun h => ?_⟩
  cases hp : (ofSteps steps).position? id with
  | none =>
    have hkey : id ∈ (ofSteps steps).positions.map Prod.fst :=
      List.mem_map_of_mem (mem_ofSteps.2 h)
    exact absurd hkey (not_mem_of_position? hp)
  | some k => rw [idAt_inj hids (lt_of_idAt h) (h.trans (hfound k hp).symm)]

theorem indexes_ofSteps (hids : (steps.map (·.id)).Nodup) : (ofSteps steps).Indexes steps where
  position _ _ := position?_ofSteps hids
  unknown id hid := by
    cases hp : (ofSteps steps).position? id with
    | none => rfl
    | some k =>
      obtain ⟨s, hs, hsid⟩ := idAt_eq_some_iff.1 ((position?_ofSteps hids).1 hp)
      exact absurd hsid (hid s (List.mem_of_getElem? hs))
  size := by simp [size, ofSteps]

theorem ofSteps_concat (seen : List Step) (s : Step) :
    ofSteps (seen ++ [s]) = ⟨(ofSteps seen).positions ++ [(s.id, seen.length)]⟩ := by
  simp [ofSteps, List.zipIdx_append]

/-- The steps that are in the index have distinct identifiers, so that the first one
found in it is the first to come again. -/
theorem extend_error (hseen : (seen.map (·.id)).Nodup) {e : Error}
    (h : extend (ofSteps seen) seen.length rest = .error e) :
    ∃ id first again, FirstRepeat (seen ++ rest) id first again ∧
      e = Cause.duplicateStep id first again := by
  induction rest generalizing seen with
  | nil => cases h
  | cons s rest ih =>
    rw [extend] at h
    cases hp : (ofSteps seen).position? s.id with
    | some first =>
      rw [hp] at h
      cases h
      have hfirst := (position?_ofSteps hseen).1 hp
      have hlt := lt_of_idAt hfirst
      refine ⟨s.id, first, seen.length, ⟨hlt, ?_, ?_, ?_, ?_⟩, rfl⟩
      · rwa [idAt_append_left hlt]
      · simp [idAt]
      · intro i hi
        have hi' : i < seen.length := Nat.lt_trans hi hlt
        rw [idAt_append_left hi', ← hfirst]
        exact fun heq => absurd (idAt_inj hseen hi' heq) (Nat.ne_of_lt hi)
      · intro j hj i hi
        have hi' : i < seen.length := Nat.lt_trans hi hj
        rw [idAt_append_left hj, idAt_append_left hi']
        exact fun heq => absurd (idAt_inj hseen hi' heq) (Nat.ne_of_lt hi)
    | none =>
      rw [hp] at h
      -- the new step goes to the end of those in the index
      have hnew : s.id ∉ seen.map (·.id) := by
        intro hmem
        obtain ⟨t, ht, hid⟩ := List.mem_map.1 hmem
        obtain ⟨k, hk⟩ := List.mem_iff_getElem?.1 ht
        have hfound := (position?_ofSteps hseen).2 (idAt_eq_some_iff.2 ⟨t, hk, hid⟩)
        rw [hp] at hfound
        cases hfound
      have hseen' : ((seen ++ [s]).map (·.id)).Nodup := by
        rw [List.map_append, List.map_singleton, ← List.concat_eq_append]
        exact hseen.concat hnew
      have hlength : seen.length + 1 = (seen ++ [s]).length := by simp
      dsimp only at h
      rw [← ofSteps_concat, hlength] at h
      obtain ⟨id, first, again, hrepeat, he⟩ := ih hseen' h
      exact ⟨id, first, again, by simpa using hrepeat, he⟩

theorem build_error {e : Error} (h : build steps = .error e) :
    ∃ id first again, FirstRepeat steps id first again ∧
      e = Cause.duplicateStep id first again := by
  have hempty : (([] : List Step).map (·.id)).Nodup := List.nodup_nil
  simpa using extend_error hempty h

end
end StepIndex

namespace Engine

/-- What is found under an identifier: the step that has it, with its number and the
number of all steps. -/
structure FindsSteps (e : Engine) (p : LoadedPipeline) : Prop where
  within : ∀ id i, p.index.position? id = some i → i < p.config.steps.length
  found : ∀ id place, e.getStep id = some place ↔
    ∃ i s, p.config.steps[i]? = some s ∧ s.id = id ∧
      place = ⟨s, i + 1, p.config.steps.length⟩
  missed : ∀ id, e.getStep id = none ↔ ∀ s ∈ p.config.steps, s.id ≠ id

theorem findsSteps {e : Engine} {p : LoadedPipeline} (hp : e.pipeline = some p)
    (h : p.index.Indexes p.config.steps) : e.FindsSteps p := by
  have hfound (id : String) (place : StepPlace) : e.getStep id = some place ↔
      ∃ i s, p.config.steps[i]? = some s ∧ s.id = id ∧
        place = ⟨s, i + 1, p.config.steps.length⟩ := by
    simp only [getStep, hp, Option.bind_eq_bind, Option.bind_some, Option.bind_eq_some_iff,
      h.position, StepIndex.idAt_eq_some_iff, Option.pure_def, Option.some.injEq]
    constructor
    · rintro ⟨i, ⟨s, hs, hid⟩, t, ht, rfl⟩
      obtain rfl : s = t := Option.some.inj (hs.symm.trans ht)
      exact ⟨i, s, hs, hid, rfl⟩
    · rintro ⟨i, s, hs, hid, rfl⟩
      exact ⟨i, ⟨s, hs, hid⟩, s, hs, rfl⟩
  refine ⟨?_, hfound, ?_⟩
  · intro id i hi
    exact StepIndex.lt_of_idAt ((h.position id i).1 hi)
  · intro id
    rw [Option.eq_none_iff_forall_ne_some]
    constructor
    · intro hnone s hs hid
      obtain ⟨i, hi⟩ := List.mem_iff_getElem?.1 hs
      exact hnone _ ((hfound id _).2 ⟨i, s, hi, hid, rfl⟩)
    · intro hnone place hplace
      obtain ⟨i, s, hs, hid, -⟩ := (hfound id place).1 hplace
      exact hnone s (List.mem_of_getElem? hs) hid

/-- Of any steps an index is built exactly if their identifiers are distinct, and if not,
the error names the first repetition. An engine with a pipeline that was loaded finds
every step in its place. -/
theorem getStep_indexed :
    (∀ steps : List Step,
      ((∃ index, StepIndex.build steps = .ok index) ↔ (steps.map (·.id)).Nodup) ∧
      (∀ index, StepIndex.build steps = .ok index → index.Indexes steps) ∧
      (¬ (steps.map (·.id)).Nodup → ∃ id first again,
        StepIndex.FirstRepeat steps id first again ∧
          StepIndex.build steps = .error (Cause.duplicateStep id first again : Error))) ∧
    (∀ (e : Engine) (p : LoadedPipeline) (path : String) (allowUnknown : Bool) (w w' : World),
      LoadedPipeline.load path allowUnknown w = (.ok p, w') → e.pipeline = some p →
        e.FindsSteps p) := by
  have hindexes (steps : List Step) (index : StepIndex) (h : StepIndex.build steps = .ok index) :
      index.Indexes steps := by
    have hids := StepIndex.build_ok h
    rw [StepIndex.build_of_nodup hids] at h
    cases h
    exact StepIndex.indexes_ofSteps hids
  constructor
  · intro steps
    refine ⟨⟨?_, fun hids => ⟨_, StepIndex.build_of_nodup hids⟩⟩, hindexes steps, ?_⟩
    · rintro ⟨index, h⟩
      exact StepIndex.build_ok h
    · intro hids
      cases h : StepIndex.build steps with
      | ok index => exact absurd (StepIndex.build_ok h) hids
      | error e =>
        obtain ⟨id, first, again, hrepeat, rfl⟩ := StepIndex.build_error h
        exact ⟨id, first, again, hrepeat, rfl⟩
  · intro e p path allowUnknown w w' hload hp
    obtain ⟨text, format, htext⟩ := LoadedPipeline.load_text hload
    exact findsSteps hp (hindexes _ _ (LoadedPipeline.ofText_ok htext).2)

def Stopped.repeated : List Step :=
  [⟨"a", false, .authList⟩, ⟨"b", false, .authList⟩, ⟨"a", false, .authList⟩]

theorem getStep_indexed_stopped :
    (∃ p w', LoadedPipeline.load "run.json" true Stopped.world = (.ok p, w') ∧
      ∃ s, (Stopped.engine p).getStep "c" = some ⟨s, 3, 4⟩ ∧ s.id = "c") ∧
    StepIndex.FirstRepeat Stopped.repeated "a" 0 2 := by
  obtain ⟨hbuild, hfinds⟩ := getStep_indexed
  have hrepeated : StepIndex.FirstRepeat Stopped.repeated "a" 0 2 := by
    obtain ⟨id, first, again, hrepeat, herror⟩ := (hbuild Stopped.repeated).2.2 (by decide)
    have hbuilt : StepIndex.build Stopped.repeated =
        .error (Cause.duplicateStep "a" 0 2 : Error) := rfl
    rw [hbuilt] at herror
    cases herror
    exact hrepeat
  refine ⟨?_, hrepeated⟩
  have hfacts : (LoadedPipeline.load "run.json" true Stopped.world).1.toOption.map (fun p =>
      p.config.steps.map (·.id)) = some ["a", "b", "c", "d"] := by decide +kernel
  rcases hload : LoadedPipeline.load "run.json" true Stopped.world with ⟨result, w'⟩
  rw [hload] at hfacts
  obtain ⟨p, rfl, hids⟩ := Sequence.ok_of_toOption_map hfacts
  have hlength : p.config.steps.length = 4 := by
    have hcount := congrArg List.length hids
    simpa using hcount
  have hthird : StepIndex.idAt p.config.steps 2 = some "c" := by
    rw [StepIndex.idAt_eq, hids]
    rfl
  obtain ⟨s, hs, hid⟩ := StepIndex.idAt_eq_some_iff.1 hthird
  have hfound := (hfinds (Stopped.engine p) p _ _ _ _ hload rfl).found "c" ⟨s, 3, 4⟩
  exact ⟨p, w', rfl, s, hfound.2 ⟨2, s, hs, hid, by rw [hlength]⟩, hid⟩

end Engine
end OrgPipeline

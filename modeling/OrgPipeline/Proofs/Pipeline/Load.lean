import Mathlib.Data.List.Nodup
import OrgPipeline.Pipeline.Load
import OrgPipeline.Proofs.Sequence

/-!
# What loading makes sure of

A pipeline that was loaded has an index of its steps, and an index is only
built where no identifier comes twice. No identifier is blank.
-/

set_option autoImplicit false

namespace OrgPipeline
open Sequence

namespace StepIndex

theorem not_mem_of_position? {index : StepIndex} {id : String} (h : index.position? id = none) :
    id ∉ index.positions.map Prod.fst := by
  intro hm
  obtain ⟨entry, hentry, rfl⟩ := List.mem_map.1 hm
  have hne := List.lookup_eq_none_iff.1 h entry hentry
  simp at hne

/-- The identifiers in the index and those of the steps added to it are all
distinct. -/
theorem extend_ok {index final : StepIndex} {position : Nat} {steps : List Step}
    (hindex : (index.positions.map Prod.fst).Nodup)
    (h : extend index position steps = .ok final) :
    (index.positions.map Prod.fst ++ steps.map (·.id)).Nodup := by
  induction steps generalizing index position with
  | nil => simpa using hindex
  | cons step rest ih =>
    rw [extend] at h
    cases hp : index.position? step.id with
    | some first =>
      rw [hp] at h
      cases h
    | none =>
      rw [hp] at h
      -- the new identifier moves from the steps to the end of the index
      have hnew := not_mem_of_position? hp
      have hindex' : ((index.positions ++ [(step.id, position)]).map Prod.fst).Nodup := by
        rw [List.map_append, List.map_singleton, ← List.concat_eq_append]
        exact hindex.concat hnew
      have hrest := ih hindex' h
      simpa using hrest

theorem build_ok {steps : List Step} {index : StepIndex} (h : build steps = .ok index) :
    (steps.map (·.id)).Nodup := by
  have hempty : ((⟨[]⟩ : StepIndex).positions.map Prod.fst).Nodup := List.nodup_nil
  simpa using extend_ok hempty h

theorem position?_of_not_mem {index : StepIndex} {id : String}
    (h : id ∉ index.positions.map Prod.fst) : index.position? id = none := by
  rw [position?, List.lookup_eq_none_iff]
  intro entry hentry
  rw [bne_iff_ne]
  rintro rfl
  exact h (List.mem_map_of_mem hentry)

def ofSteps (steps : List Step) : StepIndex := ⟨steps.zipIdx.map fun s => (s.1.id, s.2)⟩

theorem extend_of_nodup {index : StepIndex} (position : Nat) {steps : List Step}
    (h : (index.positions.map Prod.fst ++ steps.map (·.id)).Nodup) :
    extend index position steps =
      .ok ⟨index.positions ++ (steps.zipIdx position).map fun s => (s.1.id, s.2)⟩ := by
  induction steps generalizing index position with
  | nil => simp [extend]
  | cons step rest ih =>
    have hnew : step.id ∉ index.positions.map Prod.fst := by
      intro hmem
      exact (List.nodup_append.1 h).2.2 step.id hmem step.id (by simp) rfl
    rw [extend, position?_of_not_mem hnew]
    dsimp only
    rw [ih (position + 1) (by simpa using h)]
    simp

theorem build_of_nodup {steps : List Step} (h : (steps.map (·.id)).Nodup) :
    build steps = .ok (ofSteps steps) := by
  have hempty : ((⟨[]⟩ : StepIndex).positions.map Prod.fst ++ steps.map (·.id)).Nodup := by simpa
  simpa [build, ofSteps] using extend_of_nodup 0 hempty

end StepIndex

theorem StepEntry.check_ok {allowUnknown : Bool} {position : Nat} {entry : StepEntry} {s : Step}
    (h : entry.check allowUnknown position = .ok s) :
    s.id = entry.id ∧ Text.blank entry.id = false := by
  unfold StepEntry.check at h
  split at h
  · cases h
  · next hblank =>
    refine ⟨?_, by simpa using hblank⟩
    split at h
    · cases h
      rfl
    · split at h
      · cases h
        rfl
      · cases h
    · cases h

/-- Without problems every step is that of an entry which passed its check. -/
theorem checkSteps_ok {allowUnknown : Bool} {position : Nat} {entries : List StepEntry}
    {steps : List Step} (h : checkSteps allowUnknown position entries = ([], steps)) :
    ∀ s ∈ steps, ∃ entry ∈ entries, ∃ n, entry.check allowUnknown n = .ok s := by
  induction entries generalizing position steps with
  | nil =>
    cases h
    intro s hs
    cases hs
  | cons entry rest ih =>
    rcases hrest : checkSteps allowUnknown (position + 1) rest with ⟨problems, others⟩
    rw [checkSteps, hrest] at h
    cases hcheck : entry.check allowUnknown position with
    | error problem =>
      rw [hcheck] at h
      cases h
    | ok step =>
      rw [hcheck] at h
      cases h
      rw [List.forall_mem_cons]
      refine ⟨⟨entry, List.mem_cons_self, position, hcheck⟩, ?_⟩
      intro s hs
      obtain ⟨other, hother, n, hn⟩ := ih hrest s hs
      exact ⟨other, List.mem_cons_of_mem _ hother, n, hn⟩

theorem PipelineConfig.parse_ok {text label : String} {format : Format} {allowUnknown : Bool}
    {config : PipelineConfig} (h : parse text format label allowUnknown = .ok config) :
    ∃ entries, checkSteps allowUnknown 0 entries = ([], config.steps) := by
  unfold parse at h
  cases hread : format.read text with
  | none =>
    rw [hread] at h
    cases h
  | some document =>
    rw [hread] at h
    dsimp only at h
    unfold ofJson at h
    cases hentry : PipelineEntry.ofJson document with
    | error why =>
      rw [hentry] at h
      cases h
    | ok entry =>
      rw [hentry] at h
      dsimp only at h
      rcases hchecked : checkSteps allowUnknown 0 entry.steps with ⟨problems, steps⟩
      rw [hchecked] at h
      cases problems with
      | nil =>
        cases h
        exact ⟨entry.steps, hchecked⟩
      | cons problem others => cases h

namespace LoadedPipeline

theorem ofText_ok {path text label : String} {format : Format} {allowUnknown : Bool}
    {p : LoadedPipeline} (h : ofText path text format label allowUnknown = .ok p) :
    PipelineConfig.parse text format label allowUnknown = .ok p.config ∧
      StepIndex.build p.config.steps = .ok p.index := by
  unfold ofText at h
  cases hc : PipelineConfig.parse text format label allowUnknown with
  | error e =>
    rw [hc] at h
    cases h
  | ok config =>
    rw [hc] at h
    cases hi : StepIndex.build config.steps with
    | error e =>
      simp only [bind, Except.bind, hi] at h
      cases h
    | ok index =>
      simp only [bind, Except.bind, hi] at h
      cases h
      exact ⟨rfl, hi⟩

theorem load_text {path : String} {allowUnknown : Bool} {p : LoadedPipeline} {w w' : World}
    (h : load path allowUnknown w = (.ok p, w')) :
    ∃ text format, ofText path text format path allowUnknown = .ok p := by
  unfold load at h
  obtain ⟨there, u, -, hrest⟩ := bind_ok h
  cases there with
  | false => cases hrest
  | true =>
    rw [if_pos rfl] at hrest
    cases hf : Format.ofPath path with
    | none =>
      rw [hf] at hrest
      cases hrest
    | some format =>
      rw [hf] at hrest
      obtain ⟨text, u', -, hread⟩ := bind_ok hrest
      exact ⟨text, format, congrArg Prod.fst hread⟩

theorem load_ok {path : String} {allowUnknown : Bool} {p : LoadedPipeline} {w w' : World}
    (h : load path allowUnknown w = (.ok p, w')) : (p.config.steps.map (·.id)).Nodup := by
  obtain ⟨text, format, hp⟩ := load_text h
  exact StepIndex.build_ok (ofText_ok hp).2

theorem load_id {path : String} {allowUnknown : Bool} {p : LoadedPipeline} {w w' : World}
    (h : load path allowUnknown w = (.ok p, w')) {s : Step} (hs : s ∈ p.config.steps) :
    Text.blank s.id = false := by
  obtain ⟨text, format, hp⟩ := load_text h
  obtain ⟨entries, hentries⟩ := PipelineConfig.parse_ok (ofText_ok hp).1
  obtain ⟨entry, -, n, hcheck⟩ := checkSteps_ok hentries s hs
  obtain ⟨hid, hblank⟩ := StepEntry.check_ok hcheck
  rwa [hid]

end LoadedPipeline
end OrgPipeline

import OrgPipeline.Proofs.Pipeline.Load
import OrgPipeline.Proofs.Step.Kinds

/-!
# Which steps a pipeline file may have

The steps of a file are checked one by one, each on its own. Either all of them pass and
the pipeline has one step for each, in the order of the file, or the error lists one
problem for each step that does not pass, in the same order and with the place where the
step stands.
-/

set_option autoImplicit false

namespace OrgPipeline

theorem StepProblem.text_begins (problem : StepProblem) :
    ∃ what, problem.text = "steps[" ++ toString problem.position ++ "]" ++ what := by
  have hbracket : "] (" = "]" ++ " (" := by decide
  cases problem with
  | blankId n =>
    have hcolon : "]: id must not be empty" = "]" ++ ": id must not be empty" := by decide
    refine ⟨": id must not be empty", ?_⟩
    simp only [text, position, hcolon, String.append_assoc]
  | unknownType n id type =>
    refine ⟨" (" ++ id ++ "): unknown step type '" ++ type ++ "'", ?_⟩
    simp only [text, position, hbracket, String.append_assoc]
  | misfit n id why =>
    refine ⟨" (" ++ id ++ "): " ++ why.message, ?_⟩
    simp only [text, position, hbracket, String.append_assoc]

namespace StepEntry
variable {allowUnknown : Bool} {position : Nat} {e : StepEntry}

/-- A step passes if its identifier is not blank and its type is known and takes its
parameters; a type that is not known passes where such steps are allowed. -/
def Acceptable (allowUnknown : Bool) (e : StepEntry) : Prop :=
  Text.blank e.id = false ∧
    ((e.type ∈ StepKind.types ∧ ∃ kind, StepKind.parse e.type e.params = .ok (some kind)) ∨
      (e.type ∉ StepKind.types ∧ allowUnknown = true))

structure Becomes (e : StepEntry) (s : Step) : Prop where
  id : s.id = e.id
  continueOnError : s.continueOnError = e.continueOnError
  typeName : s.kind.typeName = e.type
  unsupported : s.kind.isUnsupported = true ↔ e.type ∉ StepKind.types
  kind : ∀ kind, StepKind.parse e.type e.params = .ok (some kind) → s.kind = kind

structure Blamed (allowUnknown : Bool) (entry : StepEntry × Nat) (problem : StepProblem) :
    Prop where
  check : entry.1.check allowUnknown entry.2 = .error problem
  position : problem.position = entry.2
  named : ∃ what, problem.text = "steps[" ++ toString entry.2 ++ "]" ++ what

theorem becomes_of_parse {kind : StepKind}
    (h : StepKind.parse e.type e.params = .ok (some kind)) :
    e.type ∈ StepKind.types ∧ e.Becomes ⟨e.id, e.continueOnError, kind⟩ := by
  obtain ⟨htype, hsupported⟩ := StepKind.makes_of_parse h
  have hlisted : e.type ∈ StepKind.types := by
    by_contra hnot
    rw [StepKind.parse_eq_none.2 hnot] at h
    cases h
  refine ⟨hlisted, rfl, rfl, htype, ?_, ?_⟩
  · simp [hsupported, hlisted]
  · intro other hother
    rw [h] at hother
    cases hother
    rfl

theorem becomes_unsupported (h : e.type ∉ StepKind.types) :
    e.Becomes ⟨e.id, e.continueOnError, .unsupported e.type⟩ := by
  refine ⟨rfl, rfl, rfl, iff_of_true rfl h, ?_⟩
  intro kind hkind
  rw [StepKind.parse_eq_none.2 h] at hkind
  cases hkind

/-- The check makes the step of an entry that passes, and of any other a problem at its
place. -/
theorem check_cases (allowUnknown : Bool) (position : Nat) (e : StepEntry) :
    (e.Acceptable allowUnknown ∧ ∃ s, e.check allowUnknown position = .ok s ∧ e.Becomes s) ∨
      (¬ e.Acceptable allowUnknown ∧
        ∃ problem, e.check allowUnknown position = .error problem ∧
          problem.position = position) := by
  unfold check
  by_cases hblank : Text.blank e.id = true
  · rw [if_pos hblank]
    refine Or.inr ⟨?_, _, rfl, rfl⟩
    rintro ⟨hnot, -⟩
    rw [hblank] at hnot
    cases hnot
  · have hid : Text.blank e.id = false := by simpa using hblank
    rw [if_neg hblank]
    cases hparse : StepKind.parse e.type e.params with
    | error why =>
      refine Or.inr ⟨?_, _, rfl, rfl⟩
      rintro ⟨-, ⟨-, kind, hkind⟩ | ⟨hunknown, -⟩⟩
      · rw [hparse] at hkind
        cases hkind
      · rw [StepKind.parse_eq_none.2 hunknown] at hparse
        cases hparse
    | ok o =>
      cases o with
      | some kind =>
        obtain ⟨hlisted, hbecomes⟩ := becomes_of_parse hparse
        exact Or.inl ⟨⟨hid, Or.inl ⟨hlisted, kind, hparse⟩⟩, _, rfl, hbecomes⟩
      | none =>
        have hunknown := StepKind.parse_eq_none.1 hparse
        cases allowUnknown with
        | true => exact Or.inl ⟨⟨hid, Or.inr ⟨hunknown, rfl⟩⟩, _, rfl, becomes_unsupported hunknown⟩
        | false =>
          refine Or.inr ⟨?_, _, rfl, rfl⟩
          rintro ⟨-, ⟨hlisted, -⟩ | ⟨-, hallowed⟩⟩
          · exact hunknown hlisted
          · cases hallowed

instance : Decidable (e.Acceptable allowUnknown) :=
  decidable_of_iff ((e.check allowUnknown 0).toBool = true) <| by
    rcases check_cases allowUnknown 0 e with ⟨hgood, s, hs, -⟩ | ⟨hbad, problem, hproblem, -⟩
    · simp [hs, hgood, Except.toBool]
    · simp [hproblem, hbad, Except.toBool]

def atFault (allowUnknown : Bool) (position : Nat) (entries : List StepEntry) :
    List (StepEntry × Nat) :=
  (entries.zipIdx position).filter fun entry => ¬ entry.1.Acceptable allowUnknown

theorem atFault_cons_of_acceptable (h : e.Acceptable allowUnknown) (rest : List StepEntry) :
    atFault allowUnknown position (e :: rest) = atFault allowUnknown (position + 1) rest := by
  simp [atFault, h]

theorem atFault_cons_of_not (h : ¬ e.Acceptable allowUnknown) (rest : List StepEntry) :
    atFault allowUnknown position (e :: rest) =
      (e, position) :: atFault allowUnknown (position + 1) rest := by
  simp [atFault, h]

theorem atFault_eq_nil {entries : List StepEntry} :
    atFault allowUnknown position entries = [] ↔ ∀ e ∈ entries, e.Acceptable allowUnknown := by
  induction entries generalizing position with
  | nil => simp [atFault]
  | cons e rest ih =>
    by_cases h : e.Acceptable allowUnknown
    · rw [atFault_cons_of_acceptable h, ih]
      simp [h]
    · rw [atFault_cons_of_not h]
      simp [h]

end StepEntry

section
variable (allowUnknown : Bool) (position : Nat) (entries : List StepEntry)

theorem checkSteps_problems :
    List.Forall₂ (StepEntry.Blamed allowUnknown)
      (StepEntry.atFault allowUnknown position entries)
      (checkSteps allowUnknown position entries).1 := by
  induction entries generalizing position with
  | nil => exact .nil
  | cons e rest ih =>
    rcases StepEntry.check_cases allowUnknown position e with
      ⟨hgood, s, hs, -⟩ | ⟨hbad, problem, hproblem, rfl⟩
    · rw [StepEntry.atFault_cons_of_acceptable hgood, checkSteps, hs]
      exact ih _
    · rw [StepEntry.atFault_cons_of_not hbad, checkSteps, hproblem]
      exact .cons ⟨hproblem, rfl, problem.text_begins⟩ (ih _)

theorem checkSteps_steps (h : ∀ e ∈ entries, e.Acceptable allowUnknown) :
    List.Forall₂ StepEntry.Becomes entries (checkSteps allowUnknown position entries).2 := by
  induction entries generalizing position with
  | nil => exact .nil
  | cons e rest ih =>
    rw [List.forall_mem_cons] at h
    rcases StepEntry.check_cases allowUnknown position e with ⟨-, s, hs, hbecomes⟩ | ⟨hbad, -⟩
    · rw [checkSteps, hs]
      exact .cons hbecomes (ih _ h.2)
    · exact absurd h.1 hbad

theorem checkSteps_problems_eq_nil :
    (checkSteps allowUnknown position entries).1 = [] ↔
      ∀ e ∈ entries, e.Acceptable allowUnknown := by
  have hlength := (checkSteps_problems allowUnknown position entries).length_eq
  rw [← StepEntry.atFault_eq_nil, ← List.length_eq_zero_iff, ← List.length_eq_zero_iff, hlength]

end

namespace PipelineConfig
variable {text : String} {format : Format} {document : Json} {entry : PipelineEntry}
  (label : String) (allowUnknown : Bool)

section
variable {steps : List Step} (hread : format.read text = some document)
  (hentry : PipelineEntry.ofJson document = .ok entry)
include hread hentry

theorem parse_of_no_problem (h : checkSteps allowUnknown 0 entry.steps = ([], steps)) :
    parse text format label allowUnknown =
      .ok ⟨entry.version, entry.inputs, entry.vars, steps⟩ := by
  simp only [parse, hread, ofJson, hentry, h]

theorem parse_of_problems {problem : StepProblem} {others : List StepProblem}
    (h : checkSteps allowUnknown 0 entry.steps = (problem :: others, steps)) :
    parse text format label allowUnknown = .error (problemsError label (problem :: others)) := by
  simp only [parse, hread, ofJson, hentry, h]

end

theorem problemsError_cause (problems : List StepProblem) :
    (problemsError label problems).cause =
      .configSchema label (Text.join "; " (problems.map StepProblem.text)) := by
  simp only [problemsError]
  split <;> rfl

/-- A file with the shape of a pipeline is accepted exactly if all its steps pass, and
then each of them becomes a step, in order. Otherwise the error is one of the schema, and
it is made of one problem for each step that does not pass. -/
theorem parse_checks_every_step (hread : format.read text = some document)
    (hentry : PipelineEntry.ofJson document = .ok entry) :
    ((∃ config, parse text format label allowUnknown = .ok config) ↔
      ∀ e ∈ entry.steps, e.Acceptable allowUnknown) ∧
    (∀ config, parse text format label allowUnknown = .ok config →
      config.version = entry.version ∧ config.inputs = entry.inputs ∧ config.vars = entry.vars ∧
        List.Forall₂ StepEntry.Becomes entry.steps config.steps) ∧
    ∀ error, parse text format label allowUnknown = .error error →
      error.code = .configInvalidSchema ∧
        ∃ problems, error.cause =
            .configSchema label (Text.join "; " (problems.map StepProblem.text)) ∧
          List.Forall₂ (StepEntry.Blamed allowUnknown)
            (StepEntry.atFault allowUnknown 0 entry.steps) problems := by
  have hnil := checkSteps_problems_eq_nil allowUnknown 0 entry.steps
  have hproblems := checkSteps_problems allowUnknown 0 entry.steps
  have hsteps := checkSteps_steps allowUnknown 0 entry.steps
  rcases hchecked : checkSteps allowUnknown 0 entry.steps with ⟨problems, steps⟩
  rw [hchecked] at hnil hproblems hsteps
  cases problems with
  | nil =>
    have hparse := parse_of_no_problem label allowUnknown hread hentry hchecked
    have hgood := hnil.1 rfl
    refine ⟨iff_of_true ⟨_, hparse⟩ hgood, ?_, ?_⟩
    · intro config hconfig
      rw [hparse] at hconfig
      cases hconfig
      exact ⟨rfl, rfl, rfl, hsteps hgood⟩
    · intro error herror
      rw [hparse] at herror
      cases herror
  | cons problem others =>
    have hparse := parse_of_problems label allowUnknown hread hentry hchecked
    refine ⟨iff_of_false ?_ fun hgood => List.cons_ne_nil _ _ (hnil.2 hgood), ?_, ?_⟩
    · rintro ⟨config, hconfig⟩
      rw [hparse] at hconfig
      cases hconfig
    · intro config hconfig
      rw [hparse] at hconfig
      cases hconfig
    · intro error herror
      rw [hparse] at herror
      cases herror
      have hcause := problemsError_cause label (problem :: others)
      refine ⟨?_, _, hcause, hproblems⟩
      rw [Error.code, hcause]
      rfl

theorem parse_checks_every_step_unknown :
    let text := "\x7b\"steps\":[\x7b\"id\":\"a\",\"type\":\"sfdx.auth.list\"\x7d," ++
      "\x7b\"id\":\"b\",\"type\":\"x\"\x7d]\x7d"
    ∃ e error problem, parse text .json "run.json" false = .error error ∧
      error.cause = .configSchema "run.json" (Text.join "; " [problem.text]) ∧
      StepEntry.Blamed false (e, 1) problem := by
  intro text
  have hfault : (((Format.json.read text).bind fun d => (PipelineEntry.ofJson d).toOption).map
      fun entry => (StepEntry.atFault false 0 entry.steps).map Prod.snd) = some [1] := by
    decide +kernel
  obtain ⟨entry, hentry, hplaces⟩ := Option.map_eq_some_iff.1 hfault
  obtain ⟨document, hread, hdocument⟩ := Option.bind_eq_some_iff.1 hentry
  have hshape : PipelineEntry.ofJson document = .ok entry := by
    cases h : PipelineEntry.ofJson document with
    | ok other =>
      rw [h] at hdocument
      cases hdocument
      rfl
    | error why =>
      rw [h] at hdocument
      cases hdocument
  obtain ⟨hiff, -, herror⟩ := parse_checks_every_step "run.json" false hread hshape
  obtain ⟨⟨e, n⟩, hlisted, hn⟩ := List.map_eq_singleton_iff.1 hplaces
  cases hn
  cases hparse : parse text .json "run.json" false with
  | ok config =>
    have hnone : StepEntry.atFault false 0 entry.steps = [] :=
      StepEntry.atFault_eq_nil.2 (hiff.1 ⟨config, hparse⟩)
    rw [hlisted] at hnone
    cases hnone
  | error error =>
    obtain ⟨-, problems, hcause, hblamed⟩ := herror error hparse
    rw [hlisted] at hblamed
    cases hblamed with
    | cons hfirst hrest =>
      cases hrest
      exact ⟨e, error, _, rfl, hcause, hfirst⟩

end PipelineConfig
end OrgPipeline

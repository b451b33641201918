import OrgPipeline.CommandLine.Commands
import OrgPipeline.Proofs.Step.Errors

/-!
# What a command can end in

Each error has the code of its cause. Behind the tools stand programs, and what
they answer becomes an error of the platform, of the version control or of the
operating system. Words for inputs, a pipeline file and a step with a handler end in
no other errors, so the exit code of a failure is one, two or twenty.
-/

set_option autoImplicit false

namespace OrgPipeline
open Sequence

theorem Error.Ordinary.exitCode_mem {e : Error} (h : e.Ordinary) : e.exitCode ∈ [1, 2, 20] := by
  obtain ⟨-, hloaded⟩ := h
  unfold Error.exitCode
  cases hcode : e.code with
  | engineNotLoaded => exact absurd hcode hloaded
  | _ => decide

theorem Launch.raises_capture (l : Launch) (context : String) :
    Raises Error.Ordinary (l.capture context) := by
  intro w e w' h
  unfold Launch.capture at h
  rcases hrun : l.run w with ⟨problem | reply, u⟩
  · rw [hrun] at h
    cases h
    exact ⟨nofun, nofun⟩
  · rw [hrun] at h
    cases h

namespace Platform

theorem Envelope.raises_answer (subcommand : String) (o : ProgramOutput) :
    Raises Error.Ordinary (Action.ofExcept (answer subcommand o)) := by
  apply raises_ofExcept
  intro e h
  unfold answer at h
  split at h
  · split at h
    · cases h
    · cases h
      exact ⟨nofun, nofun⟩
  · split at h
    · cases h
      exact ⟨nofun, nofun⟩
    · cases h
      exact ⟨nofun, nofun⟩

namespace Sfdx

theorem raises_runEnveloped (tool : Sfdx) (c : Command) :
    Raises Error.Ordinary (tool.runEnveloped c) :=
  raises_bind (Launch.raises_capture _ _) fun _ => Envelope.raises_answer _ _

theorem raises_runQuery (tool : Sfdx) (c : Command) (csvFile : String) (header : Option String) :
    Raises Error.Ordinary (tool.runQuery c csvFile header) :=
  raises_bind (Launch.raises_capture _ _) fun _ =>
    raises_ite (raises_bind (raises_writeText _ _ _) fun _ => raises_pure _)
      (raises_throw ⟨nofun, nofun⟩)

theorem raises_perform (tool : Sfdx) (c : Command) : Raises Error.Ordinary (tool.perform c) := by
  unfold perform
  split
  · exact raises_runQuery _ _ _ _
  · exact raises_runEnveloped _ _

end Sfdx
end Platform

theorem VersionControl.raises_perform (directory : String) (c : Command) :
    Raises Error.Ordinary (perform directory c) := by
  have houtput : Raises Error.Ordinary
      (Launch.trimmedOutput ⟨directory, program, c.args, none⟩ c.context) :=
    raises_bind (Launch.raises_capture _ _) fun _ =>
      raises_ite (raises_pure _) (raises_throw ⟨nofun, nofun⟩)
  exact raises_attempt_bind houtput (fun _ => raises_pure ()) fun _ _ =>
    raises_throw ⟨nofun, nofun⟩

theorem Tools.ordinary_of_answers {bin directory : String} {e : Error}
    (h : (ofPrograms bin directory).Answers e) : e.Ordinary := by
  rcases h with ⟨command, w, hanswer⟩ | ⟨command, w, hanswer⟩
  · exact Platform.Sfdx.raises_perform _ command w e _ (Prod.ext hanswer rfl)
  · exact VersionControl.raises_perform _ command w e _ (Prod.ext hanswer rfl)

theorem Foreseen.ordinary {bin directory : String} {e : Error}
    (h : Foreseen (.ofPrograms bin directory) e) : e.Ordinary :=
  h.elim id Tools.ordinary_of_answers

theorem StepIndex.ordinary_extend {index : StepIndex} {position : Nat} {steps : List Step}
    {e : Error} (h : extend index position steps = .error e) : e.Ordinary := by
  induction steps generalizing index position with
  | nil => cases h
  | cons step rest ih =>
    rw [extend] at h
    split at h
    · cases h
      exact ⟨nofun, nofun⟩
    · exact ih h

theorem ordinary_problemsError (label : String) (problems : List StepProblem) :
    (problemsError label problems).Ordinary := by
  have hcode : (problemsError label problems).code = .configInvalidSchema := by
    unfold problemsError
    dsimp only
    split <;> rfl
  rw [Error.Ordinary, hcode]
  exact ⟨nofun, nofun⟩

theorem PipelineConfig.ordinary_parse {text label : String} {format : Format}
    {allowUnknown : Bool} {e : Error} (h : parse text format label allowUnknown = .error e) :
    e.Ordinary := by
  unfold parse at h
  split at h
  · cases h
    exact ⟨nofun, nofun⟩
  · unfold ofJson at h
    split at h
    · cases h
      exact ⟨nofun, nofun⟩
    · split at h
      · cases h
      · cases h
        exact ordinary_problemsError _ _

namespace LoadedPipeline

theorem ordinary_ofText {path text label : String} {format : Format} {allowUnknown : Bool}
    {e : Error} (h : ofText path text format label allowUnknown = .error e) : e.Ordinary := by
  unfold ofText at h
  cases hconfig : PipelineConfig.parse text format label allowUnknown with
  | error e' =>
    rw [hconfig] at h
    cases h
    exact PipelineConfig.ordinary_parse hconfig
  | ok config =>
    rw [hconfig] at h
    cases hindex : StepIndex.build config.steps with
    | error e' =>
      simp only [bind, Except.bind, hindex] at h
      cases h
      exact StepIndex.ordinary_extend hindex
    | ok index =>
      simp only [bind, Except.bind, hindex] at h
      cases h

theorem raises_load (path : String) (allowUnknown : Bool) :
    Raises Error.Ordinary (load path allowUnknown) := by
  refine raises_bind (raises_askFiles _) fun isFile => raises_ite ?_ (raises_cause ⟨nofun, nofun⟩)
  split
  · exact raises_bind (raises_readText _ _) fun text => raises_ofExcept fun e => ordinary_ofText
  · exact raises_cause ⟨nofun, nofun⟩

end LoadedPipeline

theorem exists_of_mapM_error {α β : Type} {f : α → Except Error β} {xs : List α} {e : Error}
    (h : xs.mapM f = .error e) : ∃ x ∈ xs, f x = .error e := by
  induction xs with
  | nil => cases h
  | cons x xs ih =>
    rw [List.mapM_cons] at h
    cases hx : f x with
    | error e' =>
      rw [hx] at h
      cases h
      exact ⟨x, List.mem_cons_self, hx⟩
    | ok y =>
      cases hxs : xs.mapM f with
      | error e' =>
        simp only [hx, hxs, bind, Except.bind] at h
        cases h
        obtain ⟨z, hz, hfz⟩ := ih hxs
        exact ⟨z, List.mem_cons_of_mem x hz, hfz⟩
      | ok ys =>
        simp only [hx, hxs, bind, Except.bind] at h
        cases h

namespace Inputs

theorem raises_readStdin : Raises Error.Ordinary readStdin := by
  intro w e w' h
  unfold readStdin at h
  split at h
  · cases h
    exact ⟨nofun, nofun⟩
  · split at h
    · cases h
    · cases h
      exact ⟨nofun, nofun⟩

theorem raises_specText (env : Environment) (spec : String) :
    Raises Error.Ordinary (specText env spec) := by
  refine raises_ite raises_readStdin ?_
  split
  · exact raises_ite (raises_throw ⟨nofun, nofun⟩) (raises_readText _ _)
  · exact raises_pure _

theorem raises_ofSpec (env : Environment) (spec : Option String) :
    Raises Error.Ordinary (ofSpec env spec) := by
  cases spec with
  | none => exact raises_pure _
  | some spec =>
    refine raises_bind (raises_specText env spec) fun text => raises_ofExcept ?_
    intro e h
    unfold ofObject at h
    split at h
    · cases h
    · cases h
      exact ⟨nofun, nofun⟩

theorem ordinary_ofPair {pair : String} {e : Error} (h : ofPair pair = .error e) :
    e.Ordinary := by
  unfold ofPair at h
  split at h
  · cases h
    exact ⟨nofun, nofun⟩
  · split at h
    · cases h
      exact ⟨nofun, nofun⟩
    · cases h

theorem ordinary_ofPairs {pairs : List String} {e : Error} (h : ofPairs pairs = .error e) :
    e.Ordinary := by
  unfold ofPairs at h
  cases hread : pairs.mapM ofPair with
  | error e' =>
    rw [hread] at h
    cases h
    obtain ⟨pair, -, hpair⟩ := exists_of_mapM_error hread
    exact ordinary_ofPair hpair
  | ok read =>
    rw [hread] at h
    cases h

theorem raises_merge (env : Environment) (spec : Option String) (pairs : List String) :
    Raises Error.Ordinary (merge env spec pairs) :=
  raises_bind (raises_ofSpec env spec) fun _ =>
    raises_bind (raises_ofExcept fun _ => ordinary_ofPairs) fun _ => raises_pure _

end Inputs
end OrgPipeline

import OrgPipeline.Proofs.Pipeline.Outcome
import OrgPipeline.Proofs.Record

/-!
# Steps that can be referred to

Loading accepts every identifier that is not blank. A reference names what stands
ahead of the first dot, so that a step with a dot in its identifier is out of
reach: what is meant for its record goes to that of another step.
-/

set_option autoImplicit false

namespace OrgPipeline

def Reference.RefersTo (raw id : String) : Prop :=
  ∃ path, path ≠ [] ∧ parse raw = some (.step id path)

namespace Reference

theorem stepText_success (id : String) :
    stepText id ["success"] = "$step." ++ id ++ ".success" := by
  simp [stepText, Text.join, String.append_assoc]

theorem parse_success {id : String} (h : '.' ∉ id.toList) :
    parse ("$step." ++ id ++ ".success") = some (.step id ["success"]) := by
  rw [← stepText_success]
  exact parse_stepText (spelled_success h)

theorem refersTo_iff (id : String) : (∃ raw, RefersTo raw id) ↔ '.' ∉ id.toList := by
  constructor
  · rintro ⟨raw, path, -, h⟩
    exact id_dotless h
  · intro h
    exact ⟨_, ["success"], by simp, parse_success h⟩

theorem exists_first {id : String} (h : '.' ∈ id.toList) :
    ∃ first rest, id = first ++ "." ++ rest ∧ '.' ∉ first.toList := by
  obtain ⟨first, rest, hid, hfirst⟩ := List.eq_append_cons_of_mem h
  refine ⟨String.ofList first, String.ofList rest, ?_, by simpa using hfirst⟩
  apply String.toList_injective
  simpa using hid

end Reference

namespace Store

structure SameBeside (id : String) (s t : Store) : Prop where
  inputs : s.inputs = t.inputs
  vars : s.vars = t.vars
  outputs : ∀ other, other ≠ id → s.outputs.get? other = t.outputs.get? other

theorem lookup_sameBeside (env : Environment) {id : String} {s t : Store}
    (h : s.SameBeside id t) :
    ∀ reference : Reference, (∀ path, reference ≠ .step id path) →
      s.lookup env reference = t.lookup env reference
  | .env _, _ => rfl
  | .input name, _ => congrArg (fun inputs => (inputs.get? name).join) h.inputs
  | .variable name, _ => congrArg (fun vars => (vars.get? name).join) h.vars
  | .step _ [], _ => rfl
  | .step name (segment :: others), hother => by
    have hname : name ≠ id := fun hname => hother (segment :: others) (hname ▸ rfl)
    rw [lookup, lookup, h.outputs name hname] <;> simp
  | .unknown _, _ => rfl

theorem resolve_sameBeside (env : Environment) {id : String} (hid : '.' ∈ id.toList) {s t : Store}
    (h : s.SameBeside id t) (raw : String) : (resolve env raw s).1 = (resolve env raw t).1 := by
  unfold resolve
  cases hraw : Reference.parse raw with
  | none => rfl
  | some reference =>
    have hlookup : s.lookup env reference = t.lookup env reference := by
      apply lookup_sameBeside env h
      rintro path rfl
      exact Reference.id_dotless hraw hid
    cases reference with
    | unknown body => rfl
    | _ => exact hlookup

end Store

namespace Step

structure Referable (s : Step) : Prop where
  parsed : Reference.parse ("$step." ++ s.id ++ ".success") = some (.step s.id ["success"])
  found : ∀ (env : Environment) (store : Store) (record : StepRecord),
    store.outputs.get? s.id = some record →
      Store.resolve env ("$step." ++ s.id ++ ".success") store =
        (some (Param.boolText record.isSuccess), store)

/-- What a later step asks for is looked for under another identifier, and no text
gives anything of the record. -/
structure OutOfReach (s : Step) : Prop where
  elsewhere : ∃ first rest, s.id = first ++ "." ++ rest ∧ '.' ∉ first.toList ∧
    Reference.parse ("$step." ++ s.id ++ ".success") =
      some (.step first (Text.split '.' rest ++ ["success"]))
  unread : ∀ (env : Environment) (store other : Store), store.SameBeside s.id other →
    ∀ raw, (Store.resolve env raw store).1 = (Store.resolve env raw other).1

theorem referable {s : Step} (h : '.' ∉ s.id.toList) : s.Referable where
  parsed := Reference.parse_success h
  found env store record hrecord := by
    rw [← Reference.stepText_success,
      Store.resolve_stepText env hrecord (Reference.spelled_success h), StepRecord.descend_success]
    rfl

theorem outOfReach {s : Step} (h : '.' ∈ s.id.toList) : s.OutOfReach where
  elsewhere := by
    obtain ⟨first, rest, hid, hfirst⟩ := Reference.exists_first h
    refine ⟨first, rest, hid, hfirst, ?_⟩
    have hsuccess := Reference.spelled_success hfirst
    rw [← Reference.stepText_success, hid]
    exact Reference.parse_stepText_dotted hfirst hsuccess.nonempty hsuccess.dotless hsuccess.last
  unread env _ _ hbeside raw := Store.resolve_sameBeside env h hbeside raw

end Step

/-- Which of the steps that loading accepts can be referred to: those without a
dot in their identifiers. -/
theorem load_refersTo (path : String) (allowUnknown : Bool) (p : LoadedPipeline) (w w' : World)
    (hload : LoadedPipeline.load path allowUnknown w = (.ok p, w')) :
    ∀ s ∈ p.config.steps, Text.blank s.id = false ∧
      ((∃ raw, Reference.RefersTo raw s.id) ↔ '.' ∉ s.id.toList) ∧
      ('.' ∉ s.id.toList → s.Referable) ∧ ('.' ∈ s.id.toList → s.OutOfReach) := by
  intro s hs
  exact ⟨LoadedPipeline.load_id hload hs, Reference.refersTo_iff s.id, Step.referable,
    Step.outOfReach⟩

namespace Dotted

def text : String :=
  "\x7b\"steps\":[\x7b\"id\":\"a\",\"type\":\"sfdx.auth.list\"\x7d," ++
    "\x7b\"id\":\"a.outputs\",\"type\":\"sfdx.auth.list\"\x7d]\x7d"

def world : World :=
  { Engine.Stopped.world with files := ⟨[(["run.json"], .file (Octets.ofText text))]⟩ }

end Dotted

/-- Both steps are loaded, but what is meant for the second goes to the payload of
the first. -/
theorem load_refersTo_dotted :
    ∃ p w', LoadedPipeline.load "run.json" false Dotted.world = (.ok p, w') ∧
      (∃ s ∈ p.config.steps, s.id = "a" ∧ s.Referable) ∧
      (∃ s ∈ p.config.steps, s.id = "a.outputs" ∧ s.OutOfReach ∧
        ¬ ∃ raw, Reference.RefersTo raw s.id) ∧
      Reference.parse "$step.a.outputs.success" = some (.step "a" ["outputs", "success"]) := by
  have hfacts : (LoadedPipeline.load "run.json" false Dotted.world).1.toOption.map (fun p =>
      p.config.steps.map (·.id)) = some ["a", "a.outputs"] := by decide +kernel
  rcases hload : LoadedPipeline.load "run.json" false Dotted.world with ⟨result, w'⟩
  rw [hload] at hfacts
  obtain ⟨p, rfl, hids⟩ := Sequence.ok_of_toOption_map hfacts
  have hsteps := load_refersTo "run.json" false p Dotted.world w' hload
  have hstep (id : String) (hid : id ∈ ["a", "a.outputs"]) : ∃ s ∈ p.config.steps, s.id = id :=
    List.mem_map.1 (hids ▸ hid)
  obtain ⟨s, hs, hsid⟩ := hstep "a" (by decide)
  obtain ⟨t, ht, htid⟩ := hstep "a.outputs" (by decide)
  have hdot : '.' ∈ t.id.toList := by
    rw [htid]
    decide
  obtain ⟨-, -, hreferable, -⟩ := hsteps s hs
  obtain ⟨-, hnamed, -, hout⟩ := hsteps t ht
  refine ⟨p, w', rfl, ⟨s, hs, hsid, hreferable ?_⟩,
    ⟨t, ht, htid, hout hdot, fun hraw => hnamed.1 hraw hdot⟩, by decide⟩
  rw [hsid]
  decide

end OrgPipeline

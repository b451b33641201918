import OrgPipeline.Pipeline.Run
import OrgPipeline.Proofs.Step.Bindings
import OrgPipeline.Proofs.Table
import OrgPipeline.Proofs.Reference

/-!
# What a run begins with

The declared inputs are stored one after another, then the variables. An input has
the value that its last declaration gives it, and a reference to it finds this
value.
-/

set_option autoImplicit false

namespace OrgPipeline

namespace Store

def inputValue (env : Environment) (input : InputDeclaration) :
    Option Json → Binding (Option String)
  | some v => suppliedScalar env v
  | none =>
    match input.default with
    | some p => scalarOf env p
    | none => pure none

theorem notes_inputValue (env : Environment) (input : InputDeclaration) (supplied : Option Json) :
    Notes (inputValue env input supplied) := by
  unfold inputValue
  split
  · exact notes_suppliedScalar env _
  · split
    · exact notes_scalarOf env _
    · exact notes_pure none

theorem setInput_eq (env : Environment) (input : InputDeclaration) (supplied : Option Json) :
    setInput env input supplied =
      (inputValue env input supplied >>= fun value =>
        modify fun s => { s with inputs := s.inputs.insert input.id value }) := by
  unfold setInput inputValue
  rcases supplied with - | v
  · rcases input with ⟨id, - | p, description⟩ <;> rfl
  · rfl

theorem setInput_inputs (env : Environment) (input : InputDeclaration) (supplied : Option Json)
    (s : Store) :
    (setInput env input supplied s).2.inputs =
      s.inputs.insert input.id (inputValue env input supplied s).1 := by
  obtain ⟨ds, hds⟩ := notes_inputValue env input supplied s
  have hkept : (inputValue env input supplied s).2.inputs = s.inputs := by rw [hds]
  rw [setInput_eq, ← hkept]
  rfl

theorem setVariables_inputs (env : Environment) (vars : List VariableDeclaration) (s : Store) :
    (setVariables env vars s).2.inputs = s.inputs := by
  induction vars generalizing s with
  | nil => rfl
  | cons v rest ih =>
    obtain ⟨ds, hds⟩ := notes_scalarOf env v.value s
    change (setVariables env rest (setVariable env v s).2).2.inputs = s.inputs
    rw [ih]
    change (scalarOf env v.value s).2.inputs = s.inputs
    rw [hds]

theorem resolve_literal (env : Environment) {raw : String} (h : Reference.isReference raw = false)
    (s : Store) : resolve env raw s = (some raw, s) := by
  have hraw : Reference.parse raw = none := by
    rw [Reference.isReference_eq] at h
    simpa using h
  unfold resolve
  rw [hraw]
  rfl

theorem textValue_input (env : Environment) {raw id text : String} {s : Store}
    (hraw : Reference.parse raw = some (.input id)) (h : s.inputs.get? id = some (some text)) :
    textValue env raw s = (text, s) := by
  have hlookup : s.lookup env (.input id) = some text := by
    rw [lookup, h]
    rfl
  have hresolve : resolve env raw s = (some text, s) := by
    unfold resolve
    rw [hraw, ← hlookup]
    rfl
  simp only [textValue, bind, StateT.bind]
  rw [hresolve]
  rfl

end Store

namespace PipelineConfig
open Store

section
variable {env : Environment} {supplied : Table Json} {inputs : List InputDeclaration}
  {id text : String}

def Gives (env : Environment) (supplied : Table Json) (inputs : List InputDeclaration)
    (id text : String) : Prop :=
  ∀ input ∈ inputs, input.id = id →
    ∀ s, (inputValue env input (supplied.get? input.id) s).1 = some text

/-- An input that is declared, or that has the text by now, has it in the end. -/
theorem bindInputs_get? (hgives : Gives env supplied inputs id text) {s : Store}
    (h : (∃ input ∈ inputs, input.id = id) ∨ s.inputs.get? id = some (some text)) :
    (bindInputs env supplied inputs s).2.inputs.get? id = some (some text) := by
  induction inputs generalizing s with
  | nil =>
    rcases h with ⟨input, hinput, -⟩ | h
    · cases hinput
    · exact h
  | cons input rest ih =>
    unfold Gives at hgives
    rw [List.forall_mem_cons] at hgives
    have hstored := setInput_inputs env input (supplied.get? input.id) s
    change (bindInputs env supplied rest
      (setInput env input (supplied.get? input.id) s).2).2.inputs.get? id = _
    apply ih hgives.2
    rw [hstored, Table.get?_insert]
    by_cases hid : input.id = id
    · right
      rw [if_pos hid, hgives.1 hid s]
    · rw [if_neg hid]
      rcases h with ⟨other, hother, hotherId⟩ | h
      · rcases List.mem_cons.1 hother with rfl | hrest
        · exact absurd hotherId hid
        · exact Or.inl ⟨other, hrest, hotherId⟩
      · exact Or.inr h

theorem startStore_get? {config : PipelineConfig}
    (hgives : Gives env supplied config.inputs id text)
    (hdeclared : ∃ input ∈ config.inputs, input.id = id) :
    (config.startStore env supplied).inputs.get? id = some (some text) := by
  have hbound := bindInputs_get? hgives (s := .empty) (Or.inl hdeclared)
  change (setVariables env config.vars
    (bindInputs env supplied config.inputs .empty).2).2.inputs.get? id = _
  rw [setVariables_inputs, hbound]

end
end PipelineConfig
end OrgPipeline

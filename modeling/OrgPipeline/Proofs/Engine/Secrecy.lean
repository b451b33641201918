import OrgPipeline.Proofs.Step.Readings
import OrgPipeline.Proofs.Platform.Secrecy
import OrgPipeline.Proofs.Engine.History
import OrgPipeline.Proofs.Engine.Causality

/-!
# Access tokens stay secret

A variable of the environment that only gives access tokens makes no difference to
a run, whatever its value: the value goes to the command that stores the token and
nowhere else.
-/

set_option autoImplicit false

namespace OrgPipeline
open Sequence

def StepKind.openTexts : StepKind → List String
  | .authAccessToken p => [p.name, p.instanceUrl]
  | kind => kind.texts

/-- The variable is named nowhere, neither in the pipeline nor in what is supplied
for its inputs, unless as an access token. -/
structure PipelineConfig.Confines (config : PipelineConfig) (supplied : Table Json)
    (name : String) : Prop where
  supplied : ∀ input ∈ config.inputs, ∀ raw, supplied.get? input.id = some (.str raw) →
    ¬ Environment.Named name raw
  defaults : ∀ input ∈ config.inputs, ∀ raw ∈ Param.optionalTexts input.default,
    ¬ Environment.Named name raw
  vars : ∀ v ∈ config.vars, ∀ raw ∈ v.value.texts, ¬ Environment.Named name raw
  steps : ∀ s ∈ config.steps, ∀ raw ∈ s.kind.openTexts, ¬ Environment.Named name raw

structure Environment.Secret (env₁ env₂ : Environment) (name a b : String) : Prop where
  others : ∀ other, other ≠ name → env₁ other = env₂ other
  left : env₁ name = some a
  right : env₂ name = some b

section
variable {env₁ env₂ : Environment} {name a b : String}

theorem Environment.Secret.sameFor (h : Environment.Secret env₁ env₂ name a b) {raw : String}
    (hraw : ¬ Environment.Named name raw) : env₁.SameFor env₂ raw := by
  intro other hother
  apply h.others
  rintro rfl
  exact hraw hother

namespace Store

theorem setInput_congr {input : InputDeclaration} {supplied : Option Json}
    (hsupplied : ∀ raw, supplied = some (.str raw) → env₁.SameFor env₂ raw)
    (hdefault : ∀ raw ∈ Param.optionalTexts input.default, env₁.SameFor env₂ raw) :
    setInput env₁ input supplied = setInput env₂ input supplied := by
  unfold setInput
  rcases supplied with - | v
  · rcases input with ⟨id, - | p, description⟩
    · rfl
    · have hp : scalarOf env₁ p = scalarOf env₂ p := scalarOf_congr hdefault
      dsimp only
      rw [hp]
  · cases v with
    | str raw =>
      dsimp only
      rw [suppliedScalar, suppliedScalar, resolve_congr (hsupplied raw rfl)]
    | _ => rfl

theorem setVariables_congr {vars : List VariableDeclaration}
    (h : ∀ v ∈ vars, ∀ raw ∈ v.value.texts, env₁.SameFor env₂ raw) :
    setVariables env₁ vars = setVariables env₂ vars := by
  induction vars with
  | nil => rfl
  | cons v rest ih =>
    rw [List.forall_mem_cons] at h
    rw [setVariables, setVariables, setVariable, setVariable, scalarOf_congr h.1, ih h.2]

end Store

theorem PipelineConfig.startStore_veiled {config : PipelineConfig} {supplied : Table Json}
    (h : Environment.Secret env₁ env₂ name a b) (hc : config.Confines supplied name) :
    config.startStore env₁ supplied = config.startStore env₂ supplied := by
  have hinputs (inputs : List InputDeclaration) (hsub : ∀ input ∈ inputs, input ∈ config.inputs) :
      bindInputs env₁ supplied inputs = bindInputs env₂ supplied inputs := by
    induction inputs with
    | nil => rfl
    | cons input rest ih =>
      rw [List.forall_mem_cons] at hsub
      rw [bindInputs, bindInputs, ih hsub.2, Store.setInput_congr]
      · exact fun raw hraw => h.sameFor (hc.supplied input hsub.1 raw hraw)
      · exact fun raw hraw => h.sameFor (hc.defaults input hsub.1 raw hraw)
  have hvars : Store.setVariables env₁ config.vars = Store.setVariables env₂ config.vars :=
    Store.setVariables_congr fun v hv raw hraw => h.sameFor (hc.vars v hv raw hraw)
  rw [startStore, startStore, bind, bind, hinputs config.inputs fun _ hi => hi, hvars]

namespace StepKind

def storing (env : Environment) (p : AccessTokenParams) (token : String) : Binding Task := do
  let name ← Store.textValue env p.name
  let instanceUrl ← Store.textValue env p.instanceUrl
  return .command (.storeAccessToken name instanceUrl token)

theorem textValue_named {env : Environment} {raw value : String}
    (hraw : Environment.Named name raw) (h : env name = some value) :
    Store.textValue env raw = pure value := by
  have hresolve : Store.resolve env raw = pure (some value) := by
    unfold Store.resolve
    rw [hraw, ← h]
    rfl
  rw [Store.textValue, hresolve]
  rfl

theorem resolve_storing {env : Environment} {p : AccessTokenParams} {value : String}
    (hraw : Environment.Named name p.accessToken) (h : env name = some value) :
    (authAccessToken p).resolve env = storing env p value := by
  rw [resolve, ofAccessToken, textValue_named hraw h]
  rfl

theorem storing_congr {p : AccessTokenParams} (hname : env₁.SameFor env₂ p.name)
    (hurl : env₁.SameFor env₂ p.instanceUrl) (token : String) :
    storing env₁ p token = storing env₂ p token := by
  rw [storing, storing, Store.textValue_congr hname, Store.textValue_congr hurl]

end StepKind

/-- A step whose other texts do not name the variable cannot tell which secret it has:
either no text names it, or the secret is the token that the step stores. -/
theorem Step.matches_veiled {s : Step} {tools : Tools} {directory : String}
    (h : Environment.Secret env₁ env₂ name a b) (htools : tools.Conceals a b)
    (hs : ∀ raw ∈ s.kind.openTexts, ¬ Environment.Named name raw) :
    s.Matches (World.Veiled a b) ⟨env₁, tools, directory⟩ ⟨env₂, tools, directory⟩ := by
  have hclosed (hall : ∀ raw ∈ s.kind.texts, ¬ Environment.Named name raw) :
      s.Matches (World.Veiled a b) ⟨env₁, tools, directory⟩ ⟨env₂, tools, directory⟩ := by
    have hresolve := StepKind.resolve_congr fun raw hraw => h.sameFor (hall raw hraw)
    apply Step.matches_of_agree
    · intro store
      rw [hresolve]
    · intro store
      rw [hresolve]
      exact agree_perform htools.matching _ _
  obtain ⟨id, continueOnError, kind⟩ := s
  cases kind with
  | authAccessToken p =>
    rw [StepKind.openTexts, List.forall_mem_cons, List.forall_mem_singleton] at hs
    by_cases htoken : Environment.Named name p.accessToken
    · have hleft : (StepKind.authAccessToken p).resolve env₁ = StepKind.storing env₂ p a :=
        (StepKind.resolve_storing htoken h.left).trans
          (StepKind.storing_congr (h.sameFor hs.1) (h.sameFor hs.2) a)
      have hright : (StepKind.authAccessToken p).resolve env₂ = StepKind.storing env₂ p b :=
        StepKind.resolve_storing htoken h.right
      apply Step.matches_of_agree
      · intro store
        rw [hleft, hright]
        rfl
      · intro store
        rw [hleft, hright]
        exact agree_bind (htools.store _ _) fun _ => agree_pure _
    · apply hclosed
      rw [StepKind.texts, List.forall_mem_cons, List.forall_mem_cons, List.forall_mem_singleton]
      exact ⟨hs.1, hs.2, htoken⟩
  | _ => exact hclosed hs

end

namespace Engine

/-- Of a variable that only gives access tokens a run does not show the value. With
the one secret or the other the engine is left the same, with the same events and
the same report or error. The same programs are started with the same arguments, in
the same places and with the same files; only the command that stores a token is
given the one secret here and the other there. -/
theorem run_conceals_token (e : Engine) (tool : Platform.Sfdx) (repository name a b : String)
    (env₁ env₂ : Environment) (w₁ w₂ : World)
    (hsecret : Environment.Secret env₁ env₂ name a b)
    (ha : Files.hasNul a = false) (hb : Files.hasNul b = false)
    (hconfined : ∀ p, e.pipeline = some p → p.config.Confines e.inputs name)
    (hw : World.Veiled a b w₁ w₂) :
    let tools : Tools := ⟨tool.perform, VersionControl.perform repository⟩
    (e.run env₁ tools w₁).1 = (e.run env₂ tools w₂).1 ∧
      World.Veiled a b (e.run env₁ tools w₁).2 (e.run env₂ tools w₂).2 := by
  intro tools
  cases hp : e.pipeline with
  | none =>
    rw [run_none hp, run_none hp]
    exact ⟨rfl, hw⟩
  | some p =>
    have hc := hconfined p hp
    have htools : tools.Conceals a b := Tools.conceals_programs ha hb tool repository
    have hx : Together (World.Veiled a b) (e.startOf p env₁ w₁) (e.startOf p env₂ w₂) :=
      ⟨PipelineConfig.startStore_veiled hsecret hc, hw⟩
    have hsteps : ∀ s ∈ p.config.steps,
        s.Matches (World.Veiled a b) (e.context env₁ tools) (e.context env₂ tools) :=
      fun s hs => Step.matches_veiled hsecret htools (hc.steps s hs)
    obtain ⟨htrace, hworld⟩ := runSteps_matching hsteps hx
    change (e.trace p env₁ tools w₁).1 = (e.trace p env₂ tools w₂).1 at htrace
    rw [run_trace hp, run_trace hp, htrace]
    exact ⟨rfl, hworld⟩

namespace Login

def steps : List Step :=
  [⟨"login", false, .authAccessToken ⟨"dev", "https://dev.example", "$env.TOKEN"⟩⟩,
    ⟨"orgs", false, .authList⟩]

def engine : Engine :=
  (Engine.new "/").install
    ⟨"run.json", ⟨none, [], [], steps⟩, ⟨[("login", 0), ("orgs", 1)]⟩⟩

def env (token : String) : Environment := fun name => if name = "TOKEN" then some token else none

def reply : Reply :=
  ⟨Octets.ofText "\x7b\"status\":0,\"result\":[]\x7d", [], .exit 0, fun _ files => files⟩

def world : World where
  files := ⟨[]⟩
  here := []
  programs := [("sfdx", reply)]
  script := []
  starts := []
  stdin := []
  serial := 0

def run (token : String) : Outcome × World :=
  engine.run (env token) ⟨Platform.Sfdx.perform ⟨"sfdx", "/"⟩, VersionControl.perform "/"⟩ world

end Login

/-- Both runs complete, each token is handed over, and nothing else differs. -/
theorem run_conceals_token_login :
    (Login.run "one").2.starts.map (·.token) = [some "one", none] ∧
      (Login.run "two").2.starts.map (·.token) = [some "two", none] ∧
      (Login.run "one").1 = (Login.run "two").1 ∧
      (Login.run "one").1.engine.state = .completed := by
  have hfacts : (Login.run "one").2.starts.map (·.token) = [some "one", none] ∧
      (Login.run "two").2.starts.map (·.token) = [some "two", none] ∧
      (Login.run "one").1.engine.state = .completed := by decide +kernel
  have hsecret : Environment.Secret (Login.env "one") (Login.env "two") "TOKEN" "one" "two" :=
    ⟨fun other hother => by rw [Login.env, Login.env, if_neg hother, if_neg hother], rfl, rfl⟩
  have hconfined (p : LoadedPipeline) (hp : Login.engine.pipeline = some p) :
      p.config.Confines Login.engine.inputs "TOKEN" := by
    cases hp
    refine ⟨?_, ?_, ?_, ?_⟩
    · exact fun _ h => absurd h List.not_mem_nil
    · exact fun _ h => absurd h List.not_mem_nil
    · exact fun _ h => absurd h List.not_mem_nil
    · have hopen : ∀ raw ∈ Login.steps.flatMap (·.kind.openTexts),
          ¬ Environment.Named "TOKEN" raw := by decide +kernel
      exact fun s hs raw hraw => hopen raw (List.mem_flatMap.2 ⟨s, hs, hraw⟩)
  have hworld : World.Veiled "one" "two" Login.world Login.world := by
    apply World.veiled_self
    rintro reply (hscript | ⟨program, hprogram⟩)
    · cases hscript
    · cases List.mem_singleton.1 hprogram
      exact ⟨rfl, rfl, rfl, fun _ _ => rfl⟩
  exact ⟨hfacts.1, hfacts.2.1, (run_conceals_token Login.engine ⟨"sfdx", "/"⟩ "/" "TOKEN" "one"
    "two" (Login.env "one") (Login.env "two") Login.world Login.world hsecret (by decide)
    (by decide) hconfined hworld).1, hfacts.2.2⟩

end Engine
end OrgPipeline

import OrgPipeline.CommandLine.Inputs
import OrgPipeline.Proofs.Sequence
import OrgPipeline.Proofs.Json.Literal
import OrgPipeline.Proofs.Pipeline.Prefix
import OrgPipeline.Proofs.Pipeline.Setup

/-!
# From a pair to a parameter

The last pair of an input goes ahead of the other pairs and of the object. What a
parameter that refers to the input then sees is the text of the pair, unless that
text is a number: a number is stored as such and printed again. An integer loses
nothing but the blanks around it, any other number has the text that the printer
gives it.
-/

set_option autoImplicit false

namespace OrgPipeline.Inputs

structure Named (id : String) : Prop where
  nonblank : Text.blank id = false
  undivided : '=' ∉ id.toList
  trimmed : Text.trim id = id

theorem ofPair_named {id : String} (h : Named id) (text : String) :
    ofPair (id ++ "=" ++ text) = .ok (id, valueOf text) := by
  have hpair : (id ++ "=" ++ text).toList = id.toList ++ '=' :: text.toList := by simp
  have hdivided : Text.splitOnce '=' (id ++ "=" ++ text) = some (id, text) := by
    rw [Text.splitOnce, hpair, Text.splitOnceList_append h.undivided]
    simp
  rw [ofPair, hdivided]
  dsimp only
  rw [h.nonblank, if_neg Bool.false_ne_true, h.trimmed]

section
variable {env : Environment} {spec : Option String} {pairs : List String} {base : Data}
  {read : List (String × Json)} {w w' : World}

theorem merge_ok (hspec : ofSpec env spec w = (.ok base, w'))
    (hread : pairs.mapM ofPair = .ok read) :
    merge env spec pairs w = (.ok (overriddenBy base (Table.ofList read)), w') := by
  have hpairs : ofPairs pairs = .ok (Table.ofList read) := by
    rw [ofPairs, hread]
    rfl
  rw [merge, Sequence.bind_of_ok hspec, hpairs]
  rfl

end

theorem get?_overriddenBy (base : Data) (read : List (String × Json)) (id : String) :
    (overriddenBy base (Table.ofList read)).get? id =
      (Table.lookup id read.reverse).or (base.get? id) := by
  have hpairs : Table.lookup id (Table.ofList read).toList.reverse =
      Table.lookup id read.reverse :=
    (Table.lookup_reverse id (Table.distinct_ofList read)).trans (Table.get?_ofList read id)
  rw [overriddenBy, Table.get?_foldl_insert, hpairs]

theorem lookup_last {id : String} {v : Json} (before : List (String × Json))
    {after : List (String × Json)} (h : id ∉ after.map Prod.fst) :
    Table.lookup id (before ++ (id, v) :: after).reverse = some v := by
  have hafter : Table.lookup id after.reverse = none := by
    rw [Table.lookup_eq_none_iff, List.map_reverse, List.mem_reverse]
    exact h
  rw [List.reverse_append, List.reverse_cons, List.append_assoc, Table.lookup_append, hafter]
  simp [Table.lookup]

/-- A text that names a value of its own: it is no JSON null, no JSON string, and
refers to nothing. -/
structure Plain (text : String) : Prop where
  not_null : Json.read text ≠ some .null
  not_quoted : ∀ s, Json.read text ≠ some (.str s)
  literal : Reference.isReference text = false

def reprinted (text : String) : String :=
  match Json.read text with
  | some (.bool _) | some (.num (.int _)) => Json.trim text
  | some (.num (.float x)) => Decimal.jsonLayout.text x
  | _ => text

theorem suppliedScalar_valueOf (env : Environment) {text : String} (h : Plain text) (s : Store) :
    Store.suppliedScalar env (valueOf text) s = (some (reprinted text), s) := by
  have hliteral := Store.resolve_literal env h.literal s
  unfold valueOf reprinted
  cases hread : Json.read text with
  | none => exact hliteral
  | some v =>
    cases v with
    | null => exact absurd hread h.not_null
    | bool b =>
      dsimp only
      rw [Json.trim_bool hread]
      rfl
    | num n =>
      cases n with
      | int n =>
        dsimp only
        rw [Json.trim_int hread]
        rfl
      | float x => rfl
    | str quoted => exact absurd hread (h.not_quoted quoted)
    | arr items => exact hliteral
    | obj members => exact hliteral

/-- An input for which the text of a pair is supplied, at the start of a run and at every
later moment. -/
theorem textValue_supplied {env : Environment} {data : Data} {id text : String} (hid : Named id)
    (htext : Plain text) (hdata : data.get? id = some (valueOf text)) {config : PipelineConfig}
    (hdeclared : ∃ input ∈ config.inputs, input.id = id) {s : Store}
    (hs : s.Extends (config.startStore env data)) :
    Store.textValue env ("$input." ++ id) s = (reprinted text, s) := by
  have hgives : PipelineConfig.Gives env data config.inputs id (reprinted text) := by
    rintro input - rfl t
    rw [hdata]
    exact congrArg Prod.fst (suppliedScalar_valueOf env htext t)
  apply Store.textValue_input
  · exact Reference.parse_inputText (Text.endsOutside_of_trim hid.trimmed)
  · rw [hs.inputs]
    exact PipelineConfig.startStore_get? hgives hdeclared

/-- The last pair of a declared input decides what a reference to the input finds. -/
theorem merge_textValue (env : Environment) (spec : Option String) (w : World) {id text : String}
    {earlier later : List String} {base : Data} {before after : List (String × Json)} {w' : World}
    (hid : Named id) (htext : Plain text) (hspec : ofSpec env spec w = (.ok base, w'))
    (hearlier : earlier.mapM ofPair = .ok before) (hlater : later.mapM ofPair = .ok after)
    (hlast : id ∉ after.map Prod.fst) :
    ∃ data, merge env spec (earlier ++ (id ++ "=" ++ text) :: later) w = (.ok data, w') ∧
      ∀ config : PipelineConfig, (∃ input ∈ config.inputs, input.id = id) →
        ∀ s : Store, s.Extends (config.startStore env data) →
          Store.textValue env ("$input." ++ id) s = (reprinted text, s) := by
  have hread : (earlier ++ (id ++ "=" ++ text) :: later).mapM ofPair =
      .ok (before ++ (id, valueOf text) :: after) := by
    rw [List.mapM_append, List.mapM_cons, hearlier, hlater, ofPair_named hid]
    rfl
  have hdata : (overriddenBy base (Table.ofList (before ++ (id, valueOf text) :: after))).get? id =
      some (valueOf text) := by
    rw [get?_overriddenBy, lookup_last before hlast]
    rfl
  refine ⟨_, merge_ok hspec hread, ?_⟩
  intro config hdeclared s hs
  exact textValue_supplied hid htext hdata hdeclared hs

namespace Release

def config : PipelineConfig := ⟨none, [⟨"version", none, none⟩], [], []⟩

theorem declared : ∃ input ∈ config.inputs, input.id = "version" :=
  ⟨_, List.mem_singleton_self _, rfl⟩

theorem named : Named "version" := ⟨by decide, by decide, by decide⟩

theorem plain : Plain "1.10" where
  not_null h := by
    have hread : (Json.read "1.10").map Json.isNull = some false := by decide +kernel
    rw [h] at hread
    cases hread
  not_quoted s h := by
    have hread : (Json.read "1.10").map Json.asString? = some none := by decide +kernel
    rw [h] at hread
    cases hread
  literal := by decide

end Release

/-- Among other pairs, the last one of the input. -/
theorem merge_textValue_release :
    ∃ data, merge Engine.Stopped.env none ["version=1", "version=1.10", "org=ci"]
        Engine.Stopped.world = (.ok data, Engine.Stopped.world) ∧
      (Store.textValue Engine.Stopped.env "$input.version"
        (Release.config.startStore Engine.Stopped.env data)).1 = "1.1" := by
  have hone (id text : String) (h : Named id) :
      [id ++ "=" ++ text].mapM ofPair = .ok [(id, valueOf text)] := by
    rw [List.mapM_cons, ofPair_named h]
    rfl
  have horg : Named "org" := ⟨by decide, by decide, by decide⟩
  obtain ⟨data, hmerge, hvalue⟩ := merge_textValue Engine.Stopped.env none
    Engine.Stopped.world Release.named Release.plain rfl (hone "version" "1" Release.named)
    (hone "org" "ci" horg) (by decide)
  refine ⟨data, hmerge, ?_⟩
  have htext : reprinted "1.10" = "1.1" := by decide +kernel
  rw [← htext]
  exact congrArg Prod.fst (hvalue Release.config Release.declared _ (Store.Extends.refl _))

/-- Not every text comes back as it was typed: the last digit of this one is lost. -/
theorem textValue_shortened :
    Named "version" ∧ Plain "1.10" ∧ (∃ input ∈ Release.config.inputs, input.id = "version") ∧
      ∃ data, merge Engine.Stopped.env none ["version=1.10"] Engine.Stopped.world =
          (.ok data, Engine.Stopped.world) ∧
        (Store.textValue Engine.Stopped.env "$input.version"
          (Release.config.startStore Engine.Stopped.env data)).1 ≠ "1.10" := by
  refine ⟨Release.named, Release.plain, Release.declared,
    overriddenBy .empty (Table.ofList [("version", valueOf "1.10")]), ?_, by decide +kernel⟩
  apply merge_ok
  · rfl
  · change ["version" ++ "=" ++ "1.10"].mapM ofPair = _
    rw [List.mapM_cons, ofPair_named Release.named]
    rfl

end OrgPipeline.Inputs

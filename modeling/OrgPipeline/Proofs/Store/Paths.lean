import OrgPipeline.Proofs.Json.Place
import OrgPipeline.Proofs.Record

/-!
# What a path into a record gives

A reference to a step with a path gives the text of the boolean, number or string to
which the path leads in the record, and nothing if the path is lost there. All that
stands in a record behind names without a dot, and without a blank at the end, can be
reached in this way.
-/

set_option autoImplicit false

namespace OrgPipeline

namespace StepRecord

def values : StepRecord → List Json
  | success outputs => outputs.toList
  | failure error => error.logs.toList ++ error.summary.toList

end StepRecord

theorem Json.mem_member? {name : String} {v : Option Json} {m : String × Json}
    (h : m ∈ member? name v) : m.2 ∈ v := by
  cases v with
  | none => cases h
  | some v =>
    rw [member?, List.mem_singleton] at h
    rw [h]
    rfl

theorem StepFailure.wellFormed_toJson {f : StepFailure} (hlogs : ∀ v ∈ f.logs, v.WellFormed)
    (hsummary : ∀ v ∈ f.summary, v.WellFormed) : f.toJson.WellFormed := by
  apply Json.wellFormed_object
  intro m hm
  simp only [List.mem_append, List.mem_cons, List.not_mem_nil, or_false] at hm
  rcases hm with (((rfl | rfl) | hstack) | hm) | hm
  · exact .str _
  · exact .str _
  · obtain ⟨s, -, hs⟩ := Option.map_eq_some_iff.1 (Json.mem_member? hstack)
    rw [← hs]
    exact .str s
  · exact hlogs _ (Json.mem_member? hm)
  · exact hsummary _ (Json.mem_member? hm)

namespace StepRecord

/-- What a record says of its own has distinct names. -/
theorem wellFormed_toJson {r : StepRecord} (h : ∀ v ∈ r.values, v.WellFormed) :
    r.toJson.WellFormed := by
  cases r with
  | success outputs =>
    unfold toJson
    apply Json.wellFormed_object
    intro m hm
    simp only [List.mem_append, List.mem_singleton] at hm
    rcases hm with rfl | hm
    · exact .bool true
    · exact h _ (Option.mem_toList.2 (Json.mem_member? hm))
  | failure error =>
    have herror : error.toJson.WellFormed := StepFailure.wellFormed_toJson
      (fun v hv => h v (List.mem_append_left _ (Option.mem_toList.2 hv)))
      (fun v hv => h v (List.mem_append_right _ (Option.mem_toList.2 hv)))
    unfold toJson
    apply Json.wellFormed_object
    intro m hm
    simp only [List.mem_cons, List.not_mem_nil, or_false] at hm
    rcases hm with rfl | rfl
    · exact .bool false
    · exact herror

theorem scalar?_toJson (r : StepRecord) : r.toJson.scalar? = none := by
  cases r <;> rfl

end StepRecord

namespace Json

def Nameable (name : String) : Prop :=
  '.' ∉ name.toList ∧ Text.EndsOutside Text.isBlank name.toList

theorem nameable_toString (i : Nat) : Nameable (toString i) := by
  have htext : (toString i).toList = Decimal.digitsOf i := Nat.toList_repr
  have hdigit : ∀ c ∈ (toString i).toList, Decimal.isDigit c = true := by
    rw [htext]
    exact List.all_eq_true.1 (Decimal.all_isDigit_digitsOf i)
  refine ⟨fun hdot => ?_, fun c hc =>
    Decimal.not_isBlank_of_isDigit (hdigit c (List.mem_of_getLast? hc))⟩
  exact absurd (hdigit '.' hdot) (by decide)

theorem spelled_place {id : String} (hid : '.' ∉ id.toList) {place : List Key} (hne : place ≠ [])
    (h : ∀ name, Key.member name ∈ place → Nameable name) :
    Reference.Spelled id (place.map Key.text) := by
  have hkey : ∀ key ∈ place, Nameable key.text := by
    intro key hkey
    cases key with
    | member name => exact h name hkey
    | element i => exact nameable_toString i
  refine ⟨hid, by simpa using hne, ?_, ?_⟩
  · intro segment hsegment
    obtain ⟨key, hmem, rfl⟩ := List.mem_map.1 hsegment
    exact (hkey key hmem).1
  · intro segment hsegment
    obtain ⟨key, hmem, rfl⟩ := List.mem_map.1 (List.mem_of_getLast? hsegment)
    exact (hkey key hmem).2

end Json

namespace Store

/-- A reference with a path into the record of a step, read in both directions. The values
in the record are such as memory can hold. -/
theorem resolve_path (env : Environment) (s : Store) (id : String) (record : StepRecord)
    (hrecord : s.outputs.get? id = some record) (hid : '.' ∉ id.toList)
    (hvalues : ∀ v ∈ record.values, v.WellFormed) :
    (∀ path, Reference.Spelled id path →
      ∃ found, resolve env (Reference.stepText id path) s = (found, s) ∧
        (∀ t, found = some t ↔ ∃ v, Json.Follows record.toJson path v ∧ v.scalar? = some t) ∧
        (found = none ↔ Json.Lost record.toJson path)) ∧
    ∀ place v t, Json.Within record.toJson place v → v.scalar? = some t →
      (∀ name, Json.Key.member name ∈ place → Json.Nameable name) →
      Reference.Spelled id (place.map Json.Key.text) ∧
        resolve env (Reference.stepText id (place.map Json.Key.text)) s = (some t, s) := by
  have hform := StepRecord.wellFormed_toJson hvalues
  constructor
  · intro path hpath
    refine ⟨_, resolve_stepText env hrecord hpath, ?_, hform.scalar_eq_none_iff⟩
    intro t
    rw [Option.bind_eq_some_iff]
    exact exists_congr fun v => and_congr_left' hform.descend_eq_some_iff
  · intro place v t hwithin hscalar hnames
    have hne : place ≠ [] := by
      rintro rfl
      rw [← hwithin.eq_of_nil, StepRecord.scalar?_toJson] at hscalar
      cases hscalar
    have hspelled := Json.spelled_place hid hne hnames
    refine ⟨hspelled, ?_⟩
    rw [resolve_stepText env hrecord hspelled,
      hform.descend_eq_some_iff.2 hwithin.follows, Option.bind_some, hscalar]

namespace Limits

def payload : Json := .obj [("limits", .arr [.obj [("api", .int 15000)], .null])]

def record : StepRecord := .success (some payload)

def store : Store := empty.setOutput "display" record

def place : List Json.Key := [.member "outputs", .member "limits", .element 0, .member "api"]

theorem wellFormed : ∀ v ∈ record.values, v.WellFormed := by
  intro v hv
  obtain rfl := List.mem_singleton.1 hv
  refine .obj (by decide) fun m hm => ?_
  obtain rfl := List.mem_singleton.1 hm
  refine .arr (by decide) fun v hv => ?_
  rcases List.mem_cons.1 hv with rfl | hv
  · refine .obj (by decide) fun m hm => ?_
    obtain rfl := List.mem_singleton.1 hm
    exact .num _
  · obtain rfl := List.mem_singleton.1 hv
    exact .null

theorem mem_record : ("outputs", payload) ∈ Json.sortMembers [("success", .bool true),
    ("outputs", payload)] :=
  (Json.sortMembers_perm [("success", .bool true), ("outputs", payload)]
    (by decide : ["success", "outputs"].Nodup)).mem_iff.2
      (List.mem_cons_of_mem _ List.mem_cons_self)

theorem within : Json.Within record.toJson place (.int 15000) :=
  .member mem_record <| .member (List.mem_singleton.2 rfl) <| .element rfl <|
    .member (List.mem_singleton.2 rfl) (.here _)

theorem lost : Json.Lost record.toJson ["outputs", "limits", "1"] :=
  .down (.member mem_record) <| .down (.member (List.mem_singleton.2 rfl)) <|
    .down (.element (Json.denotes_toString 1) rfl) .null

end Limits

/-- The number is reached, and the null beside it gives nothing. -/
theorem resolve_path_limits :
    resolve (fun _ => none) "$step.display.outputs.limits.0.api" Limits.store =
        (some "15000", Limits.store) ∧
      resolve (fun _ => none) "$step.display.outputs.limits.1" Limits.store =
        (none, Limits.store) := by
  have hid : '.' ∉ "display".toList := by decide
  obtain ⟨hpaths, hplaces⟩ :=
    resolve_path (fun _ => none) Limits.store "display" Limits.record rfl hid Limits.wellFormed
  constructor
  · have hnames : ∀ name, Json.Key.member name ∈ Limits.place → Json.Nameable name := by
      intro name hname
      simp only [Limits.place, List.mem_cons, Json.Key.member.injEq, List.not_mem_nil, or_false,
        reduceCtorEq, false_or] at hname
      rcases hname with rfl | rfl | rfl <;>
        exact ⟨by decide, fun c hc => by cases hc; decide⟩
    exact (hplaces Limits.place _ "15000" Limits.within rfl hnames).2
  · obtain ⟨found, hfound, -, hlost⟩ := hpaths ["outputs", "limits", "1"]
      ⟨hid, by decide, by decide, fun segment hsegment c hc => by cases hsegment; cases hc; decide⟩
    rw [hlost.2 Limits.lost] at hfound
    exact hfound

end Store
end OrgPipeline

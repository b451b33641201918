import OrgPipeline.Store
import OrgPipeline.Proofs.Json.Members
import OrgPipeline.Proofs.Reference
import OrgPipeline.Proofs.Platform.Envelope
import OrgPipeline.Proofs.Platform.Sfdx

/-!
# Records and what is read from them

The failure that an envelope reports crosses the error of its command and comes
into the record of the step as it was reported. A reference to the record gives
the scalar that stands at its path there.
-/

set_option autoImplicit false

namespace OrgPipeline

/-- The failure in the words of the envelope, its defaults filled in and its
nulls left out. -/
def Platform.Envelope.stepFailure (e : Envelope) (subcommand : String) (exitCode : Int) :
    StepFailure where
  name := e.name.getD "SfdxError"
  message := e.message.getD (subcommand ++ " exited with status " ++ toString exitCode)
  stack := e.stack
  logs := (some e.result).filter fun v => !v.isNull
  summary := e.data.filter fun v => !v.isNull

theorem PlatformFailure.nonNull_eq_filter (v : Option Json) :
    nonNull v = v.filter fun v => !v.isNull := by
  cases v with
  | none => rfl
  | some v => cases v <;> rfl

namespace PlatformFailure
open Schema

def schema : Schema PlatformFailure :=
  mk <$> required "name" Fit.text <*> optional "command" Fit.text <*>
    optional "stack" Fit.text <*> optional "logs" Fit.anything <*> optional "summary" Fit.anything

theorem checks_schema : schema.Checks :=
  (((((checks_field _ _ _ _).map _).seq (checks_field _ _ _ _)).seq (checks_field _ _ _ _)).seq
    (checks_field _ _ _ _)).seq (checks_field _ _ _ _)

def members (f : PlatformFailure) : Json.Members :=
  [("name", .str f.name)] ++ Json.member? "command" (f.command.map .str) ++
    Json.member? "stack" (f.stack.map .str) ++ Json.member? "logs" f.logs ++
    Json.member? "summary" f.summary

theorem members_nodup (f : PlatformFailure) : (f.members.map Prod.fst).Nodup := by
  unfold members
  cases f.command <;> cases f.stack <;> cases f.logs <;> cases f.summary <;> simp [Json.member?]

theorem lookup_members (f : PlatformFailure) :
    Json.lookup "name" f.members = some (.str f.name) ∧
      Json.lookup "command" f.members = f.command.map .str ∧
      Json.lookup "stack" f.members = f.stack.map .str ∧
      Json.lookup "logs" f.members = f.logs ∧ Json.lookup "summary" f.members = f.summary := by
  simp only [members, Json.lookup_append, Json.lookup_member?, Json.lookup]
  simp

theorem read_toJson (f : PlatformFailure) :
    schema.read false "PlatformErrorDetails" f.toJson = .ok f.readBack := by
  have hnodup := f.members_nodup
  have hsorted : ((Json.sortMembers f.members).map Prod.fst).Nodup :=
    ((Json.sortMembers_perm f.members hnodup).map Prod.fst).nodup_iff.2 hnodup
  have hlookup (name : String) :
      Json.lookup name (Json.sortMembers f.members) = Json.lookup name f.members :=
    Json.get?_object hnodup name
  have htext (o : Option String) : nonNull (o.map Json.str) = o.map .str := by
    cases o <;> rfl
  obtain ⟨hname, hcommand, hstack, hlogs, hsummary⟩ := f.lookup_members
  change schema.readMembers false (Json.sortMembers f.members) = _
  rw [readMembers_ok_iff checks_schema hsorted]
  unfold schema required Schema.optional
  simp only [ofMembers_seq_ok, ofMembers_map_ok, ofMembers_field_ok, hlookup,
    Platform.Envelope.optionalText_ok, Platform.Envelope.optionalData_ok]
  exact ⟨_, ⟨_, ⟨_, ⟨_, ⟨f.name, Or.inl ⟨_, hname, rfl⟩, rfl⟩, f.command, hcommand ▸ htext _, rfl⟩,
    f.stack, hstack ▸ htext _, rfl⟩, _, congrArg nonNull hlogs, rfl⟩, _, congrArg nonNull hsummary,
    rfl⟩

end PlatformFailure

theorem Error.platformFailure?_eq (e : Error) :
    e.platformFailure? =
      if e.code = .platformCommandFailed ∨ e.code = .platformDeployFailed then
        (PlatformFailure.schema.read false "PlatformErrorDetails" e.details).toOption
      else none := by
  obtain ⟨cause, hints, retryable⟩ := e
  cases cause with
  | commandFailed message failure =>
    exact (congrArg Except.toOption failure.read_toJson).symm
  | deployFailed message summary =>
    exact (congrArg Except.toOption (PlatformFailure.read_toJson _)).symm
  | _ => rfl

namespace StepFailure
open Platform

theorem ofError_failure (subcommand : String) (exitCode : Int) (e : Envelope) :
    ofError (Envelope.failure subcommand exitCode e) = e.stepFailure subcommand exitCode := by
  have hlogs : PlatformFailure.nonNull (if e.result.isNull then none else some e.result) =
      (some e.result).filter fun v => !v.isNull := by
    cases e.result <;> rfl
  rw [Envelope.stepFailure, ← hlogs, ← PlatformFailure.nonNull_eq_filter]
  rfl

def member? (f : StepFailure) (name : String) : Option Json :=
  if name = "name" then some (.str f.name)
  else if name = "message" then some (.str f.message)
  else if name = "stack" then f.stack.map .str
  else if name = "logs" then f.logs
  else if name = "summary" then f.summary
  else none

def members (f : StepFailure) : Json.Members :=
  [("name", .str f.name), ("message", .str f.message)] ++
    Json.member? "stack" (f.stack.map .str) ++ Json.member? "logs" f.logs ++
    Json.member? "summary" f.summary

theorem members_nodup (f : StepFailure) : (f.members.map Prod.fst).Nodup := by
  unfold members
  cases f.stack <;> cases f.logs <;> cases f.summary <;> simp [Json.member?]

theorem lookup_members (f : StepFailure) (name : String) :
    Json.lookup name f.members = f.member? name := by
  simp only [members, Json.lookup_append, Json.lookup_member?, Json.lookup, member?,
    eq_comm (a := name)]
  grind

theorem descend_toJson (f : StepFailure) (name : String) (path : List String) :
    f.toJson.descend (name :: path) = (f.member? name).bind (·.descend path) := by
  rw [← lookup_members]
  exact Json.descend_object f.members_nodup name path

end StepFailure

namespace StepRecord

theorem descend_success (r : StepRecord) :
    r.toJson.descend ["success"] = some (.bool r.isSuccess) := by
  cases r with
  | success outputs =>
    unfold toJson
    rw [Json.descend_object]
    · simp [Json.lookup, Json.descend, isSuccess]
    · cases outputs <;> simp [Json.member?]
  | failure error =>
    unfold toJson
    rw [Json.descend_object (by simp)]
    simp [Json.lookup, Json.descend, isSuccess]

theorem descend_error (f : StepFailure) (path : List String) :
    (failure f).toJson.descend ("error" :: path) = f.toJson.descend path := by
  change (Json.object [("success", .bool false), ("error", f.toJson)]).descend _ = _
  rw [Json.descend_object (by simp)]
  simp [Json.lookup]

end StepRecord

namespace Store

theorem resolve_stepText (env : Environment) {s : Store} {id : String} {record : StepRecord}
    (hrecord : s.outputs.get? id = some record) {path : List String}
    (h : Reference.Spelled id path) :
    resolve env (Reference.stepText id path) s =
      ((record.toJson.descend path).bind Json.scalar?, s) := by
  have hlookup : s.lookup env (.step id path) = (record.toJson.descend path).bind Json.scalar? := by
    obtain ⟨name, rest, rfl⟩ := List.exists_cons_of_ne_nil h.nonempty
    rw [lookup, hrecord]
    · rfl
    · simp
  unfold resolve
  rw [Reference.parse_stepText h, ← hlookup]
  rfl

end Store
end OrgPipeline

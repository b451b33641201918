import OrgPipeline.Proofs.ChangeSet.Stages

/-!
# Destructive manifests that were there before

A call writes a destructive manifest only if something was deleted, and takes
none away. What stands in the directory of a change set afterwards is therefore
the one just written, or one that programs left there, be it before the call.
-/

set_option autoImplicit false

namespace OrgPipeline
open Sequence

theorem DestructiveMode.fileName_inj {a b : DestructiveMode} (h : a.fileName = b.fileName) :
    a = b := by
  cases a <;> cases b <;> simp_all [fileName]

namespace ChangeSet

def NoneWritten (w u : World) : Prop :=
  ∀ place (mode : DestructiveMode) content,
    u.files.get? (place ++ [mode.fileName]) = some (.file content) →
      w.files.get? (place ++ [mode.fileName]) = some (.file content)

theorem noneWritten_refl (w : World) : NoneWritten w w := fun _ _ _ h => h

theorem noneWritten_trans (w u v : World) (hwu : NoneWritten w u) (huv : NoneWritten u v) :
    NoneWritten w v :=
  fun place mode content h => hwu place mode content (huv place mode content h)

def merged (tools : Tools) (project : String) (r : Request) : Action (String × String) := do
  let revertDir := Path.join project (← revertName r)
  let dir := Path.join project r.dir
  tools.repository (.checkout r.base)
  convert tools project revertDir
  tools.repository (.merge r.head r.base)
  return (revertDir, dir)

theorem prepare_eq_merged (tools : Tools) (project : String) (r : Request) :
    prepare tools project r =
      (merged tools project r >>= fun dirs => convert tools project dirs.2 >>= fun _ =>
        pure dirs) := by
  simp only [prepare, merged, bind_assoc, pure_bind]

theorem convert_noneWritten {tools : Tools} {dir : String}
    (hplatform : ∀ sources, Moves NoneWritten (tools.platform (.convertSource dir sources)))
    (project : String) : Moves NoneWritten (convert tools project dir) := by
  apply moves_bind noneWritten_trans
  · intro w
    rw [← Project.readSourcePaths_keeps project w]
    exact noneWritten_refl w
  · intro sources
    apply moves_bind noneWritten_trans (hplatform sources)
    intro _
    exact moves_pure noneWritten_refl ()

theorem writeDestructive_files {manifest : Option Manifest} {dir : String} {mode : DestructiveMode}
    {w w' : World} {place q : Place} {content : Octets}
    (hl : Files.Leads w.files w.here dir place)
    (h : writeDestructive manifest dir mode w = (.ok (), w'))
    (hfile : w'.files.get? q = some (.file content)) :
    (∃ m, manifest = some m ∧ q = place ++ [mode.fileName] ∧ content = Octets.ofText m.toXml) ∨
      ((manifest.isSome → q ≠ place ++ [mode.fileName]) ∧
        w.files.get? q = some (.file content)) := by
  cases manifest with
  | none =>
    cases h
    exact Or.inr ⟨nofun, hfile⟩
  | some m =>
    obtain ⟨-, f, place', hgrown, hl', -, hfiles⟩ := Action.writeText_ok mode.isName_fileName h
    have hplace : place' = place :=
      Files.leads_unique hl' (Files.leads_keeps (Files.keeps_of_extends hgrown.kept) hl)
    subst hplace
    rw [hfiles, Files.get?_insert f _ _ _ (by simp)] at hfile
    by_cases hq : q = place' ++ [mode.fileName]
    · rw [if_pos hq] at hfile
      have hcontent := Entry.file.inj (Option.some.inj hfile)
      exact Or.inl ⟨m, rfl, hq, hcontent.symm⟩
    · rw [if_neg hq] at hfile
      exact Or.inr ⟨fun _ => hq, hgrown.files q content hfile⟩

theorem changes_deleted_nonEmpty (revert deploy : Manifest) :
    nonEmpty (changes revert deploy).deleted = (changes revert deploy).deleted :=
  nonEmpty_nonEmpty _

theorem destructive_components {source m : Manifest} {c : ComponentMap}
    (h : destructive source c = some m) : m.components = (nonEmpty c).toList := by
  have hkept : ∀ e ∈ (nonEmpty c).entries,
      ManifestType.component? ⟨some e.1, e.2⟩ = some e := by
    intro e he
    have hfilled : e.2.isEmpty = false := by
      simpa using (List.mem_filter.1 he).2
    rw [ManifestType.component?]
    simp [hfilled]
  unfold destructive at h
  split at h
  · cases h
  · obtain rfl := Option.some.inj h
    calc
      List.filterMap ManifestType.component? (List.map _ (nonEmpty c).entries) =
          List.filterMap some (nonEmpty c).entries := by
        rw [List.filterMap_map]
        exact List.filterMap_congr hkept
      _ = (nonEmpty c).toList := List.filterMap_some

/-- The destructive manifest of this mode is the one that the call writes, and lists
what was deleted. -/
def Written (r : Request) (changes : Changes) (mode : DestructiveMode) (content : Octets) : Prop :=
  mode = r.mode ∧ changes.deleted.isEmpty = false ∧
    ∃ m : Manifest, m.components = changes.deleted.toList ∧ content = Octets.ofText m.toXml

section Conclude
variable {r : Request} {revertDir dir : String} {w w₂ w' : World} {revertPlace place : Place}
  {package : Octets} {revert deploy : Manifest} {mode : DestructiveMode} {content : Octets}

theorem written_of_destructive (r : Request) {m : Manifest}
    (hm : (diff revert deploy).deployDestructive = some m) :
    Written r (diff revert deploy).changes r.mode (Octets.ofText m.toXml) := by
  have hcomponents := destructive_components hm
  rw [changes_deleted_nonEmpty] at hcomponents
  have hsome := deployDestructive_isSome_iff revert deploy
  exact ⟨rfl, hsome.1 (by simp [hm]), m, hcomponents, rfl⟩

/-- The end of the call leaves the change set alone, unless it lies in the revert
directory and that is removed. -/
theorem stands_end (hne : revertDir ≠ "")
    (hc : Converted w revertDir dir revertPlace place package revert deploy)
    (hwrite : writeDestructive (diff revert deploy).deployDestructive dir r.mode w = (.ok (), w₂))
    (hend : (if r.createRevert then
        writeDestructive (diff revert deploy).revertDestructive revertDir r.revertMode
      else Action.removeDirectory revertDir "remove revert change set") w₂ = (.ok (), w'))
    (hkept : r.createRevert = true ∨ ¬ revertPlace <+: place) :
    Stands w'.files place package r.mode (diff revert deploy).deployDestructive := by
  obtain ⟨hs, hl⟩ := stands_written hc hwrite
  cases hr : r.createRevert with
  | true =>
    rw [hr, if_pos rfl] at hend
    exact stands_revert_written hc hl hs hend
  | false =>
    rw [hr] at hkept
    rw [hr, if_neg (by simp)] at hend
    exact (stands_revert_removed hne hl hs hend).1 (hkept.resolve_left (by simp))

/-- What comes after the write of the deploy side puts no destructive manifest where
the change set is. -/
theorem stood_before_end
    (hc : Converted w revertDir dir revertPlace place package revert deploy)
    (hl : Files.Leads w₂.files w₂.here revertDir revertPlace)
    (hend : (if r.createRevert then
        writeDestructive (diff revert deploy).revertDestructive revertDir r.revertMode
      else Action.removeDirectory revertDir "remove revert change set") w₂ = (.ok (), w'))
    (hfile : w'.files.get? (place ++ [mode.fileName]) = some (.file content)) :
    w₂.files.get? (place ++ [mode.fileName]) = some (.file content) := by
  cases hr : r.createRevert with
  | true =>
    rw [hr, if_pos rfl] at hend
    rcases writeDestructive_files hl hend hfile with ⟨m, hm, hq, -⟩ | ⟨-, hold⟩
    · -- equal directories hold equal manifests, and those leave nothing to write
      have hsame := hc.same_place (List.append_inj_left' hq rfl).symm
      rw [hsame, diff_self_revertDestructive] at hm
      cases hm
    · exact hold
  | false =>
    rw [hr, if_neg (by simp)] at hend
    have hremoved := Action.removeDirectory_noNewFiles revertDir "remove revert change set" w₂
    rw [hend] at hremoved
    exact hremoved _ _ hfile

theorem written_or_stood
    (hc : Converted w revertDir dir revertPlace place package revert deploy)
    (hwrite : writeDestructive (diff revert deploy).deployDestructive dir r.mode w = (.ok (), w₂))
    (hfile : w₂.files.get? (place ++ [mode.fileName]) = some (.file content)) :
    Written r (diff revert deploy).changes mode content ∨
      ((mode = r.mode → (diff revert deploy).changes.deleted.isEmpty = true) ∧
        w.files.get? (place ++ [mode.fileName]) = some (.file content)) := by
  rcases writeDestructive_files hc.leads hwrite hfile with ⟨m, hm, hq, hcontent⟩ | ⟨hne, hold⟩
  · have hlast := List.append_cancel_left hq
    have hmode := DestructiveMode.fileName_inj (List.cons.inj hlast).1
    rw [hmode, hcontent]
    exact Or.inl (written_of_destructive r hm)
  · refine Or.inr ⟨?_, hold⟩
    rintro rfl
    by_contra hdeleted
    exact hne ((deployDestructive_isSome_iff revert deploy).2 (by simpa using hdeleted)) rfl

end Conclude

/-- A destructive manifest that is in the directory of the change set after a call
either was written by the call, and then lists what was deleted, or stood there after
both conversions: under the other name, or because nothing was deleted. If the second
conversion wrote none, it stood there before that, and if no program did, before the
call. Where something was deleted, the one that lists it is there, unless the change
set went with the revert directory. -/
theorem create_leftovers (tools : Tools) (project : String) (r : Request) (w : World)
    (changes : Changes) (h : (create tools project r w).1 = .ok changes) :
    ∃ revertDir dir v w₁ revertPlace place,
      merged tools project r w = (.ok (revertDir, dir), v) ∧
      convert tools project dir v = (.ok (), w₁) ∧
      Files.Leads w₁.files w₁.here revertDir revertPlace ∧
      Files.Leads w₁.files w₁.here dir place ∧
      (∀ (mode : DestructiveMode) content,
        (create tools project r w).2.files.get? (place ++ [mode.fileName]) =
            some (.file content) →
          Written r changes mode content ∨
            ((mode = r.mode → changes.deleted.isEmpty = true) ∧
              w₁.files.get? (place ++ [mode.fileName]) = some (.file content) ∧
              (NoneWritten v w₁ →
                v.files.get? (place ++ [mode.fileName]) = some (.file content)) ∧
              (NoneWritten w w₁ →
                w.files.get? (place ++ [mode.fileName]) = some (.file content)))) ∧
      (changes.deleted.isEmpty = false → r.createRevert = true ∨ ¬ revertPlace <+: place →
        ∃ content, (create tools project r w).2.files.get? (place ++ [r.mode.fileName]) =
            some (.file content) ∧ Written r changes r.mode content) := by
  rcases hrun : create tools project r w with ⟨result, w'⟩
  rw [hrun] at h
  cases h
  rw [create_eq] at hrun
  obtain ⟨⟨revertDir, dir⟩, w₁, hprepare, hconclude⟩ := bind_ok hrun
  obtain ⟨revertPlace, place, package, revert, deploy, w₂, hc, rfl, hwrite, hend⟩ :=
    conclude_ok hconclude
  have hl := (stands_written hc hwrite).2
  have hne := prepare_ok hprepare
  rw [prepare_eq_merged] at hprepare
  obtain ⟨dirs, v, hmerged, hsecond⟩ := bind_ok hprepare
  obtain ⟨_, u, hconverted, hdirs⟩ := bind_ok hsecond
  cases hdirs
  refine ⟨revertDir, dir, v, w₁, revertPlace, place, hmerged, hconverted, hc.revertLeads,
    hc.leads, ?_, ?_⟩
  · intro mode content hfile
    rcases written_or_stood hc hwrite (stood_before_end hc hl hend hfile) with
      hwritten | ⟨hmode, hstood⟩
    · exact Or.inl hwritten
    · exact Or.inr
        ⟨hmode, hstood, fun hnone => hnone _ _ _ hstood, fun hnone => hnone _ _ _ hstood⟩
  · intro hdeleted hkept
    obtain ⟨m, hm⟩ := Option.isSome_iff_exists.1
      ((deployDestructive_isSome_iff revert deploy).2 hdeleted)
    exact ⟨_, (stands_end hne hc hwrite hend hkept).2 m hm, written_of_destructive r hm⟩

namespace Leftover

def stale : Octets :=
  Octets.ofText "<Package><types><members>A</members><name>T</name></types></Package>"

def tools : Tools where
  repository _ := pure ()
  platform
    | .convertSource dir _ => fun w =>
      (.ok .null, { w with
        files := (w.files.insert [dir] .directory).insert [dir, Manifest.fileName]
          (.file (Octets.ofText "<Package/>")) })
    | _ => pure .null

def request : Request := ⟨"head", "base", .post, "cs", false, .post, some "revert"⟩

def world : World where
  files := ⟨[([Project.fileName], .file (Octets.ofText Nested.project)), (["cs"], .directory),
    (["cs", DestructiveMode.post.fileName], .file stale)]⟩
  here := []
  programs := []
  script := []
  starts := []
  stdin := []
  serial := 0

theorem convert_writes_none (dir : String) (sources : List String) :
    Moves NoneWritten (tools.platform (.convertSource dir sources)) := by
  intro w place mode content h
  change ((w.files.insert [dir] .directory).insert [dir, Manifest.fileName]
    (.file (Octets.ofText "<Package/>"))).get? (place ++ [mode.fileName]) = _ at h
  have hpackage : place ++ [mode.fileName] ≠ [dir, Manifest.fileName] := by
    intro he
    change _ = [dir] ++ [Manifest.fileName] at he
    exact mode.fileName_ne_manifest (List.cons.inj (List.append_inj_right' he rfl)).1
  rw [Files.get?_insert _ _ _ _ (by simp), if_neg hpackage,
    Files.get?_insert _ _ _ _ (by simp)] at h
  split at h
  · cases h
  · exact h

theorem deletes_nothing :
    (create tools "" request world).1.toOption.map (fun c => c.deleted.isEmpty) = some true := by
  decide +kernel

theorem stale_stays :
    (create tools "" request world).2.files.get? (["cs"] ++ [DestructiveMode.post.fileName]) =
      some (.file stale) := by
  decide +kernel

end Leftover

/-- Nothing was deleted, and no conversion writes a destructive manifest, but the one
of an earlier call is part of the change set. -/
theorem create_keeps_stale :
    (∀ dir sources, Moves NoneWritten (Leftover.tools.platform (.convertSource dir sources))) ∧
    (∃ changes, (create Leftover.tools "" Leftover.request Leftover.world).1 = .ok changes ∧
      changes.deleted.isEmpty = true) ∧
    (create Leftover.tools "" Leftover.request Leftover.world).2.files.get?
      (["cs"] ++ [DestructiveMode.post.fileName]) = some (.file Leftover.stale) := by
  exact ⟨Leftover.convert_writes_none, ok_of_toOption_map Leftover.deletes_nothing,
    Leftover.stale_stays⟩

/-- The manifest stood there before the second conversion. -/
theorem create_leftovers_stale :
    (merged Leftover.tools "" Leftover.request Leftover.world).2.files.get?
      (["cs"] ++ [DestructiveMode.post.fileName]) = some (.file Leftover.stale) := by
  have hdirs : (merged Leftover.tools "" Leftover.request Leftover.world).1.toOption =
      some ("revert", "cs") := by decide +kernel
  have hcs : Nested.leadsTo "cs" (convert Leftover.tools "" "cs"
      (merged Leftover.tools "" Leftover.request Leftover.world).2).2 = some ["cs"] := by
    decide +kernel
  obtain ⟨changes, hr, hdeleted⟩ := ok_of_toOption_map Leftover.deletes_nothing
  obtain ⟨revertDir, dir, v, w₁, _, place, hmerged, hconverted, -, hleads, hfiles, -⟩ :=
    create_leftovers Leftover.tools "" Leftover.request Leftover.world changes hr
  rw [hmerged] at hdirs hcs
  cases hdirs
  rw [hconverted, Nested.leadsTo, hleads.2.1] at hcs
  cases hcs
  have hnone := convert_noneWritten (Leftover.convert_writes_none "cs") "" v
  rw [hconverted] at hnone
  rw [hmerged]
  rcases hfiles .post Leftover.stale Leftover.stale_stays with ⟨-, hnot, -⟩ | ⟨-, -, hstood, -⟩
  · rw [hdeleted] at hnot
    cases hnot
  · exact hstood hnone

end ChangeSet
end OrgPipeline

import OrgPipeline.ChangeSet.Create
import OrgPipeline.Proofs.ChangeSet.Counts
import OrgPipeline.Proofs.World.Operations

/-!
# Whether a change set survives its own making

The revert directory is taken away after the change set has been written, and
both are given as free paths. A change set outlives the call exactly if the
revert directory stays or does not hold the directory of the change set. All
other steps leave it alone: a revert manifest that would land on the deploy
manifest belongs to two equal package manifests, and those differ in nothing.
-/

set_option autoImplicit false

namespace OrgPipeline
open Sequence

theorem isName_manifest : IsName Manifest.fileName := by decide

namespace DestructiveMode

theorem isName_fileName (mode : DestructiveMode) : IsName mode.fileName := by
  cases mode <;> decide

theorem fileName_ne_manifest (mode : DestructiveMode) : mode.fileName ≠ Manifest.fileName := by
  cases mode <;> decide

end DestructiveMode

namespace Manifest

theorem parse_label {text label label' : String} {m : Manifest}
    (h : parse text label = .ok m) : parse text label' = .ok m := by
  unfold parse at h ⊢
  cases hr : readText text.toList with
  | error e =>
    rw [hr] at h
    cases h
  | ok x =>
    rw [hr] at h
    exact h

theorem load_join_ok {dir name : String} (hn : IsName name) {w w' : World} {m : Manifest}
    (h : load (Path.join dir name) w = (.ok m, w')) :
    w' = w ∧ ∃ place content text, Files.Leads w.files w.here dir place ∧
      w.files.get? (place ++ [name]) = some (.file content) ∧
      Octets.text? content = some text ∧ parse text (Path.join dir name) = .ok m := by
  unfold load at h
  obtain ⟨text, u, hread, hparse⟩ := bind_ok h
  obtain ⟨rfl, p, content, hresolve, hfile, htext⟩ := Action.readText_ok hread
  obtain ⟨place, hleads, rfl, -⟩ := (Files.resolve_join hn _ _ dir p).1 hresolve
  have hm : parse text (Path.join dir name) = .ok m := congrArg Prod.fst hparse
  have hw : w' = u := (congrArg Prod.snd hparse).symm
  exact ⟨hw, place, content, text, hleads, hfile, htext, hm⟩

end Manifest

namespace ChangeSet

def prepare (tools : Tools) (project : String) (r : Request) : Action (String × String) := do
  let revertDir := Path.join project (← revertName r)
  let dir := Path.join project r.dir
  tools.repository (.checkout r.base)
  convert tools project revertDir
  tools.repository (.merge r.head r.base)
  convert tools project dir
  return (revertDir, dir)

def conclude (r : Request) (revertDir dir : String) : Action Changes := do
  let deploy ← Manifest.load (Path.join dir Manifest.fileName)
  let revert ← Manifest.load (Path.join revertDir Manifest.fileName)
  let result := diff revert deploy
  writeDestructive result.deployDestructive dir r.mode
  if r.createRevert then writeDestructive result.revertDestructive revertDir r.revertMode
  else Action.removeDirectory revertDir "remove revert change set"
  return result.changes

theorem create_eq (tools : Tools) (project : String) (r : Request) :
    create tools project r =
      (prepare tools project r >>= fun dirs => conclude r dirs.1 dirs.2) := by
  simp only [create, prepare, conclude, bind_assoc, pure_bind]

theorem revertName_ok {r : Request} {w w' : World} {name : String}
    (h : revertName r w = (.ok name, w')) : name ≠ "" := by
  have hgenerated (u : World) (hg : revertName.generated u = (.ok name, w')) : name ≠ "" := by
    obtain ⟨n, t, hn, hrest⟩ := bind_ok hg
    cases hrest
    intro he
    have hl := congrArg String.toList he
    simp [generatedName] at hl
  unfold revertName at h
  cases hd : r.revertDir with
  | none =>
    rw [hd] at h
    exact hgenerated w h
  | some dir =>
    rw [hd] at h
    by_cases hb : Text.blank dir = true
    · simp only [if_pos hb] at h
      exact hgenerated w h
    · simp only [if_neg hb] at h
      cases h
      rintro rfl
      exact hb rfl

theorem prepare_ok {tools : Tools} {project : String} {r : Request} {w w' : World}
    {revertDir dir : String} (h : prepare tools project r w = (.ok (revertDir, dir), w')) :
    revertDir ≠ "" := by
  unfold prepare at h
  obtain ⟨name, u, hname, hrest⟩ := bind_ok h
  have hne := revertName_ok hname
  have hdir : revertDir = Path.join project name := by
    obtain ⟨_, _, _, h₁⟩ := bind_ok hrest
    obtain ⟨_, _, _, h₂⟩ := bind_ok h₁
    obtain ⟨_, _, _, h₃⟩ := bind_ok h₂
    obtain ⟨_, _, _, h₄⟩ := bind_ok h₃
    cases h₄
    rfl
  rw [hdir]
  intro he
  have hl := congrArg String.toList he
  unfold Path.join at hl
  split at hl
  · exact hne (String.toList_injective hl)
  · split at hl
    · simp only [String.toList_append, String.toList_empty, List.append_eq_nil_iff] at hl
      exact hne (String.toList_injective hl.2)
    · simp at hl

/-- Writing a destructive manifest beside what is there: directories stay, the
manifest stands under its name, and every other entry is as it was. -/
theorem writeDestructive_ok {manifest : Option Manifest} {dir : String} {mode : DestructiveMode}
    {w w' : World} {place : Place} (hl : Files.Leads w.files w.here dir place)
    (h : writeDestructive manifest dir mode w = (.ok (), w')) :
    w'.here = w.here ∧ Files.Keeps w.files w'.files ∧
      (∀ m, manifest = some m →
        w'.files.get? (place ++ [mode.fileName]) = some (.file (Octets.ofText m.toXml))) ∧
      ∀ q e, (manifest.isSome → q ≠ place ++ [mode.fileName]) →
        w.files.get? q = some e → w'.files.get? q = some e := by
  cases manifest with
  | none =>
    cases h
    refine ⟨rfl, Files.keeps_of_extends (Files.extends_refl _), ?_, fun _ _ _ hq => hq⟩
    intro m hm
    cases hm
  | some m =>
    obtain ⟨hhere, f, place', ⟨hf, -⟩, hl', hdir, hfiles⟩ :=
      Action.writeText_ok mode.isName_fileName h
    have hplace : place' = place :=
      Files.leads_unique hl' (Files.leads_keeps (Files.keeps_of_extends hf) hl)
    subst hplace
    have hne : place' ++ [mode.fileName] ≠ [] := by simp
    refine ⟨hhere, ?_, ?_, ?_⟩
    · rw [hfiles]
      exact Files.keeps_trans (Files.keeps_of_extends hf)
        (Files.keeps_insert_file f _ _ hne hdir)
    · intro x hx
      cases hx
      rw [hfiles, Files.get?_insert f _ _ _ hne, if_pos rfl]
    · intro q e hq he
      rw [hfiles, Files.get?_insert f _ _ _ hne, if_neg (hq rfl)]
      exact hf q e he

/-- A change set stands in a place: its package manifest with the content
given, and the destructive manifest, if there is one, as it is written. -/
def Stands (files : Files) (place : Place) (package : Octets) (mode : DestructiveMode)
    (destructive : Option Manifest) : Prop :=
  files.get? (place ++ [Manifest.fileName]) = some (.file package) ∧
    ∀ m, destructive = some m →
      files.get? (place ++ [mode.fileName]) = some (.file (Octets.ofText m.toXml))

/-- What both conversions left: where the two directories are, and the manifests
that are found in them. -/
structure Converted (w : World) (revertDir dir : String) (revertPlace place : Place)
    (package : Octets) (revert deploy : Manifest) : Prop where
  revertLeads : Files.Leads w.files w.here revertDir revertPlace
  leads : Files.Leads w.files w.here dir place
  package : w.files.get? (place ++ [Manifest.fileName]) = some (.file package)
  revertLoads : Manifest.load (Path.join revertDir Manifest.fileName) w = (.ok revert, w)
  loads : Manifest.load (Path.join dir Manifest.fileName) w = (.ok deploy, w)

namespace Converted
variable {w : World} {revertDir dir : String} {revertPlace place : Place} {package : Octets}
  {revert deploy : Manifest}

theorem same_place (h : Converted w revertDir dir revertPlace place package revert deploy)
    (he : revertPlace = place) : revert = deploy := by
  obtain ⟨-, p, c, t, hp, hc, ht, hm⟩ := Manifest.load_join_ok isName_manifest h.loads
  obtain ⟨-, q, d, u, hq, hd, hu, hn⟩ := Manifest.load_join_ok isName_manifest h.revertLoads
  have hpq : q = p := by
    rw [Files.leads_unique hq h.revertLeads, Files.leads_unique hp h.leads, he]
  rw [hpq, hc] at hd
  cases hd
  rw [ht] at hu
  cases hu
  have hboth := (Manifest.parse_label hn).symm.trans hm
  cases hboth
  rfl

end Converted

theorem not_prefix_file {f : Files} {revertPlace place : Place} {name : String} {content : Octets}
    (hdir : f.get? revertPlace = some .directory)
    (hfile : f.get? (place ++ [name]) = some (.file content)) (h : ¬ revertPlace <+: place) :
    ¬ revertPlace <+: place ++ [name] := by
  intro hp
  rcases List.prefix_concat_iff.1 hp with he | hp'
  · rw [he, hfile] at hdir
    cases hdir
  · exact h hp'

/-- The second half read backwards: both manifests, the write of the deploy
side, and what became of the revert directory. -/
theorem conclude_ok {r : Request} {revertDir dir : String} {w w' : World} {changes : Changes}
    (h : conclude r revertDir dir w = (.ok changes, w')) :
    ∃ revertPlace place package revert deploy w₂,
      Converted w revertDir dir revertPlace place package revert deploy ∧
      changes = (diff revert deploy).changes ∧
      writeDestructive (diff revert deploy).deployDestructive dir r.mode w = (.ok (), w₂) ∧
      (if r.createRevert then
          writeDestructive (diff revert deploy).revertDestructive revertDir r.revertMode
        else Action.removeDirectory revertDir "remove revert change set") w₂ = (.ok (), w') := by
  unfold conclude at h
  obtain ⟨deploy, u₁, hdeploy, h₁⟩ := bind_ok h
  obtain ⟨revert, u₂, hrevert, h₂⟩ := bind_ok h₁
  obtain ⟨rfl, place, package, -, hl, hfile, -, -⟩ :=
    Manifest.load_join_ok isName_manifest hdeploy
  obtain ⟨rfl, revertPlace, -, -, hrl, -, -, -⟩ := Manifest.load_join_ok isName_manifest hrevert
  obtain ⟨_, w₂, hwrite, h₃⟩ := bind_ok h₂
  refine ⟨revertPlace, place, package, revert, deploy, w₂,
    ⟨hrl, hl, hfile, hrevert, hdeploy⟩, ?_, hwrite, ?_⟩
  · by_cases hc : r.createRevert = true
    · simp only [if_pos hc] at h₃
      obtain ⟨_, w₃, -, h₄⟩ := bind_ok h₃
      cases h₄
      rfl
    · simp only [if_neg hc] at h₃
      obtain ⟨_, w₃, -, h₄⟩ := bind_ok h₃
      cases h₄
      rfl
  · by_cases hc : r.createRevert = true
    · simp only [if_pos hc] at h₃ ⊢
      obtain ⟨_, w₃, hend, h₄⟩ := bind_ok h₃
      cases h₄
      exact hend
    · simp only [if_neg hc] at h₃ ⊢
      obtain ⟨_, w₃, hend, h₄⟩ := bind_ok h₃
      cases h₄
      exact hend

section End
variable {r : Request} {revertDir dir : String} {w w₂ w' : World}
  {revertPlace place : Place} {package : Octets} {revert deploy : Manifest}

theorem stands_written
    (hc : Converted w revertDir dir revertPlace place package revert deploy)
    (hwrite : writeDestructive (diff revert deploy).deployDestructive dir r.mode w =
      (.ok (), w₂)) :
    Stands w₂.files place package r.mode (diff revert deploy).deployDestructive ∧
      Files.Leads w₂.files w₂.here revertDir revertPlace := by
  obtain ⟨hhere, hkeeps, hnew, hold⟩ := writeDestructive_ok hc.leads hwrite
  refine ⟨⟨?_, hnew⟩, ?_⟩
  · apply hold _ _ _ hc.package
    intro _ he
    have hlast := List.append_cancel_left he
    simp only [List.cons.injEq, and_true] at hlast
    exact r.mode.fileName_ne_manifest hlast.symm
  · rw [hhere]
    exact Files.leads_keeps hkeeps hc.revertLeads

/-- A revert manifest is never written over a part of the change set. -/
theorem stands_revert_written
    (hc : Converted w revertDir dir revertPlace place package revert deploy)
    (hl : Files.Leads w₂.files w₂.here revertDir revertPlace)
    (hs : Stands w₂.files place package r.mode (diff revert deploy).deployDestructive)
    (hwrite : writeDestructive (diff revert deploy).revertDestructive revertDir r.revertMode w₂ =
      (.ok (), w')) :
    Stands w'.files place package r.mode (diff revert deploy).deployDestructive := by
  obtain ⟨-, -, -, hold⟩ := writeDestructive_ok hl hwrite
  -- equal directories hold equal manifests, and those leave nothing to write
  have hplace : (diff revert deploy).revertDestructive.isSome → place ≠ revertPlace := by
    intro hsome he
    have hsame := hc.same_place he.symm
    rw [hsame, diff_self_revertDestructive] at hsome
    cases hsome
  constructor
  · apply hold _ _ _ hs.1
    intro hsome he
    exact hplace hsome (List.append_inj_left' he rfl)
  · intro m hm
    apply hold _ _ _ (hs.2 m hm)
    intro hsome he
    exact hplace hsome (List.append_inj_left' he rfl)

/-- Removing the revert directory takes the change set with it if that lies
inside, and leaves it alone otherwise. -/
theorem stands_revert_removed (hne : revertDir ≠ "")
    (hl : Files.Leads w₂.files w₂.here revertDir revertPlace)
    {destructive : Option Manifest} {mode : DestructiveMode}
    (hs : Stands w₂.files place package mode destructive)
    (hremove : Action.removeDirectory revertDir "remove revert change set" w₂ = (.ok (), w')) :
    (¬ revertPlace <+: place → Stands w'.files place package mode destructive) ∧
      (revertPlace <+: place → ∀ name, w'.files.get? (place ++ [name]) = none) := by
  obtain ⟨hbelow, helse⟩ := Action.removeDirectory_ok (Files.resolve_of_leads hne hl)
    (by simp [hl.2.2]) hremove
  constructor
  · intro hp
    constructor
    · rw [helse _ (not_prefix_file hl.2.2 hs.1 hp)]
      exact hs.1
    · intro m hm
      rw [helse _ (not_prefix_file hl.2.2 (hs.2 m hm) hp)]
      exact hs.2 m hm
  · intro hp name
    apply hbelow
    · exact hp.trans (List.prefix_append place [name])
    · intro he
      have hlen := hp.length_le
      rw [← he, List.length_append, List.length_singleton] at hlen
      omega

end End

/-- After a call that succeeds, the change set stands exactly if the revert
directory was kept or does not hold the directory of the change set. Otherwise
nothing is left in that directory, though the call succeeded. -/
theorem create_stands_iff (tools : Tools) (project : String) (r : Request) (w : World)
    (changes : Changes) (h : (create tools project r w).1 = .ok changes) :
    ∃ revertDir dir w₁ revertPlace place package revert deploy,
      prepare tools project r w = (.ok (revertDir, dir), w₁) ∧
      Converted w₁ revertDir dir revertPlace place package revert deploy ∧
      changes = (diff revert deploy).changes ∧
      ((diff revert deploy).deployDestructive.isSome ↔ changes.deleted.isEmpty = false) ∧
      (Stands (create tools project r w).2.files place package r.mode
          (diff revert deploy).deployDestructive ↔
        r.createRevert = true ∨ ¬ revertPlace <+: place) ∧
      (r.createRevert = false → revertPlace <+: place →
        ∀ name, (create tools project r w).2.files.get? (place ++ [name]) = none) := by
  rcases hrun : create tools project r w with ⟨result, w'⟩
  rw [hrun] at h
  cases h
  rw [create_eq] at hrun
  obtain ⟨⟨revertDir, dir⟩, w₁, hprepare, hconclude⟩ := bind_ok hrun
  obtain ⟨revertPlace, place, package, revert, deploy, w₂, hc, rfl, hwrite, hend⟩ :=
    conclude_ok hconclude
  obtain ⟨hs, hl⟩ := stands_written hc hwrite
  refine ⟨revertDir, dir, w₁, revertPlace, place, package, revert, deploy, hprepare, hc, rfl,
    deployDestructive_isSome_iff revert deploy, ?_⟩
  cases hr : r.createRevert with
  | true =>
    rw [hr, if_pos rfl] at hend
    have hstands := stands_revert_written hc hl hs hend
    exact ⟨⟨fun _ => Or.inl rfl, fun _ => hstands⟩, fun hf => by cases hf⟩
  | false =>
    rw [hr, if_neg (by simp)] at hend
    obtain ⟨hkept, hgone⟩ := stands_revert_removed (prepare_ok hprepare) hl hs hend
    refine ⟨⟨?_, ?_⟩, fun _ => hgone⟩
    · intro hst
      right
      intro hp
      have hnone := hgone hp Manifest.fileName
      have hfile := hst.1
      rw [hnone] at hfile
      cases hfile
    · rintro (hf | hp)
      · cases hf
      · exact hkept hp

namespace Nested

def manifest (dir : String) : String :=
  if dir = "out" then
    "<Package><types><members>A</members><name>T</name></types></Package>"
  else "<Package/>"

def tools : Tools where
  repository _ := pure ()
  platform
    | .convertSource dir _ => do
      Action.writeText (Path.join dir Manifest.fileName) (manifest dir) "convert"
      return .null
    | _ => pure .null

def request : Request := ⟨"head", "base", .post, "out/cs", false, .post, some "out"⟩

def project : String := "\x7b\"packageDirectories\":[0]\x7d"

def world : World where
  files := ⟨[([Project.fileName], .file (Octets.ofText project))]⟩
  here := []
  programs := []
  script := []
  starts := []
  stdin := []
  serial := 0

def leadsTo (dir : String) (w : World) : Option Place :=
  (w.files.follow (Files.startOf w.here dir) (Path.namesTo dir)).toOption

end Nested

/-- The call reports a deleted member, but neither the package manifest nor the
manifest that would delete the member is left. -/
theorem create_stands_iff_nested :
    (∃ changes, (create Nested.tools "" Nested.request Nested.world).1 = .ok changes ∧
      changes.deleted.isEmpty = false) ∧
    ∀ name, (create Nested.tools "" Nested.request Nested.world).2.files.get?
      (["out", "cs"] ++ [name]) = none := by
  have hdeleted : ((create Nested.tools "" Nested.request Nested.world).1.toOption.map
      fun c => c.deleted.isEmpty) = some false := by decide +kernel
  have hdirs : (prepare Nested.tools "" Nested.request Nested.world).1.toOption =
      some ("out", "out/cs") := by decide +kernel
  have hout : Nested.leadsTo "out" (prepare Nested.tools "" Nested.request Nested.world).2 =
      some ["out"] := by decide +kernel
  have hcs : Nested.leadsTo "out/cs" (prepare Nested.tools "" Nested.request Nested.world).2 =
      some ["out", "cs"] := by decide +kernel
  cases hr : (create Nested.tools "" Nested.request Nested.world).1 with
  | error e =>
    rw [hr] at hdeleted
    cases hdeleted
  | ok changes =>
    rw [hr] at hdeleted
    obtain ⟨revertDir, dir, w₁, revertPlace, place, _, _, _, hp, hc, -, -, -, hgone⟩ :=
      create_stands_iff Nested.tools "" Nested.request Nested.world changes hr
    rw [hp] at hdirs hout hcs
    cases hdirs
    rw [Nested.leadsTo, hc.revertLeads.2.1] at hout
    rw [Nested.leadsTo, hc.leads.2.1] at hcs
    cases hout
    cases hcs
    exact ⟨⟨changes, rfl, Option.some.inj hdeleted⟩, hgone rfl ⟨["cs"], rfl⟩⟩

end ChangeSet
end OrgPipeline

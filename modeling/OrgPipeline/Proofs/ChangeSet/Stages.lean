import OrgPipeline.Proofs.ChangeSet.Survival
import OrgPipeline.Proofs.Platform.Sfdx

/-!
# The stages of a change set

Between the two manifests that are compared lie four stages, each the work of a
program: two turn the repository to a revision and two convert what is in it.
They are taken one after another up to the first that cannot begin or fails, and
nothing but the programs has touched a file by then.
-/

set_option autoImplicit false

namespace OrgPipeline
open Sequence

namespace Project

def Declares (directory : String) (w : World) (sources : List String) : Prop :=
  ∃ place content text project d ds,
    w.files.resolve w.here (Path.join directory fileName) = .ok place ∧
    w.files.get? place = some (.file content) ∧ Octets.text? content = some text ∧
    Json.read text = some project ∧ project.get? "packageDirectories" = some (.arr (d :: ds)) ∧
    sources = (d :: ds).filterMap path?

theorem directories_ok_iff {project : Json} {items : List Json} :
    directories project = .ok items ↔
      ∃ d ds, project.get? "packageDirectories" = some (.arr (d :: ds)) ∧ items = d :: ds := by
  unfold directories
  split
  · next d ds h =>
    rw [h]
    constructor
    · rintro ⟨⟩
      exact ⟨d, ds, rfl, rfl⟩
    · rintro ⟨_, _, ⟨⟩, rfl⟩
      rfl
  · next h =>
    constructor
    · rintro ⟨⟩
    · rintro ⟨d, ds, hd, -⟩
      exact absurd hd (h d ds)

theorem sourcePaths_ok_iff {text : String} {sources : List String} :
    sourcePaths text = .ok sources ↔
      ∃ project d ds, Json.read text = some project ∧
        project.get? "packageDirectories" = some (.arr (d :: ds)) ∧
        sources = (d :: ds).filterMap path? := by
  constructor
  · intro h
    unfold sourcePaths at h
    cases hread : Json.read text with
    | none =>
      rw [hread] at h
      cases h
    | some project =>
      rw [hread] at h
      dsimp only at h
      cases hitems : directories project with
      | error e =>
        rw [hitems] at h
        cases h
      | ok items =>
        rw [hitems] at h
        obtain ⟨d, ds, hd, rfl⟩ := directories_ok_iff.1 hitems
        cases h
        exact ⟨project, d, ds, rfl, hd, rfl⟩
  · rintro ⟨project, d, ds, hread, hd, rfl⟩
    have hitems := directories_ok_iff.2 ⟨d, ds, hd, rfl⟩
    unfold sourcePaths
    rw [hread]
    dsimp only
    rw [hitems]
    rfl

theorem readSourcePaths_keeps (directory : String) : Moves Eq (readSourcePaths directory) := by
  apply moves_bind (R := Eq) fun _ _ _ => Eq.trans
  · intro w
    rfl
  · intro there
    cases there with
    | false => exact moves_throw (fun _ => rfl) _
    | true =>
      apply moves_bind (R := Eq) (fun _ _ _ => Eq.trans) (Action.readText_keeps _ _)
      intro text w
      rfl

/-- The paths are read exactly if the project file lists directories. -/
theorem readSourcePaths_ok_iff {directory : String} {w : World} {sources : List String} :
    readSourcePaths directory w = (.ok sources, w) ↔ Declares directory w sources := by
  constructor
  · intro h
    obtain ⟨there, u, hthere, hrest⟩ := bind_ok h
    cases hthere
    split at hrest
    · obtain ⟨text, v, hread, hpaths⟩ := bind_ok hrest
      obtain ⟨-, place, content, hplace, hfile, htext⟩ := Action.readText_ok hread
      have hsources : sourcePaths text = .ok sources := congrArg Prod.fst hpaths
      obtain ⟨project, d, ds, hproject, hd, rfl⟩ := sourcePaths_ok_iff.1 hsources
      exact ⟨place, content, text, project, d, ds, hplace, hfile, htext, hproject, hd, rfl⟩
    · cases hrest
  · rintro ⟨place, content, text, project, d, ds, hplace, hfile, htext, hproject, hd, hsources⟩
    have hthere : Action.isFile (Path.join directory fileName) w = (.ok true, w) := by
      have hfound : w.files.find? w.here (Path.join directory fileName) = some (.file content) := by
        rw [Files.find?, hplace]
        exact hfile
      change ((.ok (w.files.isFile _ _), w) : Except Error Bool × World) = _
      rw [Files.isFile, hfound]
    have hread : Action.readText (Path.join directory fileName) "read sfdx project" w =
        (.ok text, w) :=
      Action.ofFiles_of_ok (Files.read_of_file hplace hfile htext) _
    have hpaths := sourcePaths_ok_iff.2 ⟨project, d, ds, hproject, hd, hsources⟩
    unfold readSourcePaths
    rw [bind_of_ok hthere, if_pos rfl, bind_of_ok hread, hpaths]
    rfl

end Project

namespace VersionControl
variable {directory : String} {c : Command} {w u : World}

theorem perform_of_ok {reply : Reply}
    (h : (⟨directory, program, c.args, none⟩ : Launch).run w = (.ok reply, u)) :
    ∃ result, perform directory c w = (result, u) ∧
      (result = .ok () ↔ reply.ending.isSuccess = true) := by
  obtain ⟨output, hout, hsuccess⟩ := Launch.trimmedOutput_of_ok h c.context
  unfold perform
  rw [bind_of_ok (Action.attempt_of_eq hout), ← hsuccess]
  cases output with
  | ok text => exact ⟨.ok (), rfl, by simp⟩
  | error e => exact ⟨_, rfl, by simp⟩

theorem perform_of_error {problem : StartProblem}
    (h : (⟨directory, program, c.args, none⟩ : Launch).run w = (.error problem, u)) :
    ∃ e, perform directory c w = (.error e, u) := by
  obtain ⟨e, he⟩ := Launch.trimmedOutput_of_error h c.context
  unfold perform
  rw [bind_of_ok (Action.attempt_of_eq he)]
  exact ⟨_, rfl⟩

end VersionControl

namespace ChangeSet

structure Programs where
  platform : Platform.Sfdx
  repository : String
  project : String

/-- What is to be done: the repository turned to a revision, or what is in it
converted into a directory. -/
inductive Goal where
  | revision (c : VersionControl.Command)
  | conversion (dir : String)

inductive Stage where
  | revision (c : VersionControl.Command)
  | conversion (dir : String) (sources : List String)

def Goal.call (bin : String) (sources : List String) : Goal → String × List String
  | revision (.checkout point) => ("git", ["checkout", point])
  | revision (.merge source target) => ("git", ["merge", source, target])
  | conversion dir =>
    (bin, ["force:source:convert", "--outputdir", dir, "--sourcepath", ",".intercalate sources,
      "--json"])

def goals (r : Request) (revertDir dir : String) : List Goal :=
  [.revision (.checkout r.base), .conversion revertDir, .revision (.merge r.head r.base),
    .conversion dir]

/-- A goal can be gone for by this stage: for a conversion, the project file lists
these directories now. -/
inductive Goal.Ready (project : String) (w : World) : Goal → Stage → Prop
  | revision (c : VersionControl.Command) : Ready project w (.revision c) (.revision c)
  | conversion {dir : String} {sources : List String} (h : Project.Declares project w sources) :
    Ready project w (.conversion dir) (.conversion dir sources)

namespace Programs

def tools (p : Programs) : Tools where
  platform := p.platform.perform
  repository := VersionControl.perform p.repository

def pursue (p : Programs) : Goal → Action Unit
  | .revision c => p.tools.repository c
  | .conversion dir => convert p.tools p.project dir

def pursueAll (p : Programs) : List Goal → Action Unit
  | [] => return ()
  | goal :: rest => do
    p.pursue goal
    p.pursueAll rest

end Programs

namespace Stage

def goal : Stage → Goal
  | revision c => .revision c
  | conversion dir _ => .conversion dir

def launch (p : Programs) : Stage → Launch
  | revision (.checkout point) => ⟨p.repository, "git", ["checkout", point], none⟩
  | revision (.merge source target) => ⟨p.repository, "git", ["merge", source, target], none⟩
  | conversion dir sources => ⟨p.platform.directory, p.platform.bin,
      ["force:source:convert", "--outputdir", dir, "--sourcepath", ",".intercalate sources,
        "--json"], none⟩

def sources : Stage → List String
  | revision _ => []
  | conversion _ sources => sources

theorem call_eq (p : Programs) (stage : Stage) :
    ((stage.launch p).program, (stage.launch p).args) =
      stage.goal.call p.platform.bin stage.sources := by
  rcases stage with (_ | _) | _ <;> rfl

theorem launch_revision (p : Programs) (c : VersionControl.Command) :
    (revision c).launch p = ⟨p.repository, VersionControl.program, c.args, none⟩ := by
  cases c <;> rfl

theorem launch_conversion (p : Programs) (dir : String) (sources : List String) :
    (conversion dir sources).launch p = p.platform.launch (.convertSource dir sources) := rfl

def perform (p : Programs) : Stage → Action Unit
  | revision c => p.tools.repository c
  | conversion dir sources => do
    let _ ← p.tools.platform (.convertSource dir sources)

def Succeeds : Stage → Reply → Prop
  | revision _, reply => reply.ending.isSuccess = true
  | conversion _ _, reply => ∃ e, Platform.Envelope.ofOutput? (.ofReply reply) = some e ∧
    ¬ e.ReportsFailure reply

section
variable {p : Programs} {stage : Stage} {w u : World}

/-- A stage changes the world by the start of its program only. -/
theorem perform_of_ok {reply : Reply} (h : (stage.launch p).run w = (.ok reply, u)) :
    ∃ result, stage.perform p w = (result, u) ∧ (result = .ok () ↔ stage.Succeeds reply) := by
  cases stage with
  | revision c =>
    rw [launch_revision] at h
    exact VersionControl.perform_of_ok h
  | conversion dir sources =>
    rw [launch_conversion] at h
    have hanswer : p.platform.runEnveloped (.convertSource dir sources) w = _ :=
      Platform.Sfdx.runEnveloped_of_ok h
    rw [← Platform.Sfdx.perform_convertSource] at hanswer
    cases hresult : Platform.Envelope.answer
      (Platform.Sfdx.invocation (.convertSource dir sources)).1 (.ofReply reply) with
    | error e =>
      rw [hresult] at hanswer
      refine ⟨.error e, bind_of_error hanswer _, nofun, ?_⟩
      rintro ⟨envelope, hread, hreports⟩
      rw [Platform.Envelope.answer_ok_iff.2 ⟨envelope, hread, hreports, rfl⟩] at hresult
      cases hresult
    | ok v =>
      rw [hresult] at hanswer
      obtain ⟨envelope, hread, hreports, -⟩ := Platform.Envelope.answer_ok_iff.1 hresult
      exact ⟨.ok (), bind_of_ok hanswer _, fun _ => ⟨envelope, hread, hreports⟩, fun _ => rfl⟩

theorem perform_of_error {problem : StartProblem}
    (h : (stage.launch p).run w = (.error problem, u)) :
    u = w ∧ ∃ e, stage.perform p w = (.error e, w) := by
  obtain rfl := Launch.run_of_error h
  refine ⟨rfl, ?_⟩
  cases stage with
  | revision c =>
    rw [launch_revision] at h
    exact VersionControl.perform_of_error h
  | conversion dir sources =>
    rw [launch_conversion] at h
    obtain ⟨e, he⟩ : ∃ e, p.platform.runEnveloped (.convertSource dir sources) u = (.error e, u) :=
      Platform.Sfdx.runEnveloped_of_error h
    rw [← Platform.Sfdx.perform_convertSource] at he
    exact ⟨e, bind_of_error he _⟩

end

end Stage

/-- The stages taken for the goals one after another, with what their programs
answered, and how and in which world that ended: with no goal left, or at the first
that could not be begun or did not succeed. -/
inductive Course (p : Programs) :
    List Goal → List (Stage × Reply) → World → Except Error Unit × World → Prop
  | arrived (w : World) : Course p [] [] w (.ok (), w)
  | unready {dir : String} {rest : List Goal} {w : World} {e : Error}
    (h : ∀ sources, ¬ Project.Declares p.project w sources)
    (hread : (Project.readSourcePaths p.project w).1 = .error e) :
    Course p (.conversion dir :: rest) [] w (.error e, w)
  | unstarted {goal : Goal} {rest : List Goal} {stage : Stage} {w : World}
    {problem : StartProblem} {e : Error} (hready : goal.Ready p.project w stage)
    (hrun : (stage.launch p).run w = (.error problem, w))
    (hresult : (stage.perform p w).1 = .error e) :
    Course p (goal :: rest) [] w (.error e, w)
  | failed {goal : Goal} {rest : List Goal} {stage : Stage} {w u : World} {reply : Reply}
    {e : Error} (hready : goal.Ready p.project w stage)
    (hrun : (stage.launch p).run w = (.ok reply, u)) (hfailure : ¬ stage.Succeeds reply)
    (hresult : (stage.perform p w).1 = .error e) :
    Course p (goal :: rest) [(stage, reply)] w (.error e, u)
  | passed {goal : Goal} {rest : List Goal} {stage : Stage} {w u : World} {reply : Reply}
    {made : List (Stage × Reply)} {ending : Except Error Unit × World}
    (hready : goal.Ready p.project w stage)
    (hrun : (stage.launch p).run w = (.ok reply, u)) (hsuccess : stage.Succeeds reply)
    (hrest : Course p rest made u ending) :
    Course p (goal :: rest) ((stage, reply) :: made) w ending

namespace Programs
variable {p : Programs} {goal : Goal} {stage : Stage} {w : World}

theorem pursue_of_ready (h : goal.Ready p.project w stage) :
    p.pursue goal w = stage.perform p w := by
  cases h with
  | revision c => rfl
  | conversion h => exact bind_of_ok (Project.readSourcePaths_ok_iff.2 h) _

theorem pursue_of_unready (dir : String) (h : ∀ sources, ¬ Project.Declares p.project w sources) :
    ∃ e, (Project.readSourcePaths p.project w).1 = .error e ∧
      p.pursue (.conversion dir) w = (.error e, w) := by
  have hworld := Project.readSourcePaths_keeps p.project w
  rcases hread : Project.readSourcePaths p.project w with ⟨_ | sources, u⟩
  · rename_i e
    rw [hread] at hworld
    obtain rfl : w = u := hworld
    exact ⟨e, rfl, bind_of_error hread _⟩
  · rw [hread] at hworld
    obtain rfl : w = u := hworld
    exact absurd (Project.readSourcePaths_ok_iff.1 hread) (h sources)

theorem ready_or_unready (p : Programs) (goal : Goal) (w : World) :
    (∃ stage, goal.Ready p.project w stage) ∨
      ∃ dir, goal = .conversion dir ∧ ∀ sources, ¬ Project.Declares p.project w sources := by
  cases goal with
  | revision c => exact Or.inl ⟨_, .revision c⟩
  | conversion dir =>
    by_cases h : ∃ sources, Project.Declares p.project w sources
    · obtain ⟨sources, hsources⟩ := h
      exact Or.inl ⟨_, .conversion hsources⟩
    · exact Or.inr ⟨dir, rfl, not_exists.1 h⟩

/-- Going for the goals takes this course. The induction is on the goals that are left,
in whatever world the stages before have led to. -/
theorem pursueAll_course (p : Programs) (goals : List Goal) (w : World) :
    ∃ made, Course p goals made w (p.pursueAll goals w) := by
  induction goals generalizing w with
  | nil => exact ⟨[], .arrived w⟩
  | cons goal rest ih =>
    rcases ready_or_unready p goal w with ⟨stage, hready⟩ | ⟨dir, rfl, hnone⟩
    · have hpursue := pursue_of_ready hready
      rcases hrun : (stage.launch p).run w with ⟨problem | reply, u⟩
      · -- the program cannot be started, and the world stays as it is
        obtain ⟨rfl, e, he⟩ := Stage.perform_of_error hrun
        have hall : p.pursueAll (goal :: rest) u = (.error e, u) :=
          bind_of_error (hpursue.trans he) _
        rw [hall]
        exact ⟨[], .unstarted hready hrun (by rw [he])⟩
      · obtain ⟨result, hperform, hsuccess⟩ := Stage.perform_of_ok hrun
        cases result with
        | error e =>
          have hall : p.pursueAll (goal :: rest) w = (.error e, u) :=
            bind_of_error (hpursue.trans hperform) _
          have hfailure : ¬ stage.Succeeds reply := fun h => nomatch hsuccess.2 h
          rw [hall]
          exact ⟨_, .failed hready hrun hfailure (by rw [hperform])⟩
        | ok =>
          have hall : p.pursueAll (goal :: rest) w = p.pursueAll rest u :=
            bind_of_ok (hpursue.trans hperform) _
          obtain ⟨made, hmade⟩ := ih u
          rw [hall]
          exact ⟨_, .passed hready hrun (hsuccess.1 rfl) hmade⟩
    · -- a conversion without directories to convert starts nothing
      obtain ⟨e, hread, hpursue⟩ := pursue_of_unready dir hnone
      have hall : p.pursueAll (.conversion dir :: rest) w = (.error e, w) :=
        bind_of_error hpursue _
      rw [hall]
      exact ⟨[], .unready hnone hread⟩

end Programs

namespace Course
variable {p : Programs} {goals : List Goal} {made : List (Stage × Reply)} {w : World}
  {ending : Except Error Unit × World}

theorem goals_first (h : Course p goals made w ending) :
    made.map (·.1.goal) <+: goals ∧ (ending.1 = .ok () → made.length = goals.length) := by
  induction h with
  | arrived w => simp
  | unready h hread => exact ⟨List.nil_prefix, nofun⟩
  | unstarted hready hrun hresult => exact ⟨List.nil_prefix, nofun⟩
  | failed hready hrun hfailure hresult =>
    refine ⟨?_, nofun⟩
    cases hready <;> simp [Stage.goal]
  | passed hready hrun hsuccess hrest ih =>
    obtain ⟨hfirst, hlength⟩ := ih
    constructor
    · cases hready <;> simpa [Stage.goal, List.cons_prefix_cons] using hfirst
    · intro hok
      simpa using hlength hok

theorem exchanges (h : Course p goals made w ending) :
    Exchanges Launch.run (made.map fun x => (x.1.launch p, .ok x.2)) w ending.2 := by
  induction h with
  | arrived w => rfl
  | unready h hread => rfl
  | unstarted hready hrun hresult => rfl
  | failed hready hrun hfailure hresult => exact ⟨_, hrun, rfl⟩
  | passed hready hrun hsuccess hrest ih => exact ⟨_, hrun, ih⟩

end Course

section Prepare
variable {p : Programs} {r : Request} {w w₀ u : World} {name : String}

/-- Once the revert directory has its name, the first half of the call is to go for
the four goals. -/
theorem prepare_of_name (hname : revertName r w = (.ok name, w₀)) :
    prepare p.tools p.project r w =
      (p.pursueAll (goals r (Path.join p.project name) (Path.join p.project r.dir)) >>= fun _ =>
        pure (Path.join p.project name, Path.join p.project r.dir)) w₀ := by
  unfold prepare
  rw [bind_of_ok hname]
  simp only [goals, Programs.pursueAll, Programs.pursue, bind_assoc, pure_bind]

theorem create_of_stopped (hname : revertName r w = (.ok name, w₀)) {e : Error}
    (h : p.pursueAll (goals r (Path.join p.project name) (Path.join p.project r.dir)) w₀ =
      (.error e, u)) : create p.tools p.project r w = (.error e, u) := by
  rw [create_eq]
  apply bind_of_error
  rw [prepare_of_name hname, bind_of_error h]

theorem create_of_arrived (hname : revertName r w = (.ok name, w₀))
    (h : p.pursueAll (goals r (Path.join p.project name) (Path.join p.project r.dir)) w₀ =
      (.ok (), u)) :
    create p.tools p.project r w =
      conclude r (Path.join p.project name) (Path.join p.project r.dir) u := by
  have hprepare : prepare p.tools p.project r w =
      (.ok (Path.join p.project name, Path.join p.project r.dir), u) := by
    rw [prepare_of_name hname, bind_of_ok h]
    rfl
  rw [create_eq, bind_of_ok hprepare]

end Prepare

theorem revertName_ok_serial (r : Request) (w : World) :
    ∃ name serial, revertName r w = (.ok name, { w with serial }) := by
  unfold revertName
  cases r.revertDir with
  | none => exact ⟨_, _, rfl⟩
  | some dir =>
    dsimp only
    split
    · exact ⟨_, _, rfl⟩
    · exact ⟨_, w.serial, rfl⟩

end ChangeSet

namespace Manifest

theorem load_keeps (path : String) : Moves Eq (load path) := by
  apply moves_bind (R := Eq) (fun _ _ _ => Eq.trans) (Action.readText_keeps _ _)
  intro text w
  rfl

end Manifest

namespace ChangeSet

theorem writeDestructive_onlyFiles (manifest : Option Manifest) (dir : String)
    (mode : DestructiveMode) : Moves Action.OnlyFiles (writeDestructive manifest dir mode) := by
  cases manifest with
  | none => exact moves_pure Action.onlyFiles_refl ()
  | some m => exact Action.writeText_onlyFiles _ _ _

theorem conclude_onlyFiles (r : Request) (revertDir dir : String) :
    Moves Action.OnlyFiles (conclude r revertDir dir) := by
  have load_onlyFiles (path : String) : Moves Action.OnlyFiles (Manifest.load path) := fun w =>
    Manifest.load_keeps path w ▸ Action.onlyFiles_refl w
  apply moves_bind Action.onlyFiles_trans (load_onlyFiles _)
  intro deploy
  apply moves_bind Action.onlyFiles_trans (load_onlyFiles _)
  intro revert
  apply moves_bind Action.onlyFiles_trans (writeDestructive_onlyFiles _ _ _)
  intro _
  split
  · apply moves_bind Action.onlyFiles_trans (writeDestructive_onlyFiles _ _ _)
    intro _
    exact moves_pure Action.onlyFiles_refl _
  · apply moves_bind Action.onlyFiles_trans (Action.removeDirectory_onlyFiles _ _)
    intro _
    exact moves_pure Action.onlyFiles_refl _

/-- The programs of the four stages with their arguments, where the project file lists
these directories before and after the merge. -/
def calls (bin : String) (r : Request) (revertDir dir : String) (before after : List String) :
    List (String × List String) :=
  [("git", ["checkout", r.base]),
    (bin, ["force:source:convert", "--outputdir", revertDir, "--sourcepath",
      ",".intercalate before, "--json"]),
    ("git", ["merge", r.head, r.base]),
    (bin, ["force:source:convert", "--outputdir", dir, "--sourcepath",
      ",".intercalate after, "--json"])]

/-- Stages for the first goals start the programs of these, each conversion with the
directories that it was given. -/
theorem calls_of_goals {made : List (Stage × Reply)} {goals : List Goal} (p : Programs)
    (h : made.map (·.1.goal) <+: goals) :
    ∃ sources : Nat → List String,
      made.map (fun x => ((x.1.launch p).program, (x.1.launch p).args)) <+:
        goals.mapIdx fun i goal => goal.call p.platform.bin (sources i) := by
  induction made generalizing goals with
  | nil => exact ⟨fun _ => [], List.nil_prefix⟩
  | cons x made ih =>
    cases goals with
    | nil => simp at h
    | cons goal goals =>
      rw [List.map_cons, List.cons_prefix_cons] at h
      obtain ⟨sources, hsources⟩ := ih h.2
      refine ⟨fun i => Nat.casesOn i x.1.sources sources, ?_⟩
      rw [List.map_cons, List.mapIdx_cons, List.cons_prefix_cons]
      exact ⟨h.1 ▸ x.1.call_eq p, hsources⟩

/-- What a call comes to. The stages lead from the first world to the one in which
they end; if one of them was not reached, or a package manifest cannot be read
after all of them, the call ends there, with this failure. -/
structure Traced (p : Programs) (r : Request) (w₀ : World) (revertDir dir : String)
    (made : List (Stage × Reply)) (ending : Except Error Unit) (u : World)
    (call : Except Error Changes × World) : Prop where
  course : Course p (goals r revertDir dir) made w₀ (ending, u)
  goals : made.map (·.1.goal) <+: goals r revertDir dir
  exchanges : Exchanges Launch.run (made.map fun x => (x.1.launch p, .ok x.2)) w₀ u
  starts : ∃ starts before after, call.2.starts = w₀.starts ++ starts ∧
    starts.map (fun s => (s.program, s.args)) =
      made.map (fun x => ((x.1.launch p).program, (x.1.launch p).args)) ∧
    starts.map (fun s => (s.program, s.args)) <+: calls p.platform.bin r revertDir dir before after
  stopped : ∀ e, ending = .error e → call = (.error e, u)
  arrived : ending = .ok () → made.length = 4
  unread : ending = .ok () → ∀ e,
    (Manifest.load (Path.join dir Manifest.fileName) u).1 = .error e → call = (.error e, u)
  revertUnread : ending = .ok () → ∀ deploy e,
    (Manifest.load (Path.join dir Manifest.fileName) u).1 = .ok deploy →
      (Manifest.load (Path.join revertDir Manifest.fileName) u).1 = .error e → call = (.error e, u)

section Conclude
variable {r : Request} {revertDir dir : String} {u : World} {e : Error}

theorem conclude_unread
    (h : (Manifest.load (Path.join dir Manifest.fileName) u).1 = .error e) :
    conclude r revertDir dir u = (.error e, u) :=
  bind_of_error (Prod.ext h (Manifest.load_keeps _ u).symm) _

theorem conclude_revertUnread {deploy : Manifest}
    (h : (Manifest.load (Path.join dir Manifest.fileName) u).1 = .ok deploy)
    (hrevert : (Manifest.load (Path.join revertDir Manifest.fileName) u).1 = .error e) :
    conclude r revertDir dir u = (.error e, u) := by
  unfold conclude
  rw [bind_of_ok (Prod.ext h (Manifest.load_keeps _ u).symm)]
  exact bind_of_error (Prod.ext hrevert (Manifest.load_keeps _ u).symm) _

end Conclude

/-- Once the revert directory has its name, the stages are gone through as far as they
pass, and what they come to is what the call comes to. -/
theorem traced_of_name (p : Programs) {r : Request} {w : World} {name : String} {serial : Nat}
    (hname : revertName r w = (.ok name, { w with serial })) :
    ∃ made ending u,
      Traced p r { w with serial } (Path.join p.project name) (Path.join p.project r.dir) made
        ending u (create p.tools p.project r w) := by
  obtain ⟨made, hcourse⟩ := p.pursueAll_course
    (goals r (Path.join p.project name) (Path.join p.project r.dir)) { w with serial }
  obtain ⟨hgoals, hlength⟩ := hcourse.goals_first
  have hexchanges := hcourse.exchanges
  rcases hend : p.pursueAll (goals r (Path.join p.project name) (Path.join p.project r.dir))
    { w with serial } with ⟨ending, u⟩
  rw [hend] at hcourse hlength hexchanges
  obtain ⟨starts, hstarts, hcalls⟩ := Launch.starts_of_exchanges hexchanges
  obtain ⟨sources, hfirst⟩ := calls_of_goals p hgoals
  rw [← hcalls] at hfirst
  refine ⟨made, ending, u, ?_⟩
  cases ending with
  | error e =>
    have hcall := create_of_stopped hname hend
    rw [hcall]
    exact {
      course := hcourse
      goals := hgoals
      exchanges := hexchanges
      starts := ⟨starts, sources 1, sources 3, hstarts, hcalls, hfirst⟩
      stopped := by
        rintro _ ⟨⟩
        rfl
      arrived := nofun
      unread := nofun
      revertUnread := nofun }
  | ok =>
    have hcall := create_of_arrived hname hend
    have hsame : (create p.tools p.project r w).2.starts = u.starts := by
      obtain ⟨files, hfiles⟩ := conclude_onlyFiles r (Path.join p.project name)
        (Path.join p.project r.dir) u
      rw [hcall, hfiles]
    exact {
      course := hcourse
      goals := hgoals
      exchanges := hexchanges
      starts := ⟨starts, sources 1, sources 3, hsame.trans hstarts, hcalls, hfirst⟩
      stopped := nofun
      arrived := hlength
      unread := fun _ _ h => hcall.trans (conclude_unread h)
      revertUnread := fun _ _ _ h hrevert => hcall.trans (conclude_revertUnread h hrevert) }

/-- However the programs answer, a call takes its stages in order, each only if all
before it have passed, and fails with the first failure in the world that the
programs have left. -/
theorem create_traced (p : Programs) (r : Request) (w : World) :
    ∃ name serial made ending u,
      revertName r w = (.ok name, { w with serial }) ∧
      Traced p r { w with serial } (Path.join p.project name) (Path.join p.project r.dir) made
        ending u (create p.tools p.project r w) := by
  obtain ⟨name, serial, hname⟩ := revertName_ok_serial r w
  obtain ⟨made, ending, u, htraced⟩ := traced_of_name p hname
  exact ⟨name, serial, made, ending, u, hname, htraced⟩

end ChangeSet
end OrgPipeline

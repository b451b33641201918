import OrgPipeline.Proofs.ChangeSet.Stages

/-!
# What a conversion is given to convert

The paths of the source directories are picked from those that the project file
lists, and every path that is picked names something. That the file lists a
directory is made sure of; that a path is left after the picking is not, so a
conversion is started without any path exactly if no directory of the list names one.
-/

set_option autoImplicit false

namespace OrgPipeline
open Sequence

namespace Project

def Holds (directory : String) (w : World) (project : Json) : Prop :=
  ∃ place content text,
    w.files.resolve w.here (Path.join directory fileName) = .ok place ∧
    w.files.get? place = some (.file content) ∧ Octets.text? content = some text ∧
    Json.read text = some project

def Lists (directory : String) (w : World) (directories : List Json) : Prop :=
  directories ≠ [] ∧ ∃ project, Holds directory w project ∧
    project.get? "packageDirectories" = some (.arr directories)

def Names (directory : Json) (path : String) : Prop :=
  directory.get? "path" = some (.str path) ∧ path ≠ ""

theorem path?_eq_some_iff {directory : Json} {path : String} :
    path? directory = some path ↔ Names directory path := by
  unfold path? Names
  rw [Option.filter_eq_some_iff, Option.bind_eq_some_iff, decide_eq_true_eq]
  apply and_congr_left'
  constructor
  · rintro ⟨v, hv, hs⟩
    cases v with
    | str s =>
      cases hs
      exact hv
    | _ => cases hs
  · intro h
    exact ⟨_, h, rfl⟩

theorem path?_eq_none_iff {directory : Json} :
    path? directory = none ↔ ∀ path, ¬ Names directory path := by
  rw [Option.eq_none_iff_forall_ne_some]
  exact forall_congr' fun path => not_congr path?_eq_some_iff

theorem declares_iff {directory : String} {w : World} {sources : List String} :
    Declares directory w sources ↔
      ∃ directories, Lists directory w directories ∧ sources = directories.filterMap path? := by
  constructor
  · rintro ⟨place, content, text, project, d, ds, hplace, hfile, htext, hread, hlist, hsources⟩
    exact ⟨d :: ds, ⟨List.cons_ne_nil d ds, project, ⟨place, content, text, hplace, hfile, htext,
      hread⟩, hlist⟩, hsources⟩
  · rintro ⟨directories, ⟨hne, project, ⟨place, content, text, hplace, hfile, htext, hread⟩, hlist⟩,
      hsources⟩
    obtain ⟨d, ds, rfl⟩ := List.exists_cons_of_ne_nil hne
    exact ⟨place, content, text, project, d, ds, hplace, hfile, htext, hread, hlist, hsources⟩

/-- The paths that are picked, in the order of the list: each is the path of a directory,
each directory with a path has its own among them, and there is none exactly if no
directory has one. -/
structure Picked (directories : List Json) (sources : List String) : Prop where
  picked : sources = directories.filterMap path?
  nonEmpty : ∀ path ∈ sources, path ≠ ""
  complete : ∀ path, path ∈ sources ↔ ∃ d ∈ directories, Names d path
  nil_iff : sources = [] ↔ ∀ d ∈ directories, ∀ path, ¬ Names d path

theorem picked_filterMap (directories : List Json) :
    Picked directories (directories.filterMap path?) where
  picked := rfl
  nonEmpty := by
    intro path h
    obtain ⟨d, -, hd⟩ := List.mem_filterMap.1 h
    exact (path?_eq_some_iff.1 hd).2
  complete := by
    intro path
    rw [List.mem_filterMap]
    exact exists_congr fun d => and_congr_right' path?_eq_some_iff
  nil_iff := by
    rw [List.filterMap_eq_nil_iff]
    exact forall₂_congr fun d _ => path?_eq_none_iff

/-- Reading the paths changes nothing and gives an error, unless the project file lists
directories: then it gives what is picked of them. -/
theorem readSourcePaths_picked (directory : String) (w : World) :
    ∃ result, readSourcePaths directory w = (result, w) ∧ ∀ sources, result = .ok sources ↔
      ∃ directories, Lists directory w directories ∧ Picked directories sources := by
  have hworld := readSourcePaths_keeps directory w
  rcases hread : readSourcePaths directory w with ⟨result, u⟩
  rw [hread] at hworld
  obtain rfl : w = u := hworld
  refine ⟨result, rfl, fun sources => ?_⟩
  have hresult : result = .ok sources ↔ Declares directory w sources := by
    rw [← readSourcePaths_ok_iff, hread, Prod.mk.injEq]
    exact (and_iff_left rfl).symm
  rw [hresult, declares_iff]
  constructor
  · rintro ⟨directories, hlists, rfl⟩
    exact ⟨directories, hlists, picked_filterMap directories⟩
  · rintro ⟨directories, hlists, hpicked⟩
    exact ⟨directories, hlists, hpicked.picked⟩

/-- One directory is listed, and no path is picked. -/
example : (sourcePaths "\x7b\"packageDirectories\":[\x7b\x7d]\x7d").toOption = some [] := by
  decide +kernel

end Project

namespace ChangeSet
variable {p : Programs}

theorem Goal.Ready.goal_eq {project : String} {w : World} {goal : Goal} {stage : Stage}
    (h : goal.Ready project w stage) : stage.goal = goal := by
  cases h <;> rfl

/-- A stage that was gone through was ready where the stages before it had led. -/
theorem Course.ready {goals : List Goal} {made : List (Stage × Reply)} {w : World}
    {ending : Except Error Unit × World} (h : Course p goals made w ending)
    {before after : List (Stage × Reply)} {stage : Stage} {reply : Reply}
    (hmade : made = before ++ (stage, reply) :: after) :
    ∃ v, Exchanges Launch.run (before.map fun x => (x.1.launch p, .ok x.2)) w v ∧
      stage.goal.Ready p.project v stage := by
  induction h generalizing before with
  | arrived w => simp at hmade
  | unready h hread => simp at hmade
  | unstarted hready hrun hresult => simp at hmade
  | @failed goal rest own w u answer e hready hrun hfailure hresult =>
    cases before with
    | nil =>
      cases hmade
      exact ⟨w, rfl, hready.goal_eq ▸ hready⟩
    | cons x before => simp at hmade
  | @passed goal rest own w u answer made ending hready hrun hsuccess hrest ih =>
    cases before with
    | nil =>
      cases hmade
      exact ⟨w, rfl, hready.goal_eq ▸ hready⟩
    | cons x before =>
      rw [List.cons_append, List.cons.injEq] at hmade
      obtain ⟨rfl, hmade⟩ := hmade
      obtain ⟨v, hbefore, hready⟩ := ih hmade
      exact ⟨v, ⟨u, hrun, hbefore⟩, hready⟩

/-- However the project file reads and the programs answer: the paths that are read are
those that the listed directories name, all non-empty, and every conversion a call
starts is given those of the project file as it is by then. So the list is empty, and
the conversion begins all the same, exactly if directories are listed and none of them
has a path. -/
theorem create_converts_picked (p : Programs) (r : Request) (w : World) :
    (∀ directory v, ∃ result, Project.readSourcePaths directory v = (result, v) ∧
      ∀ sources, result = .ok sources ↔ ∃ directories,
        Project.Lists directory v directories ∧ Project.Picked directories sources) ∧
    ∃ name serial made ending u,
      revertName r w = (.ok name, { w with serial }) ∧
      Traced p r { w with serial } (Path.join p.project name) (Path.join p.project r.dir) made
        ending u (create p.tools p.project r w) ∧
      ∀ before dir sources reply after, made = before ++ (.conversion dir sources, reply) :: after →
        ∃ v directories,
          Exchanges Launch.run (before.map fun x => (x.1.launch p, .ok x.2)) { w with serial } v ∧
          Project.Lists p.project v directories ∧ Project.Picked directories sources := by
  refine ⟨Project.readSourcePaths_picked, ?_⟩
  obtain ⟨name, serial, hname⟩ := revertName_ok_serial r w
  obtain ⟨made, ending, u, htraced⟩ := traced_of_name p hname
  refine ⟨name, serial, made, ending, u, hname, htraced, ?_⟩
  intro before dir sources reply after hmade
  obtain ⟨v, hbefore, hready⟩ := htraced.course.ready hmade
  cases hready with
  | conversion h =>
    obtain ⟨directories, hlists, rfl⟩ := Project.declares_iff.1 h
    exact ⟨v, directories, hbefore, hlists, Project.picked_filterMap directories⟩

end ChangeSet
end OrgPipeline

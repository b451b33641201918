import OrgPipeline.Proofs.Transfer.Course

/-!
# Nothing is left of a transfer

The file of a transfer is made in a directory that is there and removed from it
again, whichever command failed in between. Apart from it the files come to what
the programs alone would have made of them, and the removal does not cover up
what the copy came to.
-/

set_option autoImplicit false

namespace OrgPipeline

namespace Files

def SameBut (place : Place) (f g : Files) : Prop := ∀ q, q ≠ place → g.get? q = f.get? q

theorem sameBut_refl (place : Place) (f : Files) : SameBut place f f := fun _ _ => rfl

theorem sameBut_trans (place : Place) (f g h : Files) (hfg : SameBut place f g)
    (hgh : SameBut place g h) : SameBut place f h :=
  fun q hq => (hgh q hq).trans (hfg q hq)

theorem sameBut_insert {f : Files} {place : Place} (hne : place ≠ []) (e : Entry) :
    SameBut place f (f.insert place e) := by
  intro q hq
  rw [get?_insert f place q e hne, if_neg hq]

theorem sameBut_erase {f : Files} {place : Place} (hne : place ≠ []) :
    SameBut place f (f.erase place) := by
  intro q hq
  rw [get?_erase f hne, if_neg hq]

theorem extends_erase (f : Files) (place : Place) : Extends (f.erase place) f := by
  intro q e hq
  by_cases hroot : q = []
  · subst hroot
    rw [get?_root] at hq ⊢
    exact hq
  · simp only [get?, if_neg hroot, erase, lookup_filter_ne] at hq ⊢
    split at hq
    · cases hq
    · exact hq

/-- Files that come from others by what programs do to them, one after another, and
by changes in one place before and after each program. -/
inductive ChangedBy (place : Place) (f : Files) : List (Start × Reply) → Files → Prop
  | unchanged {g : Files} (same : SameBut place f g) : ChangedBy place f [] g
  | started {taken : List (Start × Reply)} {start : Start} {reply : Reply} {g : Files}
    (before : ChangedBy place f taken start.files)
    (same : SameBut place (reply.effect start start.files) g) :
    ChangedBy place f (taken ++ [(start, reply)]) g

theorem ChangedBy.trans {place : Place} {f g h : Files} {taken : List (Start × Reply)}
    (hfg : ChangedBy place f taken g) (hgh : SameBut place g h) : ChangedBy place f taken h := by
  cases hfg with
  | unchanged same => exact .unchanged (sameBut_trans place f g h same hgh)
  | started before same => exact .started before (sameBut_trans place _ g h same hgh)

end Files

def Reply.Spares (here : Place) (directory : String) (place : Place) (name : String)
    (reply : Reply) : Prop :=
  ∀ start files, Files.Leads files here directory place →
    Files.Leads (reply.effect start files) here directory place ∧
      (reply.effect start files).get? (place ++ [name]) = files.get? (place ++ [name])

namespace Transfer
open Platform Sequence

/-- A world that comes from another by starts with these replies and by changes to
one name in a directory. -/
structure Underway (directory : String) (place : Place) (name : String) (w v : World)
    (taken : List (Start × Reply)) : Prop where
  here : v.here = w.here
  programs : v.programs = w.programs
  script : v.script = w.script.drop taken.length
  starts : v.starts = w.starts ++ taken.map Prod.fst
  replies : ∀ i start reply, taken[i]? = some (start, reply) →
    w.reply? i start.program = some reply
  directory : v.files.Leads w.here directory place
  file : v.files.get? (place ++ [name]) ≠ some .directory
  changed : Files.ChangedBy (place ++ [name]) w.files taken v.files

namespace Underway

variable {directory name : String} {place : Place} {w v : World} {taken : List (Start × Reply)}

theorem begin (hdirectory : w.files.Leads w.here directory place)
    (hnew : w.files.get? (place ++ [name]) = none) :
    Underway directory place name w (begun w) [] where
  here := rfl
  programs := rfl
  script := rfl
  starts := by simp [begun]
  replies := by simp
  directory := hdirectory
  file := by simp [begun, hnew]
  changed := .unchanged (Files.sameBut_refl _ _)

theorem reply?_eq (h : Underway directory place name w v taken) (program : String) :
    v.reply? 0 program = w.reply? taken.length program := by
  rw [World.reply?, World.reply?, h.programs, h.script, List.getElem?_drop, Nat.add_zero]

/-- One more program, whether it starts or not. -/
theorem launched (h : Underway directory place name w v taken)
    (hprograms : ∀ reply, w.Answers reply → reply.Spares w.here directory place name) (l : Launch) :
    ∃ taken', Underway directory place name w (l.run v).2 taken' := by
  rcases hrun : l.run v with ⟨problem | reply, u⟩
  · rw [Launch.run_of_error hrun]
    exact ⟨taken, h⟩
  · obtain ⟨at', -, hreply, rfl⟩ := Launch.run_started hrun
    rw [h.reply?_eq] at hreply
    have hspares := hprograms reply (World.answers_of_reply? hreply) (l.startAt at' v.files) v.files
      h.directory
    refine ⟨taken ++ [(l.startAt at' v.files, reply)], ?_⟩
    constructor
    · exact h.here
    · exact h.programs
    · change v.script.tail = _
      rw [h.script, List.tail_drop, List.length_append, List.length_singleton]
    · change v.starts ++ _ = _
      rw [h.starts, List.append_assoc, List.map_append]
      rfl
    · intro i start reply' hi
      rcases Nat.lt_trichotomy i taken.length with hlt | rfl | hgt
      · rw [List.getElem?_append_left hlt] at hi
        exact h.replies i start reply' hi
      · simp only [List.getElem?_concat_length, Option.some.injEq, Prod.mk.injEq] at hi
        obtain ⟨rfl, rfl⟩ := hi
        exact hreply
      · rw [List.getElem?_eq_none (by simp; omega)] at hi
        cases hi
    · exact hspares.1
    · exact hspares.2 ▸ h.file
    · exact .started h.changed (Files.sameBut_refl _ _)

theorem written (h : Underway directory place name w v taken) (hn : IsName name)
    (habs : Path.isAbsolute directory = true) (content operation : String) :
    ∃ u, Action.writeText (Path.join directory name) content operation v = (.ok (), u) ∧
      Underway directory place name w u taken := by
  have hne : place ++ [name] ≠ [] := by simp
  have hdirectory : v.files.Leads v.here directory place := h.here ▸ h.directory
  refine ⟨_, Action.writeText_join hn habs hdirectory h.file content operation, ?_⟩
  constructor
  · exact h.here
  · exact h.programs
  · exact h.script
  · exact h.starts
  · exact h.replies
  · exact Files.leads_keeps (Files.keeps_insert_file _ _ _ hne h.file) h.directory
  · simp [Files.get?_insert _ _ _ _ hne]
  · exact h.changed.trans (Files.sameBut_insert hne _)

/-- The name is removed, whether a file stands there or nothing. -/
theorem removed (h : Underway directory place name w v taken) (hn : IsName name)
    (operation : String) :
    ∃ u, Action.remove (Path.join directory name) operation v = (.ok (), u) ∧
      u.starts = v.starts ∧ u.files.find? u.here (Path.join directory name) = none ∧
      u.files.get? (place ++ [name]) = none ∧
      Files.ChangedBy (place ++ [name]) w.files taken u.files := by
  have hne : place ++ [name] ≠ [] := by simp
  have hdirectory : v.files.Leads v.here directory place := h.here ▸ h.directory
  have hfind := Files.find?_join_name hn hdirectory
  cases hfile : v.files.get? (place ++ [name]) with
  | none =>
    exact ⟨v, Action.remove_of_none (hfind.trans hfile), rfl, hfind.trans hfile, hfile, h.changed⟩
  | some e =>
    cases e with
    | directory => exact absurd hfile h.file
    | file content =>
      have hplace : v.files.resolve v.here (Path.join directory name) = .ok (place ++ [name]) :=
        (Files.resolve_join hn _ _ _ _).2 ⟨place, hdirectory, rfl, by simp [hfile]⟩
      have hgone : (v.files.erase (place ++ [name])).get? (place ++ [name]) = none := by
        rw [Files.get?_erase _ hne, if_pos rfl]
      refine ⟨{ v with files := v.files.erase (place ++ [name]) }, ?_, rfl, ?_, hgone, ?_⟩
      · rw [Action.remove_of_resolve hplace (by simp [hfile])]
        exact Action.ofFiles_of_ok (Files.remove_of_file hplace hfile) _
      · -- the path leads nowhere that it did not lead before
        cases hleft : (v.files.erase (place ++ [name])).find? v.here (Path.join directory name) with
        | none => rfl
        | some e =>
          obtain ⟨place', hplace', he⟩ := Files.exists_of_find?_join hn hleft
          have hkept := Files.keeps_of_extends (Files.extends_erase v.files (place ++ [name]))
          obtain rfl := Files.leads_unique (Files.leads_keeps hkept hplace') hdirectory
          rw [hgone] at he
          cases he
      · exact h.changed.trans (Files.sameBut_erase hne)

end Underway

theorem Course.underway {tool : Sfdx} {directory : String} {t : Transfer} {w v : World}
    {place : Place} {asked : List (Command × Except Error Json)} {result : Except Error Json}
    (hcourse : Course tool t (tempFile directory w) (begun w) asked v result)
    (habs : Path.isAbsolute directory = true)
    (hprograms : ∀ reply, w.Answers reply →
      reply.Spares w.here directory place (fileName w.serial))
    (hbegin : Underway directory place (fileName w.serial) w (begun w) []) :
    ∃ taken, Underway directory place (fileName w.serial) w v taken := by
  have hn := isName_fileName w.serial
  have hfile : Path.join tool.directory (tempFile directory w) = tempFile directory w := by
    have hroot : Path.isAbsolute (tempFile directory w) = true := by
      rw [tempFile, Path.isAbsolute_join hn, habs]
    rw [Path.join.eq_1, if_pos hroot]
  obtain ⟨taken, hqueried⟩ := hbegin.launched hprograms (queryLaunch tool t)
  cases hcourse with
  | unstarted e hquery => exact ⟨[], hbegin⟩
  | refused e hquery hending =>
    rw [hquery] at hqueried
    exact ⟨taken, hqueried⟩
  | unwritten hquery hending hwrite =>
    -- where the directory stays in place, writing does not fail
    rw [hquery] at hqueried
    obtain ⟨u, hwritten, -⟩ := hqueried.written hn habs _ _
    rw [hfile] at hwrite
    cases hwrite.symm.trans hwritten
  | @upserted reply u u' _ answer hquery hending hwrite hupsert =>
    rw [hquery] at hqueried
    obtain ⟨u'', hwritten, hunderway⟩ := hqueried.written hn habs _ _
    rw [hfile] at hwrite
    cases hwrite.symm.trans hwritten
    rw [upsert_world hupsert]
    exact hunderway.launched hprograms (upsertLaunch tool t (tempFile directory w))

/-- Whatever programs answer that leave the directory in place and the new name in it
alone: the transfer ends in what its copy came to, be it a value or an error, the
file is gone, and the files are those before as the started programs changed them, one
after another. -/
theorem run_leaves_nothing (tool : Sfdx) (directory : String) (t : Transfer) (w : World)
    (place : Place) (habs : Path.isAbsolute directory = true)
    (hdirectory : w.files.Leads w.here directory place)
    (hnew : w.files.get? (place ++ [fileName w.serial]) = none)
    (hprograms : ∀ reply, w.Answers reply →
      reply.Spares w.here directory place (fileName w.serial)) :
    ∃ u taken,
      t.run tool.perform directory w =
        ((t.copy tool.perform (tempFile directory w) (begun w)).1, u) ∧
      u.files.exists? u.here (tempFile directory w) = false ∧
      u.files.get? (place ++ [fileName w.serial]) = none ∧
      u.starts = w.starts ++ taken.map Prod.fst ∧
      (∀ i start reply, taken[i]? = some (start, reply) →
        w.reply? i start.program = some reply) ∧
      Files.ChangedBy (place ++ [fileName w.serial]) w.files taken u.files := by
  have hn := isName_fileName w.serial
  obtain ⟨asked, -, hcourse⟩ := copy_course tool t (tempFile directory w) (begun w)
  obtain ⟨taken, hunderway⟩ :=
    hcourse.underway habs hprograms (Underway.begin hdirectory hnew)
  obtain ⟨u, hremove, hstarts, hfind, hgone, hchanged⟩ :=
    hunderway.removed hn "remove transfer data file"
  have hrun := (run_eq tool.perform directory t w).trans (bind_of_ok hremove _)
  refine ⟨u, taken, hrun, ?_, hgone, ?_, hunderway.replies, hchanged⟩
  · rw [Files.exists?, tempFile, hfind]
    rfl
  · rw [hstarts, hunderway.starts]

theorem leads_work {files : Files} (h : files.get? ["work"] = some .directory) :
    files.Leads [] "/work" ["work"] := by
  have hnames : Path.namesTo "/work" = ["", "work"] := by decide +kernel
  have hstart : Files.startOf [] "/work" = [] := rfl
  refine ⟨by decide, ?_, h⟩
  rw [hnames, hstart]
  simp [Files.follow, Files.get?_root, h]

theorem logging_spares (stdout : String) (code : Nat) (name : String) :
    (logging stdout code).Spares [] "/work" ["work"] name := by
  intro start files hwork
  have hinsert (q : Place) (hq : q ≠ ["log"]) :
      ((logging stdout code).effect start files).get? q = files.get? q := by
    change (files.insert ["log"] _).get? q = _
    rw [Files.get?_insert _ _ _ _ (by simp), if_neg hq]
  exact ⟨leads_work ((hinsert _ (by decide)).trans hwork.2.2), hinsert _ (by simp)⟩

theorem run_leaves_nothing_workplace :
    ∃ u taken,
      oneField.run (Sfdx.perform ⟨"sfdx", "/work"⟩) "/work" (workplace "no" 1) =
        ((oneField.copy (Sfdx.perform ⟨"sfdx", "/work"⟩) (tempFile "/work" (workplace "no" 1))
          (begun (workplace "no" 1))).1, u) ∧
      u.files.exists? u.here (tempFile "/work" (workplace "no" 1)) = false ∧
      u.files.get? (["work"] ++ [fileName 7]) = none ∧
      u.starts = [] ++ taken.map Prod.fst ∧
      (∀ i start reply, taken[i]? = some (start, reply) →
        (workplace "no" 1).reply? i start.program = some reply) ∧
      Files.ChangedBy (["work"] ++ [fileName 7]) (workplace "no" 1).files taken u.files := by
  have hprograms : ∀ reply, (workplace "no" 1).Answers reply →
      reply.Spares [] "/work" ["work"] (fileName 7) := by
    intro reply h
    obtain ⟨stdout, code, rfl⟩ := workplace_answers h
    exact logging_spares stdout code _
  exact run_leaves_nothing ⟨"sfdx", "/work"⟩ "/work" oneField (workplace "no" 1) ["work"] rfl
    (leads_work rfl) rfl hprograms

end Transfer
end OrgPipeline

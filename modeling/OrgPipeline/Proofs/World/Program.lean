import OrgPipeline.World.Program
import OrgPipeline.Proofs.Sequence

/-!
# One start

A program that is started appends one start to those made before, takes up the
next answer and changes the files as its answer says. One that cannot be started
leaves the world as it was.
-/

set_option autoImplicit false

namespace OrgPipeline

@[simp] theorem ProgramOutput.success_ofReply (reply : Reply) :
    (ofReply reply).success = reply.ending.isSuccess := rfl

namespace World

/-- The answer to a start that comes after so many others, if the program can be
started: the one that is laid down for it, or the unprompted one. -/
def reply? (w : World) (i : Nat) (program : String) : Option Reply :=
  (w.programs.lookup program).map fun unprompted => ((w.script[i]?).join).getD unprompted

def Answers (w : World) (reply : Reply) : Prop :=
  some reply ∈ w.script ∨ ∃ program, (program, reply) ∈ w.programs

theorem mem_of_lookup {program : String} {reply : Reply} {programs : List (String × Reply)}
    (h : programs.lookup program = some reply) : (program, reply) ∈ programs := by
  induction programs with
  | nil => cases h
  | cons x programs ih =>
    obtain ⟨name, r⟩ := x
    rw [List.lookup_cons] at h
    cases hname : program == name with
    | true =>
      rw [hname] at h
      cases h
      rw [eq_of_beq hname]
      exact List.mem_cons_self
    | false =>
      rw [hname] at h
      exact List.mem_cons_of_mem _ (ih h)

theorem answers_of_reply? {w : World} {i : Nat} {program : String} {reply : Reply}
    (h : w.reply? i program = some reply) : w.Answers reply := by
  obtain ⟨unprompted, hlookup, hreply⟩ := Option.map_eq_some_iff.1 h
  cases hscript : (w.script[i]?).join with
  | none =>
    rw [hscript, Option.getD_none] at hreply
    exact Or.inr ⟨program, hreply ▸ mem_of_lookup hlookup⟩
  | some laid =>
    rw [hscript, Option.getD_some] at hreply
    rw [Option.join_eq_some_iff] at hscript
    exact Or.inl (hreply ▸ List.mem_of_getElem? hscript)

end World

namespace Launch
open Sequence
variable {l : Launch} {w u : World}

def startAt (l : Launch) (place : Place) (files : Files) : Start :=
  ⟨l.program, l.args, place, l.token, files⟩

theorem place_ok {here place : Place} {files : Files} (h : l.place here files = .ok place) :
    files.resolve here l.directory = .ok place ∧ files.get? place = some .directory := by
  unfold Launch.place at h
  split at h
  · cases h
  · next q hq =>
    split at h
    · next hd =>
      cases h
      exact ⟨hq, hd⟩
    · cases h
    · cases h

theorem run_of_error {problem : StartProblem} (h : l.run w = (.error problem, u)) : u = w := by
  unfold run at h
  split at h
  · cases h
    rfl
  · cases h

/-- All that a start changes in the world. -/
theorem run_started {reply : Reply} (h : l.run w = (.ok reply, u)) :
    ∃ place, l.place w.here w.files = .ok place ∧ w.reply? 0 l.program = some reply ∧
      u = { w with
        files := reply.effect (l.startAt place w.files) w.files
        script := w.script.tail
        starts := w.starts ++ [l.startAt place w.files] } := by
  unfold run at h
  split at h
  · cases h
  · next start unprompted hprepare =>
    cases h
    unfold prepare at hprepare
    split at hprepare
    · cases hprepare
    · split at hprepare
      · cases hprepare
      · next place hplace =>
        split at hprepare
        · cases hprepare
        · next hlookup =>
          cases hprepare
          refine ⟨place, hplace, ?_, rfl⟩
          rw [World.reply?, hlookup, List.head?_eq_getElem?]
          rfl

/-- Whether or not the program starts, the world is where it was, and no other replies
are to come. -/
theorem run_world (l : Launch) (w : World) :
    (l.run w).2.here = w.here ∧ ∀ reply, (l.run w).2.Answers reply → w.Answers reply := by
  rcases hrun : l.run w with ⟨problem | reply, u⟩
  · rw [run_of_error hrun]
    exact ⟨rfl, fun _ h => h⟩
  · obtain ⟨place, -, -, rfl⟩ := run_started hrun
    refine ⟨rfl, ?_⟩
    rintro later (hscript | hprograms)
    · exact Or.inl (List.mem_of_mem_tail hscript)
    · exact Or.inr hprograms

theorem run_keeps {P : Files → Prop} (l : Launch) {w : World}
    (hreplies : ∀ reply, w.Answers reply → ∀ start files, P files → P (reply.effect start files))
    (hw : P w.files) : P (l.run w).2.files := by
  rcases hrun : l.run w with ⟨problem | reply, u⟩
  · rwa [run_of_error hrun]
  · obtain ⟨place, -, hreply, rfl⟩ := run_started hrun
    exact hreplies reply (World.answers_of_reply? hreply) _ _ hw

theorem run_of_ok {reply : Reply} (h : l.run w = (.ok reply, u)) :
    ∃ start : Start, start.program = l.program ∧ start.args = l.args ∧ start.token = l.token ∧
      start.files = w.files ∧ u.starts = w.starts ++ [start] ∧
      u.files = reply.effect start w.files := by
  obtain ⟨place, -, -, rfl⟩ := run_started h
  exact ⟨l.startAt place w.files, rfl, rfl, rfl, rfl, rfl, rfl⟩

theorem capture_of_ok {reply : Reply} (h : l.run w = (.ok reply, u)) (context : String) :
    l.capture context w = (.ok (.ofReply reply), u) := by
  unfold capture
  rw [h]

theorem capture_of_error {problem : StartProblem} (h : l.run w = (.error problem, u))
    (context : String) :
    l.capture context w =
      (.error (Cause.io ("Failed to run " ++ context ++ ": " ++ problem.text) (some context)),
        u) := by
  unfold capture
  rw [h]

theorem trimmedOutput_of_ok {reply : Reply} (h : l.run w = (.ok reply, u)) (context : String) :
    ∃ result, l.trimmedOutput context w = (result, u) ∧
      ((∃ text, result = .ok text) ↔ reply.ending.isSuccess = true) := by
  unfold trimmedOutput
  rw [bind_of_ok (capture_of_ok h context), ProgramOutput.success_ofReply]
  by_cases hsuccess : reply.ending.isSuccess = true
  · rw [if_pos hsuccess]
    exact ⟨_, rfl, fun _ => hsuccess, fun _ => ⟨_, rfl⟩⟩
  · rw [if_neg hsuccess]
    refine ⟨_, rfl, ?_, fun hyes => absurd hyes hsuccess⟩
    rintro ⟨text, ⟨⟩⟩

theorem trimmedOutput_of_error {problem : StartProblem} (h : l.run w = (.error problem, u))
    (context : String) : ∃ e, l.trimmedOutput context w = (.error e, u) := by
  unfold trimmedOutput
  exact ⟨_, bind_of_error (capture_of_error h context) _⟩

theorem starts_of_exchanges {ι : Type} {launch : ι → Launch} {taken : List (ι × Reply)}
    (h : Exchanges Launch.run (taken.map fun x => (launch x.1, .ok x.2)) w u) :
    ∃ starts, u.starts = w.starts ++ starts ∧
      starts.map (fun s => (s.program, s.args)) =
        taken.map fun x => ((launch x.1).program, (launch x.1).args) := by
  induction taken generalizing w with
  | nil =>
    cases h
    exact ⟨[], by simp, rfl⟩
  | cons x rest ih =>
    obtain ⟨v, hrun, hrest⟩ := h
    obtain ⟨start, hprogram, hargs, -, -, hstarts, -⟩ := run_of_ok hrun
    obtain ⟨starts, hmore, hcalls⟩ := ih hrest
    refine ⟨start :: starts, ?_, ?_⟩
    · rw [hmore, hstarts, List.append_assoc]
      rfl
    · rw [List.map_cons, List.map_cons, hcalls, hprogram, hargs]

end Launch
end OrgPipeline

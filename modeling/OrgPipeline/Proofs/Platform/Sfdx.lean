import OrgPipeline.Platform.Sfdx
import OrgPipeline.Proofs.World.Program

/-!
# Commands and their answers

A command is one start of the tool. If the tool starts, the answer is read from
what it prints; an envelope that reports a failure becomes an error which says
all that the envelope says.
-/

set_option autoImplicit false

namespace OrgPipeline.Platform
open Sequence

namespace Sfdx

def launch (tool : Sfdx) (c : Command) : Launch :=
  ⟨tool.directory, tool.bin, (invocation c).1 :: (invocation c).2 ++ ["--json"], token? c⟩

variable {tool : Sfdx} {c : Command} {w u : World}

theorem runEnveloped_of_ok {reply : Reply} (h : (tool.launch c).run w = (.ok reply, u)) :
    tool.runEnveloped c w = (Envelope.answer (invocation c).1 (.ofReply reply), u) := by
  unfold runEnveloped
  exact bind_of_ok (Launch.capture_of_ok h _) _

theorem runEnveloped_of_error {problem : StartProblem}
    (h : (tool.launch c).run w = (.error problem, u)) :
    ∃ e, tool.runEnveloped c w = (.error e, u) := by
  unfold runEnveloped
  exact ⟨_, bind_of_error (Launch.capture_of_error h _) _⟩

theorem runEnveloped_world (tool : Sfdx) (c : Command) (w : World) :
    (tool.runEnveloped c w).2 = ((tool.launch c).run w).2 := by
  rcases hrun : (tool.launch c).run w with ⟨problem | reply, u⟩
  · obtain ⟨e, he⟩ := runEnveloped_of_error hrun
    rw [he]
  · rw [runEnveloped_of_ok hrun]

def queryLaunch (tool : Sfdx) (c : Command) : Launch :=
  ⟨tool.directory, tool.bin, (invocation c).1 :: (invocation c).2, none⟩

theorem runQuery_of_error {problem : StartProblem}
    (h : (tool.queryLaunch c).run w = (.error problem, u)) (csvFile : String)
    (header : Option String) : ∃ e, tool.runQuery c csvFile header w = (.error e, u) := by
  unfold runQuery
  exact ⟨_, bind_of_error (Launch.capture_of_error h _) _⟩

theorem runQuery_of_failure {reply : Reply} (h : (tool.queryLaunch c).run w = (.ok reply, u))
    (hending : reply.ending.isSuccess = false) (csvFile : String) (header : Option String) :
    ∃ e, tool.runQuery c csvFile header w = (.error e, u) := by
  refine ⟨Envelope.bareFailure queryFailureName (invocation c).1 (.ofReply reply), ?_⟩
  unfold runQuery
  refine (bind_of_ok (Launch.capture_of_ok h _) _).trans ?_
  rw [ProgramOutput.success_ofReply, if_neg (by simp [hending])]
  rfl

theorem runQuery_of_success {reply : Reply} (h : (tool.queryLaunch c).run w = (.ok reply, u))
    (hending : reply.ending.isSuccess = true) (csvFile : String) (header : Option String) :
    tool.runQuery c csvFile header w =
      (Action.writeText (Path.join tool.directory csvFile) (rows header reply.stdout.lossy)
        "write SOQL query CSV" >>= fun _ => pure .null) u := by
  unfold runQuery
  refine (bind_of_ok (Launch.capture_of_ok h _) _).trans ?_
  rw [ProgramOutput.success_ofReply, if_pos hending]
  rfl

theorem perform_convertSource (tool : Sfdx) (dir : String) (sources : List String) :
    tool.perform (.convertSource dir sources) = tool.runEnveloped (.convertSource dir sources) :=
  rfl

end Sfdx

namespace Envelope

def ReportsFailure (e : Envelope) (reply : Reply) : Prop :=
  e.status ≠ 0 ∨ reply.ending.isSuccess = false

theorem answer_ok_iff {subcommand : String} {reply : Reply} {v : Json} :
    answer subcommand (.ofReply reply) = .ok v ↔
      ∃ e, ofOutput? (.ofReply reply) = some e ∧ ¬ e.ReportsFailure reply ∧ v = e.result := by
  unfold answer ReportsFailure
  cases hread : ofOutput? (.ofReply reply) with
  | none =>
    dsimp only
    split <;> simp
  | some e =>
    dsimp only
    by_cases hstatus : e.status = 0
    · cases hsuccess : reply.ending.isSuccess with
      | true =>
        rw [if_pos ⟨hstatus, hsuccess⟩]
        simp [hstatus, eq_comm]
      | false =>
        rw [if_neg (by simp [ProgramOutput.ofReply, hsuccess])]
        simp
    · rw [if_neg (by simp [hstatus])]
      simp [hstatus]

theorem answer_of_reportsFailure {e : Envelope} {reply : Reply} (subcommand : String)
    (hread : ofOutput? (.ofReply reply) = some e) (h : e.ReportsFailure reply) :
    answer subcommand (.ofReply reply) = .error (failure subcommand reply.ending.code e) := by
  unfold answer
  rw [hread]
  dsimp only
  rw [if_neg]
  · rfl
  · rintro ⟨hstatus, hsuccess⟩
    rcases h with hne | hfalse
    · exact hne hstatus
    · rw [ProgramOutput.ofReply, hfalse] at hsuccess
      cases hsuccess

end Envelope
end OrgPipeline.Platform

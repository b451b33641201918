import OrgPipeline.Platform.Deploy
import OrgPipeline.Proofs.Json.Members
import OrgPipeline.Proofs.Text.Split
import OrgPipeline.Proofs.World.Operations

/-!
# The course of a deployment

A deployment is ordered once. Only if the answer names a job is its report asked
for, always in the same words, up to the first answer that decides, and no more
often than there are attempts. A deployment succeeds exactly if the answer that
decides is the report of a job that is done and was a success.
-/

set_option autoImplicit false

namespace OrgPipeline.Platform
open Sequence

namespace DeployReport

def Done (report : Json) : Prop := report.get? "done" = some (.bool true)

def Succeeded (report : Json) : Prop := report.get? "success" = some (.bool true)

theorem any_isTrue_iff (v : Option Json) : v.any Json.isTrue = true ↔ v = some (.bool true) := by
  cases v with
  | none => simp
  | some v => cases v <;> simp [Json.isTrue]

theorem isDone_iff (report : Json) : isDone report = true ↔ Done report :=
  any_isTrue_iff _

theorem isSuccess_iff (report : Json) : isSuccess report = true ↔ Succeeded report :=
  any_isTrue_iff _

def summaryNames : List String :=
  ["id", "status", "numberComponentErrors", "numberComponentsDeployed", "numberComponentsTotal",
    "numberTestErrors", "numberTestsCompleted", "numberTestsTotal"]

theorem summary_names (report : Json) : (summary report).map Prod.fst = summaryNames := rfl

theorem hasKeys_summary (report : Json) : (Json.object (summary report)).HasKeys summaryNames :=
  Json.hasKeys_object (summary_names report) (by decide)

theorem hasKeys_summary_details (report : Json) :
    (Json.object (summary report ++ [("details", failures report)])).HasKeys
      (summaryNames ++ ["details"]) :=
  Json.hasKeys_object (by rw [List.map_append, summary_names]; rfl) (by decide)

end DeployReport

namespace Deployment

/-- An answer after which no report is asked for: an error other than the client's
timeout, or the report of a job that is done. -/
def Decisive : Except Error Json → Prop
  | .error e => ¬ timeoutWording.toList <:+: e.message.toList
  | .ok report => DeployReport.Done report

inductive Verdict : Except Error Json → Except Error Json → Prop
  | refused (e : Error) : Verdict (.error e) (.error e)
  | succeeded {report : Json} (h : DeployReport.Succeeded report) :
    Verdict (.ok report) (.ok (.object (DeployReport.summary report)))
  | failed {report : Json} (h : ¬ DeployReport.Succeeded report) :
    Verdict (.ok report) (.error (Cause.deployFailed "Deployment error"
      (some (.object
        (DeployReport.summary report ++ [("details", DeployReport.failures report)])))))

/-- The answers to at most so many requests for a report, and what the wait ends
in: the verdict of the last one, or the error of a wait in vain. -/
inductive Awaited (limit : Nat) : List (Except Error Json) → Except Error Json → Prop
  | decided {undecided : List (Except Error Json)} {answer result : Except Error Json}
    (hundecided : ∀ a ∈ undecided, ¬ Decisive a) (hlimit : undecided.length < limit)
    (hdecisive : Decisive answer) (hverdict : Verdict answer result) :
    Awaited limit (undecided ++ [answer]) result
  | exhausted {undecided : List (Except Error Json)}
    (hundecided : ∀ a ∈ undecided, ¬ Decisive a) (hlimit : undecided.length = limit) :
    Awaited limit undecided (.error exhausted)

inductive Course (d : Deployment) : List (Command × Except Error Json) → Except Error Json → Prop
  | refused (e : Error) : Course d [(.deploy d, .error e)] (.error e)
  | unnamed {queued : Json} (h : ∀ job, queued.get? "id" = some (.str job) → job = "") :
    Course d [(.deploy d, .ok queued)]
      (.error (Cause.deployFailed "Queueing deployment error" (some queued)))
  | awaited {queued : Json} {job : String} {reports : List (Except Error Json)}
    {result : Except Error Json} (hid : queued.get? "id" = some (.str job)) (hjob : job ≠ "")
    (hreports : Awaited attempts reports result) :
    Course d
      ((.deploy d, .ok queued) ::
        reports.map fun answer => (.deployReport d.org job reportMinutes, answer)) result

theorem verdict_outcome (report : Json) : Verdict (.ok report) (DeployReport.outcome report) := by
  unfold DeployReport.outcome
  by_cases h : DeployReport.isSuccess report = true
  · rw [if_pos h]
    exact .succeeded ((DeployReport.isSuccess_iff report).1 h)
  · rw [if_neg h]
    exact .failed (mt (DeployReport.isSuccess_iff report).2 h)

theorem isTimeout_iff (e : Error) : isTimeout e = true ↔ ¬ Decisive (.error e) := by
  unfold isTimeout Decisive
  rw [Text.contains_iff_infix, not_not]

/-- One attempt: an answer that decides ends the wait, and any other one leaves
it to the attempts that remain. -/
theorem awaitReport_succ (platform : Command → Action Json) (org job : String) (n : Nat)
    (w : World) {answer : Except Error Json} {u : World}
    (h : platform (.deployReport org job reportMinutes) w = (answer, u)) :
    (Decisive answer → ∃ result, Verdict answer result ∧
        awaitReport platform org job (n + 1) w = (result, u)) ∧
      (¬ Decisive answer →
        awaitReport platform org job (n + 1) w = awaitReport platform org job n u) := by
  rw [awaitReport, bind_of_ok (Action.attempt_of_eq h)]
  cases answer with
  | ok report =>
    by_cases hdone : DeployReport.isDone report = true
    · have hdecisive : Decisive (.ok report) := (DeployReport.isDone_iff report).1 hdone
      simp only [if_pos hdone]
      exact ⟨fun _ => ⟨_, verdict_outcome report, rfl⟩, fun hnot => absurd hdecisive hnot⟩
    · have hundecided : ¬ Decisive (.ok report) := mt (DeployReport.isDone_iff report).2 hdone
      simp only [if_neg hdone]
      exact ⟨fun hyes => absurd hyes hundecided, fun _ => trivial⟩
  | error e =>
    by_cases htimeout : isTimeout e = true
    · simp only [if_pos htimeout]
      exact ⟨fun hyes => absurd hyes ((isTimeout_iff e).1 htimeout), fun _ => trivial⟩
    · simp only [if_neg htimeout]
      exact ⟨fun _ => ⟨_, .refused e, rfl⟩, fun hnot => absurd ((isTimeout_iff e).2 hnot) htimeout⟩

theorem Awaited.cons {limit : Nat} {answer result : Except Error Json}
    {reports : List (Except Error Json)} (ha : ¬ Decisive answer)
    (h : Awaited limit reports result) : Awaited (limit + 1) (answer :: reports) result := by
  have hfirst {undecided : List (Except Error Json)} (hu : ∀ a ∈ undecided, ¬ Decisive a) :
      ∀ a ∈ answer :: undecided, ¬ Decisive a := by
    simpa [ha] using hu
  cases h with
  | @decided undecided last _ hundecided hlimit hdecisive hverdict =>
    rw [← List.cons_append]
    exact .decided (hfirst hundecided) (Nat.succ_lt_succ hlimit) hdecisive hverdict
  | exhausted hundecided hlimit => exact .exhausted (hfirst hundecided) (congrArg (· + 1) hlimit)

theorem awaitReport_awaited (platform : Command → Action Json) (org job : String) (n : Nat)
    (w : World) :
    ∃ reports, Awaited n reports (awaitReport platform org job n w).1 ∧
      Exchanges platform
        (reports.map fun answer => (.deployReport org job reportMinutes, answer)) w
        (awaitReport platform org job n w).2 := by
  induction n generalizing w with
  | zero => exact ⟨[], .exhausted (by simp) rfl, rfl⟩
  | succ n ih =>
    rcases hanswer : platform (.deployReport org job reportMinutes) w with ⟨answer, u⟩
    obtain ⟨hends, hgoes⟩ := awaitReport_succ platform org job n w hanswer
    by_cases hdecisive : Decisive answer
    · obtain ⟨result, hverdict, hresult⟩ := hends hdecisive
      rw [hresult]
      have hone : Awaited (n + 1) ([] ++ [answer]) result :=
        .decided (by simp) (by simp) hdecisive hverdict
      exact ⟨[answer], hone, u, hanswer, rfl⟩
    · obtain ⟨reports, hawaited, hexchanges⟩ := ih u
      rw [hgoes hdecisive]
      exact ⟨answer :: reports, hawaited.cons hdecisive, u, hanswer, hexchanges⟩

theorem Awaited.length_le {limit : Nat} {reports : List (Except Error Json)}
    {result : Except Error Json} (h : Awaited limit reports result) : reports.length ≤ limit := by
  cases h with
  | decided _ hlimit _ _ =>
    rw [List.length_append, List.length_singleton]
    exact hlimit
  | exhausted _ hlimit => exact Nat.le_of_eq hlimit

theorem job?_eq_some_iff (queued : Json) (job : String) :
    job? queued = some job ↔ queued.get? "id" = some (.str job) ∧ job ≠ "" := by
  unfold job?
  cases queued.get? "id" with
  | none => simp
  | some v => cases v <;> simp [Json.asString?, Option.filter_eq_some_iff]

theorem run_of_job {platform : Command → Action Json} {d : Deployment} {w u : World}
    {queued : Json} (h : platform (.deploy d) w = (.ok queued, u)) :
    (∀ job, job? queued = some job →
        d.run platform w = awaitReport platform d.org job attempts u) ∧
      (job? queued = none →
        d.run platform w =
          (.error (Cause.deployFailed "Queueing deployment error" (some queued)), u)) := by
  unfold run
  rw [bind_of_ok h]
  cases job? queued with
  | none =>
    refine ⟨nofun, ?_⟩
    intro _
    rfl
  | some job => simp

theorem run_exchanges (platform : Command → Action Json) (d : Deployment) (w : World) :
    ∃ exchanges, Exchanges platform exchanges w (d.run platform w).2 ∧
      Course d exchanges (d.run platform w).1 := by
  rcases hqueued : platform (.deploy d) w with ⟨answer, u⟩
  cases answer with
  | error e =>
    have hrun : d.run platform w = (.error e, u) := bind_of_error hqueued _
    rw [hrun]
    exact ⟨[(.deploy d, .error e)], ⟨u, hqueued, rfl⟩, .refused e⟩
  | ok queued =>
    obtain ⟨hnamed, hunnamed⟩ := run_of_job hqueued
    cases hjob : job? queued with
    | none =>
      rw [hunnamed hjob]
      refine ⟨[(.deploy d, .ok queued)], ⟨u, hqueued, rfl⟩, .unnamed ?_⟩
      intro job hid
      by_contra hne
      rw [(job?_eq_some_iff queued job).2 ⟨hid, hne⟩] at hjob
      cases hjob
    | some job =>
      obtain ⟨hid, hne⟩ := (job?_eq_some_iff queued job).1 hjob
      obtain ⟨reports, hreports, hexchanges⟩ :=
        awaitReport_awaited platform d.org job attempts u
      rw [hnamed job hjob]
      refine ⟨(.deploy d, .ok queued) ::
        reports.map fun answer => (.deployReport d.org job reportMinutes, answer), ?_, ?_⟩
      · exact ⟨u, hqueued, hexchanges⟩
      · exact .awaited hid hne hreports

theorem Course.length_le {d : Deployment} {exchanges : List (Command × Except Error Json)}
    {result : Except Error Json} (h : Course d exchanges result) :
    exchanges.length ≤ attempts + 1 := by
  cases h with
  | refused e => simp
  | unnamed _ => simp
  | awaited _ _ hreports => simpa using hreports.length_le

/-- The value is the summary of the report that was answered last, and this report
is of a job that is done and was a success. -/
theorem Course.ok_iff {d : Deployment} {exchanges : List (Command × Except Error Json)}
    {result : Except Error Json} (h : Course d exchanges result) (value : Json) :
    result = .ok value ↔ ∃ job report,
      exchanges.getLast? = some (.deployReport d.org job reportMinutes, .ok report) ∧
        DeployReport.Done report ∧ DeployReport.Succeeded report ∧
        value = .object (DeployReport.summary report) := by
  cases h with
  | refused e => simp
  | unnamed _ => simp
  | @awaited queued job reports _ _ _ hreports =>
    cases hreports with
    | @decided undecided answer _ _ _ hdecisive hverdict =>
      have hlast : (((Command.deploy d, Except.ok queued) :: (undecided ++ [answer]).map
          fun a => (Command.deployReport d.org job reportMinutes, a)).getLast?) =
          some (.deployReport d.org job reportMinutes, answer) := by
        simp [List.getLast?_cons]
      rw [hlast]
      cases hverdict with
      | refused e => simp
      | @succeeded report hsuccess =>
        constructor
        · rintro ⟨⟩
          exact ⟨job, report, rfl, hdecisive, hsuccess, rfl⟩
        · rintro ⟨_, _, hsame, -, -, rfl⟩
          cases hsame
          rfl
      | @failed report hfailure =>
        constructor
        · rintro ⟨⟩
        · rintro ⟨_, _, hsame, -, hsuccess, -⟩
          cases hsame
          exact absurd hsuccess hfailure
    | exhausted hundecided hlimit =>
      constructor
      · rintro ⟨⟩
      · -- an answer that came last would be undecided, and no report of a job that is done is
        rintro ⟨_, report, hlast, hdone, -, -⟩
        have hmem := List.mem_of_getLast? hlast
        simp only [List.mem_cons, Prod.mk.injEq, reduceCtorEq, false_and, List.mem_map,
          false_or] at hmem
        obtain ⟨a, ha, -, rfl⟩ := hmem
        exact absurd hdone (hundecided _ ha)

/-- However the platform answers: a deployment is ordered once, its report is asked
for as the course of a deployment lays down, nothing else is asked, and its value
is the summary of a success. -/
theorem run_course (platform : Command → Action Json) (d : Deployment) (w : World) :
    ∃ exchanges, Exchanges platform exchanges w (d.run platform w).2 ∧
      Course d exchanges (d.run platform w).1 ∧ exchanges.length ≤ attempts + 1 ∧
      (∀ value, (d.run platform w).1 = .ok value ↔ ∃ job report,
        exchanges.getLast? = some (.deployReport d.org job reportMinutes, .ok report) ∧
          DeployReport.Done report ∧ DeployReport.Succeeded report ∧
          value = .object (DeployReport.summary report)) ∧
      ∀ report,
        (Json.object (DeployReport.summary report)).HasKeys DeployReport.summaryNames ∧
        (Json.object (DeployReport.summary report ++
          [("details", DeployReport.failures report)])).HasKeys
            (DeployReport.summaryNames ++ ["details"]) := by
  obtain ⟨exchanges, hexchanges, hcourse⟩ := run_exchanges platform d w
  exact ⟨exchanges, hexchanges, hcourse, hcourse.length_le, hcourse.ok_iff, fun report =>
    ⟨DeployReport.hasKeys_summary report, DeployReport.hasKeys_summary_details report⟩⟩

end Deployment
end OrgPipeline.Platform

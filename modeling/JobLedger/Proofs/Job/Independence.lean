import JobLedger.Proofs.Job.Recorded

/-!
# The history has no say in a job

What the callers of the submission layer see follows from the engine and
from their own calls. `view_independent_of_history` compares two runs in
which these are the same and everything else is not: where the jobs are
recorded, if anywhere, in which state that is, what happens to it between
the calls, and what the clock says. Both runs look alike, from the answer to
the submission to the last observation.

The proof goes through `told`, which computes the answers from the actions
of the engine and of the observers and has no store to look at.
-/

namespace JobLedger

/-! ## What is seen and what is done -/

/-- What the engine and the observers of a submitted job do. -/
inductive JobAction
  | complete (outcome : Outcome)
  | abandon
  | isComplete
  | wait (timeout : UInt64)
deriving DecidableEq

section

variable {ι σ : Type}

/-- What an event is apart from the history: the clock is read for the record
only, and the store changes for nobody else. -/
def JobEvent.action? : JobEvent σ → Option JobAction
  | complete outcome => some (.complete outcome)
  | abandon => some .abandon
  | isComplete _ => some .isComplete
  | wait timeout _ => some (.wait timeout)
  | change _ => none

variable [Backend ι σ]

/-- The answers to the observers during events, in order. -/
def JobRun.answers (r : JobRun ι σ) : List (JobEvent σ) → List JobAnswer
  | [] => []
  | e :: es => (r.answer e).toList ++ (r.step e).answers es

/-- All that callers see of a job that they submit: the refusal of the engine,
or the id of the job and the answers to its observers. -/
def callerView {ε : Type} (engine : PreparedJob → Except ε String) (context : RunContext ι)
    (job : PreparedJob) (now : UInt64) (s : σ) (events : List (JobEvent σ)) :
    Except ε (String × List JobAnswer) :=
  match Submission.submit engine context job now s with
  | (.error e, _) => .error e
  | (.ok submission, s) => .ok (submission.jobId, (JobRun.mk submission s).answers events)

end

/-! ## What observers are told -/

/-- The answers to the observers of a job of which the engine has reported
`reported` so far. -/
def told (jobId : String) (reported : Option Outcome) : List JobAction → List JobAnswer
  | [] => []
  | .complete outcome :: rest => told jobId (reported <|> some outcome) rest
  | .abandon :: rest => told jobId (reported <|> some .abandoned) rest
  | .isComplete :: rest => .completed reported.isSome :: told jobId reported rest
  | .wait timeout :: rest =>
      .waited (match reported with
        | some outcome => .ok outcome
        | none => .error (.timeout jobId timeout)) :: told jobId reported rest

section

variable {ι σ : Type} [Backend ι σ]

/-- What one event does to the two fields that answers are made from. -/
theorem outcome_step (r : JobRun ι σ) (e : JobEvent σ) :
    (r.step e).job.outcome = (r.job.outcome <|> e.report?) ∧
      (r.step e).job.jobId = r.job.jobId := by
  have hafter := outcome_after [e] r
  rw [JobEvent.firstReport_cons] at hafter
  obtain ⟨houtcome, hid⟩ := hafter
  refine ⟨?_, hid⟩
  rw [show r.step e = r.after [e] from rfl, houtcome]
  cases e.report? <;> rfl

/-- The store of a run leaves no trace in the answers. -/
theorem answers_eq_told (events : List (JobEvent σ)) (r : JobRun ι σ) :
    r.answers events = told r.job.jobId r.job.outcome (events.filterMap JobEvent.action?) := by
  induction events generalizing r with
  | nil => rfl
  | cons e es ih =>
      obtain ⟨houtcome, hid⟩ := outcome_step r e
      rw [JobRun.answers, ih (r.step e), houtcome, hid]
      cases e with
      | complete outcome => rfl
      | abandon => rfl
      | isComplete now =>
          rw [answer_isComplete]
          cases r.job.outcome <;> rfl
      | wait timeout now =>
          rw [answer_wait]
          cases r.job.outcome <;> rfl
      | change f =>
          cases r.job.outcome <;> rfl

theorem callerView_eq {ε : Type} (engine : PreparedJob → Except ε String)
    (context : RunContext ι) (job : PreparedJob) (now : UInt64) (s : σ)
    (events : List (JobEvent σ)) :
    callerView engine context job now s events =
      (engine job).map fun jobId =>
        (jobId, told jobId none (events.filterMap JobEvent.action?)) := by
  rw [callerView, Submission.submit]
  cases engine job with
  | error e => rfl
  | ok jobId =>
      have hstart : (Submission.start context job jobId now s).1.jobId = jobId ∧
          (Submission.start context job jobId now s).1.outcome = none := by
        rw [Submission.start]
        cases context.history? <;> exact ⟨rfl, rfl⟩
      simp only [answers_eq_told, hstart.1, hstart.2]
      rfl

end

/-- Two runs of a job with the same engine, in which the engine reports the
same and the observers make the same calls in the same order. Nothing that
callers see depends on the history: on its backend, on whether there is one
and whether recording is on, on the state that it lives in and on what
happens to that state at any time. -/
theorem view_independent_of_history {ε ι ι' σ σ' : Type} [Backend ι σ] [Backend ι' σ']
    (engine : PreparedJob → Except ε String) (job : PreparedJob)
    (context : RunContext ι) (context' : RunContext ι') (now now' : UInt64) (s : σ) (s' : σ')
    {events : List (JobEvent σ)} {events' : List (JobEvent σ')}
    (hactions : events.filterMap JobEvent.action? = events'.filterMap JobEvent.action?) :
    callerView engine context job now s events =
      callerView engine context' job now' s' events' := by
  rw [callerView_eq, callerView_eq, hactions]

/-- A job without a history, and the same job with a history in a directory
that is deleted before the job is over. -/
theorem idleJob_seen_alike :
    callerView (ε := Empty) (fun _ => .ok "job-1") (RunContext.new .default : RunContext Unit)
        idleJob 9 (Memory.new "memory://") [.isComplete 3, .abandon, .isComplete 4, .wait 5 6] =
      callerView (fun _ => .ok "job-1") ⟨.default, some (openedHistory (Folder.mk "/"))⟩ idleJob 1
        .withHistory [.isComplete 0,
          .change fun d => (Backend.deleteTable (Folder.mk "/") "job_history" d).2,
          .abandon, .isComplete 12, .wait 5 2] ∧
    callerView (ε := Empty) (fun _ => .ok "job-1") (RunContext.new .default : RunContext Unit)
        idleJob 9 (Memory.new "memory://") [.isComplete 3, .abandon, .isComplete 4, .wait 5 6] =
      .ok ("job-1", [.completed false, .completed true, .waited (.ok .abandoned)]) :=
  ⟨view_independent_of_history _ _ _ _ _ _ _ _ rfl, rfl⟩

end JobLedger

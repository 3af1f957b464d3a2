import JobLedger.Job.Runner
import JobLedger.Proofs.Storage.Watched

/-!
# When a submitted job is written down

A job is staged when it is submitted, and its end is written when somebody
first sees that it is over: by the first `isComplete` or `wait` behind the
first report of the engine, and never again (`attempts_after`). What is
reported to observers is that first report in every case.

Which observation it is that writes can be read off the events alone
(`firstObservation`); neither the store nor the clock has a say.
`recordedOnce` says all of this of every backend.
-/

namespace JobLedger

/-! ## Runs -/

/-- What may happen to a submitted job and around it. -/
inductive JobEvent (σ : Type)
  /-- The engine reports an outcome. -/
  | complete (outcome : Outcome)
  /-- The engine gives the job up without a report. -/
  | abandon
  | isComplete (now : UInt64)
  | wait (timeout now : UInt64)
  /-- An outage, a recovery, or a write of somebody else. -/
  | change (f : σ → σ)

/-- What an observer is told. -/
inductive JobAnswer
  | completed (b : Bool)
  | waited (r : Except JobError Outcome)

/-- A submitted job and what its history lives in. -/
structure JobRun (ι σ : Type) where
  job : Submission ι
  store : σ

namespace JobRun

variable {ι σ : Type} [Backend ι σ]

/-- A job that was just submitted. -/
def start (context : RunContext ι) (job : PreparedJob) (jobId : String) (now : UInt64) (s : σ) :
    JobRun ι σ :=
  ⟨(Submission.start context job jobId now s).1, (Submission.start context job jobId now s).2⟩

/-- The answer to an observer, if the event is an observation. -/
def answer (r : JobRun ι σ) : JobEvent σ → Option JobAnswer
  | .isComplete now => some (.completed (r.job.isComplete now r.store).1)
  | .wait timeout now => some (.waited (r.job.wait timeout now r.store).1)
  | _ => none

def step (r : JobRun ι σ) : JobEvent σ → JobRun ι σ
  | .complete outcome => { r with job := r.job.complete outcome }
  | .abandon => { r with job := r.job.complete .abandoned }
  | .isComplete now =>
      ⟨(r.job.isComplete now r.store).2.1, (r.job.isComplete now r.store).2.2⟩
  | .wait timeout now =>
      ⟨(r.job.wait timeout now r.store).2.1, (r.job.wait timeout now r.store).2.2⟩
  | .change f => { r with store := f r.store }

/-- The run after events in order. -/
def after (r : JobRun ι σ) (events : List (JobEvent σ)) : JobRun ι σ := events.foldl step r

end JobRun

/-! ## What the events say -/

namespace JobEvent

variable {σ : Type}

/-- The outcome that an event reports. -/
def report? : JobEvent σ → Option Outcome
  | complete outcome => some outcome
  | abandon => some .abandoned
  | _ => none

def lookTime? : JobEvent σ → Option UInt64
  | isComplete now | wait _ now => some now
  | _ => none

def firstReport (events : List (JobEvent σ)) : Option Outcome := events.findSome? report?

/-- The first look at a job that is over, as the outcome that it finds and
its time, when `reported` is known already. -/
def firstObservation (reported : Option Outcome) : List (JobEvent σ) → Option (Outcome × UInt64)
  | [] => none
  | e :: es =>
      match reported, e.lookTime? with
      | some outcome, some now => some (outcome, now)
      | _, _ => firstObservation (reported <|> e.report?) es

/-- The event for a run whose writes are noted. -/
def noted : JobEvent σ → JobEvent (Noted σ)
  | complete outcome => complete outcome
  | abandon => abandon
  | isComplete now => isComplete now
  | wait timeout now => wait timeout now
  | change f => change fun n => { n with state := f n.state }

theorem lookTime?_noted (e : JobEvent σ) : e.noted.lookTime? = e.lookTime? := by cases e <;> rfl

theorem report?_noted (e : JobEvent σ) : e.noted.report? = e.report? := by cases e <;> rfl

theorem report?_of_look {e : JobEvent σ} {now : UInt64} (h : e.lookTime? = some now) :
    e.report? = none := by
  cases e with
  | isComplete _ | wait _ _ => rfl
  | complete _ | abandon | change _ => exact nomatch h

theorem firstReport_cons (e : JobEvent σ) (es : List (JobEvent σ)) :
    firstReport (e :: es) = (e.report? <|> firstReport es) := by
  rw [firstReport, List.findSome?_cons]
  cases e.report? <;> rfl

theorem firstObservation_of_no_look {e : JobEvent σ} (hl : e.lookTime? = none)
    (reported : Option Outcome) (es : List (JobEvent σ)) :
    firstObservation reported (e :: es) = firstObservation (reported <|> e.report?) es := by
  cases reported <;> simp [firstObservation, hl]

theorem firstObservation_of_early_look {e : JobEvent σ} {now : UInt64}
    (hl : e.lookTime? = some now) (es : List (JobEvent σ)) :
    firstObservation none (e :: es) = firstObservation none es := by
  simp [firstObservation, report?_of_look hl]

theorem firstObservation_of_look {e : JobEvent σ} {now : UInt64} (hl : e.lookTime? = some now)
    (outcome : Outcome) (es : List (JobEvent σ)) :
    firstObservation (some outcome) (e :: es) = some (outcome, now) := by
  simp [firstObservation, hl]

/-- The first look finds the first report. -/
theorem firstReport_of_firstObservation {reported : Option Outcome} {events : List (JobEvent σ)}
    {outcome : Outcome} {now : UInt64}
    (h : firstObservation reported events = some (outcome, now)) :
    (reported <|> firstReport events) = some outcome := by
  induction events generalizing reported with
  | nil => exact nomatch h
  | cons e es ih =>
      rw [firstReport_cons]
      cases hl : e.lookTime? with
      | none =>
          rw [firstObservation_of_no_look hl] at h
          rw [← ih h]
          cases reported <;> rfl
      | some now' =>
          rw [report?_of_look hl]
          cases reported with
          | none => exact ih (firstObservation_of_early_look hl es ▸ h)
          | some o =>
              rw [firstObservation_of_look hl] at h
              cases h
              rfl

end JobEvent

/-! ## The writes of a job -/

section Attempts

variable {ι σ : Type} [Backend ι σ]

/-- The write that stages a job. -/
def stageWrite (h : HistoryStore ι) (job : PreparedJob) (jobId : String) (now : UInt64) :
    StoreWrite :=
  .put h.table jobId (RecordRow.startCells jobId job.name now job.conf.toText)

/-- The write that finalizes a job of the given start time. -/
def finalizeWrite (h : HistoryStore ι) (jobId : String) (startTime : UInt64)
    (seen : Outcome × UInt64) : StoreWrite :=
  .put h.table jobId
    (RecordRow.endCells jobId (max seen.2 startTime) seen.1.status seen.1.counters)

/-- What an observer does to a run whose writes are noted. -/
theorem observe_watched {j : Submission (Watched ι)} {h : HistoryStore ι}
    (hh : j.history = some h.watched) (outcome : Outcome) (now : UInt64) (n : Noted σ) :
    j.observe outcome now n =
      if j.recorded then (j, n)
      else ({ j with recorded := true },
        ⟨(h.finalize j.jobId (max now j.startTime) outcome.status outcome.counters n.state).2,
          n.attempts ++ [⟨finalizeWrite h j.jobId j.startTime (outcome, now),
            (Backend.putRow h.inst h.table j.jobId (RecordRow.endCells j.jobId
              (max now j.startTime) outcome.status outcome.counters) n.state).1⟩]⟩) := by
  rw [Submission.observe, hh]
  simp only [HistoryStore.finalize, HistoryStore.write_watched]
  rfl

/-- A look at a job that is over. -/
theorem step_of_look {r : JobRun ι σ} {e : JobEvent σ} {outcome : Outcome} {now : UInt64}
    (hl : e.lookTime? = some now) (ho : r.job.outcome = some outcome) :
    r.step e = ⟨(r.job.observe outcome now r.store).1, (r.job.observe outcome now r.store).2⟩ := by
  cases e with
  | isComplete now' | wait timeout now' =>
      obtain rfl : now' = now := Option.some.inj hl
      simp only [JobRun.step, Submission.isComplete, Submission.wait, ho]
  | complete _ | abandon | change _ => exact nomatch hl

/-- A look at a job that is not over. -/
theorem step_of_early_look {r : JobRun ι σ} {e : JobEvent σ} {now : UInt64}
    (hl : e.lookTime? = some now) (ho : r.job.outcome = none) : r.step e = r := by
  cases e with
  | isComplete now' | wait timeout now' =>
      simp only [JobRun.step, Submission.isComplete, Submission.wait, ho]
  | complete _ | abandon | change _ => exact nomatch hl

/-- What is no look only tells the job what was reported. -/
theorem job_step_of_no_look {r : JobRun ι σ} {e : JobEvent σ} (hl : e.lookTime? = none) :
    (r.step e).job = { r.job with outcome := r.job.outcome <|> e.report? } := by
  cases e with
  | complete outcome => rfl
  | abandon => rfl
  | change f => cases ho : r.job.outcome <;> simp [JobRun.step, JobEvent.report?, ← ho]
  | isComplete _ | wait _ _ => exact nomatch hl

theorem attempts_step_of_no_look {r : JobRun (Watched ι) (Noted σ)} {e : JobEvent σ}
    (hl : e.lookTime? = none) : (r.step e.noted).store.attempts = r.store.attempts := by
  cases e with
  | complete _ | abandon | change _ => rfl
  | isComplete _ | wait _ _ => exact nomatch hl

/-- The writes of a job after events: unless its end was written before, it
is written by the first observation. -/
theorem attempts_after {h : HistoryStore ι} (events : List (JobEvent σ))
    {r : JobRun (Watched ι) (Noted σ)} (hh : r.job.history = some h.watched) :
    (r.after (events.map .noted)).store.attempts.map (·.write) =
      r.store.attempts.map (·.write) ++
        if r.job.recorded then []
        else ((JobEvent.firstObservation r.job.outcome events).map
          (finalizeWrite h r.job.jobId r.job.startTime)).toList := by
  induction events generalizing r with
  | nil => cases hr : r.job.recorded <;> simp [JobRun.after, JobEvent.firstObservation]
  | cons e es ih =>
      have hcons : r.after ((e :: es).map .noted) = (r.step e.noted).after (es.map .noted) := rfl
      rw [hcons]
      cases hl : e.lookTime? with
      | none =>
          have hjob := job_step_of_no_look (r := r) (e := e.noted) (e.lookTime?_noted ▸ hl)
          rw [ih (by rw [hjob]; exact hh), hjob, attempts_step_of_no_look hl, e.report?_noted,
            JobEvent.firstObservation_of_no_look hl]
      | some now =>
          have hl' : e.noted.lookTime? = some now := e.lookTime?_noted ▸ hl
          cases ho : r.job.outcome with
          | none =>
              rw [step_of_early_look hl' ho, ih hh, ho, JobEvent.firstObservation_of_early_look hl]
          | some outcome =>
              rw [step_of_look hl' ho, observe_watched hh]
              cases hr : r.job.recorded with
              | true =>
                  rw [if_pos rfl]
                  simpa [hr] using ih hh
              | false =>
                  rw [if_neg (by simp), JobEvent.firstObservation_of_look hl]
                  refine (ih (r := ⟨{ r.job with recorded := true }, ⟨_, _⟩⟩) hh).trans ?_
                  simp

end Attempts

section Answers

variable {ι σ : Type} [Backend ι σ]

theorem job_observe (j : Submission ι) (outcome : Outcome) (now : UInt64) (s : σ) :
    (j.observe outcome now s).1 = { j with recorded := true } := by
  rw [Submission.observe]
  cases hr : j.recorded with
  | true => rw [if_pos rfl, ← hr]
  | false => rw [if_neg (by simp)]; cases j.history <;> rfl

/-- The outcome of a job is the first report, and its id stays. -/
theorem outcome_after (events : List (JobEvent σ)) (r : JobRun ι σ) :
    (r.after events).job.outcome = (r.job.outcome <|> JobEvent.firstReport events) ∧
      (r.after events).job.jobId = r.job.jobId := by
  induction events generalizing r with
  | nil => cases ho : r.job.outcome <;> simp [JobRun.after, JobEvent.firstReport, ho]
  | cons e es ih =>
      obtain ⟨houtcome, hid⟩ := ih (r.step e)
      have hcons : r.after (e :: es) = (r.step e).after es := rfl
      rw [hcons, houtcome, hid, JobEvent.firstReport_cons]
      cases hl : e.lookTime? with
      | none =>
          rw [job_step_of_no_look hl]
          cases r.job.outcome <;> exact ⟨rfl, rfl⟩
      | some now =>
          rw [JobEvent.report?_of_look hl]
          cases ho : r.job.outcome with
          | none => rw [step_of_early_look hl ho, ho]; exact ⟨rfl, rfl⟩
          | some outcome => rw [step_of_look hl ho, job_observe, ho]; exact ⟨rfl, rfl⟩

theorem answer_isComplete (r : JobRun ι σ) (now : UInt64) :
    r.answer (.isComplete now) = some (.completed r.job.outcome.isSome) := by
  rw [JobRun.answer, Submission.isComplete]
  cases r.job.outcome <;> rfl

theorem answer_wait (r : JobRun ι σ) (timeout now : UInt64) :
    r.answer (.wait timeout now) = some (.waited (match r.job.outcome with
      | some outcome => .ok outcome
      | none => .error (.timeout r.job.jobId timeout))) := by
  rw [JobRun.answer, Submission.wait]
  cases r.job.outcome <;> rfl

/-! ## Noting changes nothing -/

/-- The same job, with the writes to its history noted. -/
def Submission.watched (j : Submission ι) : Submission (Watched ι) :=
  ⟨j.jobId, j.outcome, j.history.map HistoryStore.watched, j.startTime, j.recorded⟩

/-- A run and the same run with its writes noted. -/
structure SameRun (r : JobRun (Watched ι) (Noted σ)) (r' : JobRun ι σ) : Prop where
  job : r.job = r'.job.watched
  store : r.store.state = r'.store

theorem sameRun_start (context : RunContext ι) (job : PreparedJob) (jobId : String) (now : UInt64)
    (s : σ) :
    SameRun (.start context.watched job jobId now ⟨s, []⟩) (.start context job jobId now s) := by
  constructor <;> rw [JobRun.start, JobRun.start, Submission.start, Submission.start,
    RunContext.history?_watched] <;> cases context.history? <;> rfl

theorem SameRun.observe {r : JobRun (Watched ι) (Noted σ)} {r' : JobRun ι σ} (h : SameRun r r')
    (outcome : Outcome) (now : UInt64) :
    SameRun ⟨(r.job.observe outcome now r.store).1, (r.job.observe outcome now r.store).2⟩
      ⟨(r'.job.observe outcome now r'.store).1, (r'.job.observe outcome now r'.store).2⟩ := by
  obtain ⟨job, store⟩ := r
  obtain ⟨job', store'⟩ := r'
  obtain ⟨hjob, hstore⟩ := h
  simp only at hjob hstore
  subst hjob hstore
  constructor
  · rw [job_observe, job_observe]
    rfl
  · rw [Submission.observe, Submission.observe]
    cases hr : job'.recorded <;> cases hh : job'.history
    all_goals
      simp [Submission.watched, hr, hh]
    rfl

theorem SameRun.step {r : JobRun (Watched ι) (Noted σ)} {r' : JobRun ι σ} (h : SameRun r r')
    (e : JobEvent σ) : SameRun (r.step e.noted) (r'.step e) := by
  have hjob := h.job
  have houtcome : r.job.outcome = r'.job.outcome := by rw [hjob]; rfl
  cases hl : e.lookTime? with
  | some now =>
      have hl' : e.noted.lookTime? = some now := e.lookTime?_noted ▸ hl
      cases ho : r'.job.outcome with
      | none => rwa [step_of_early_look hl ho, step_of_early_look hl' (houtcome.trans ho)]
      | some outcome =>
          rw [step_of_look hl ho, step_of_look hl' (houtcome.trans ho)]
          exact h.observe outcome now
  | none =>
      refine ⟨?_, ?_⟩
      · rw [job_step_of_no_look hl, job_step_of_no_look (e.lookTime?_noted ▸ hl), e.report?_noted,
          hjob]
        rfl
      · cases e with
        | complete _ | abandon => exact h.store
        | change f => exact congrArg f h.store
        | isComplete _ | wait _ _ => exact nomatch hl

theorem SameRun.after {r : JobRun (Watched ι) (Noted σ)} {r' : JobRun ι σ} (h : SameRun r r')
    (events : List (JobEvent σ)) : SameRun (r.after (events.map .noted)) (r'.after events) := by
  induction events generalizing r r' with
  | nil => exact h
  | cons e es ih => exact ih (h.step e)

end Answers

/-! ## Recorded once -/

theorem start_watched {ι σ : Type} [Backend ι σ] {context : RunContext ι} {h : HistoryStore ι}
    (hh : context.history? = some h) (job : PreparedJob) (jobId : String) (now : UInt64) (s : σ) :
    JobRun.start context.watched job jobId now ⟨s, []⟩ =
      ⟨⟨jobId, none, some h.watched, now, false⟩,
        ⟨(h.stage jobId job.name now job.conf.toText s).2,
          [⟨stageWrite h job jobId now, (Backend.putRow h.inst h.table jobId
            (RecordRow.startCells jobId job.name now job.conf.toText) s).1⟩]⟩⟩ := by
  have hh' : context.watched.history? = some h.watched := by
    rw [RunContext.history?_watched, hh]
    rfl
  simp only [JobRun.start, Submission.start, hh', HistoryStore.stage, HistoryStore.write_watched]
  rfl

/-- What holds of a submitted job after any events, with any store: it is
staged once, its end is written once, by the first observation that finds
it over, and every observer is told the first report. -/
structure RecordedOnce {ι σ : Type} [Backend ι σ] (context : RunContext ι) (h : HistoryStore ι)
    (job : PreparedJob) (jobId : String) (now : UInt64) (s : σ) (events : List (JobEvent σ)) :
    Prop where
  /-- Noting the writes changes nothing. -/
  same : SameRun ((JobRun.start context.watched job jobId now ⟨s, []⟩).after (events.map .noted))
    ((JobRun.start context job jobId now s).after events)
  attempts : ((JobRun.start context.watched job jobId now ⟨s, []⟩).after
      (events.map .noted)).store.attempts.map (·.write) =
    stageWrite h job jobId now ::
      ((JobEvent.firstObservation none events).map (finalizeWrite h jobId now)).toList
  observed : ∀ outcome t, JobEvent.firstObservation none events = some (outcome, t) →
    JobEvent.firstReport events = some outcome
  isComplete : ∀ t, ((JobRun.start context job jobId now s).after events).answer (.isComplete t) =
    some (.completed (JobEvent.firstReport events).isSome)
  wait : ∀ timeout t,
    ((JobRun.start context job jobId now s).after events).answer (.wait timeout t) =
      some (.waited (match JobEvent.firstReport events with
        | some outcome => .ok outcome
        | none => .error (.timeout jobId timeout)))
  /-- What was reported first stays so. -/
  final : ∀ outcome more, JobEvent.firstReport events = some outcome →
    JobEvent.firstReport (events ++ more) = some outcome

theorem recordedOnce {ι σ : Type} [Backend ι σ] {context : RunContext ι} {h : HistoryStore ι}
    (hh : context.history? = some h) (job : PreparedJob) (jobId : String) (now : UInt64) (s : σ)
    (events : List (JobEvent σ)) : RecordedOnce context h job jobId now s events := by
  have hstart : (JobRun.start context job jobId now s).job.outcome = none ∧
      (JobRun.start context job jobId now s).job.jobId = jobId := by
    simp only [JobRun.start, Submission.start, hh, and_self]
  obtain ⟨houtcome, hid⟩ := outcome_after events (JobRun.start context job jobId now s)
  rw [hstart.1] at houtcome
  rw [hstart.2] at hid
  refine ⟨(sameRun_start context job jobId now s).after events, ?_, fun outcome t hseen => ?_,
    fun t => ?_, fun timeout t => ?_, fun outcome more hreport => ?_⟩
  · rw [start_watched hh, attempts_after events (h := h) rfl]
    rfl
  · exact JobEvent.firstReport_of_firstObservation hseen
  · rw [answer_isComplete, houtcome]
    rfl
  · rw [answer_wait, houtcome, hid]
    rfl
  · rw [JobEvent.firstReport] at hreport ⊢
    rw [List.findSome?_append, hreport]
    rfl

end JobLedger

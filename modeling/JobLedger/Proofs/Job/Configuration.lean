import JobLedger.Job.Definition
import JobLedger.Proofs.Dict

/-!
# What the recorded settings say

The settings of a prepared job are those of its definition with the entries of
the submission written over them, one after another. Entries have different
keys, so each of them is found under its key (`JobConf.get?_setAll_of_mem`) and
nothing has changed under any other key (`JobConf.get?_setAll_of_not_mem`).

There is an entry for the input descriptor only if the job has one. A job
without one keeps what its definition says under that key, so its settings are
truthful exactly if the definition says nothing there
(`prepared_conf_truthful_iff`).
-/

namespace JobLedger

/-! ## Entries written one after another -/

namespace JobConf

theorem get?_set (c : JobConf) (key key' value : String) :
    (c.set key value).get? key' = if key = key' then some value else c.get? key' :=
  Dict.get?_insert ..

def setAll (c : JobConf) (entries : List (String × String)) : JobConf :=
  entries.foldl (fun c e => c.set e.1 e.2) c

theorem setAll_cons (c : JobConf) (e : String × String) (entries : List (String × String)) :
    c.setAll (e :: entries) = (c.set e.1 e.2).setAll entries := rfl

variable {c : JobConf} {entries : List (String × String)}

theorem get?_setAll_of_not_mem {key : String} (h : key ∉ entries.map Prod.fst) :
    (c.setAll entries).get? key = c.get? key := by
  induction entries generalizing c with
  | nil => rfl
  | cons e entries ih =>
      obtain ⟨hfirst, hrest⟩ := not_or.mp fun hmem => h (List.mem_cons.mpr hmem)
      rw [setAll_cons, ih hrest, get?_set, if_neg (Ne.symm hfirst)]

theorem get?_setAll_of_mem (hkeys : (entries.map Prod.fst).Nodup) {key value : String}
    (h : (key, value) ∈ entries) : (c.setAll entries).get? key = some value := by
  induction entries generalizing c with
  | nil => exact absurd h List.not_mem_nil
  | cons e entries ih =>
      obtain ⟨hfirst, hrest⟩ := List.nodup_cons.mp hkeys
      rw [setAll_cons]
      rcases List.mem_cons.mp h with rfl | h
      · rw [get?_setAll_of_not_mem hfirst, get?_set, if_pos rfl]
      · exact ih hrest h

/-- The keys that belong to the submission. -/
def reservedKeys : List String :=
  [jobNameKey, producerKey, outputSpecKey, versionKey, inputSpecKey]

end JobConf

/-! ## Prepared jobs -/

namespace PreparedJob

/-- The entries that a submission writes over the settings of a definition. -/
def ownEntries (job : PreparedJob) : List (String × String) :=
  [(JobConf.jobNameKey, job.name), (JobConf.producerKey, job.producer.name),
    (JobConf.outputSpecKey, job.output.render), (JobConf.versionKey, JobConf.version)] ++
    (job.inputSpec.map fun s => (JobConf.inputSpecKey, s.render)).toList

/-- The input descriptor has an entry only if there is one. -/
theorem keys_ownEntries (job : PreparedJob) :
    job.ownEntries.map Prod.fst =
      [JobConf.jobNameKey, JobConf.producerKey, JobConf.outputSpecKey, JobConf.versionKey] ++
        if job.inputSpec.isSome then [JobConf.inputSpecKey] else [] := by
  unfold ownEntries
  cases job.inputSpec <;> rfl

theorem nodup_keys_ownEntries (job : PreparedJob) : (job.ownEntries.map Prod.fst).Nodup := by
  rw [keys_ownEntries]
  cases job.inputSpec.isSome <;> decide

theorem keys_ownEntries_subset (job : PreparedJob) :
    job.ownEntries.map Prod.fst ⊆ JobConf.reservedKeys := by
  rw [keys_ownEntries]
  cases job.inputSpec.isSome <;> decide

/-- The settings of a job say what the job is, and otherwise what its
definition says. -/
structure Truthful (job : PreparedJob) (settings : Dict String String) : Prop where
  jobName : job.conf.get? JobConf.jobNameKey = some job.name
  producer : job.conf.get? JobConf.producerKey = some job.producer.name
  outputSpec : job.conf.get? JobConf.outputSpecKey = some job.output.render
  version : job.conf.get? JobConf.versionKey = some JobConf.version
  inputSpec : job.conf.get? JobConf.inputSpecKey = job.inputSpec.map InputSpec.render
  others : ∀ key, key ∉ JobConf.reservedKeys → job.conf.get? key = settings.get? key

end PreparedJob

namespace JobDefinition

variable {j : JobDefinition} {registry : Registry} {job : PreparedJob}

theorem recordedConf_eq (conf : Dict String String) (job : PreparedJob) :
    recordedConf conf job.name job.producer.name job.output job.inputSpec =
      (JobConf.mk conf).setAll job.ownEntries := by
  unfold recordedConf PreparedJob.ownEntries
  cases job.inputSpec <;> rfl

/-- What a definition has to be like to be prepared, and what is made of it. -/
theorem prepare_eq_ok_iff :
    j.prepare registry = .ok job ↔ trim j.producer ≠ "" ∧ trim j.output ≠ "" ∧
      OutputSpec.parse j.output = .ok job.output ∧
      parseInputSpec j.inputSpec = .ok job.inputSpec ∧
      registry.get j.producer = .ok job.producer ∧
      job.name = (if trim j.name = "" then s!"mrkit-{j.producer}" else j.name) ∧
      job.input = j.input ∧
      job.conf = recordedConf j.conf job.name job.producer.name job.output job.inputSpec := by
  rw [prepare]
  by_cases hproducer : trim j.producer = ""
  · simp [hproducer]
  by_cases houtput : trim j.output = ""
  · simp [hproducer, houtput]
  rw [if_neg hproducer, if_neg houtput]
  simp only [ne_eq, hproducer, houtput, not_false_eq_true, true_and]
  cases hparse : OutputSpec.parse j.output with
  | error e => simp
  | ok output =>
      cases hinput : parseInputSpec j.inputSpec with
      | error e => simp [bind, Except.bind]
      | ok inputSpec =>
          cases hget : registry.get j.producer with
          | error e => simp [bind, Except.bind]
          | ok producer =>
              simp only [bind, Except.bind, pure, Except.pure, Except.ok.injEq]
              constructor
              · rintro rfl
                exact ⟨rfl, rfl, rfl, rfl, rfl, rfl⟩
              · obtain ⟨name, producer', input, inputSpec', output', conf⟩ := job
                rintro ⟨rfl, rfl, rfl, rfl, rfl, hconf⟩
                exact congrArg (PreparedJob.mk _ _ _ _ _) hconf.symm

/-- What is found under each key of a prepared job's settings. -/
theorem conf_of_prepare (h : j.prepare registry = .ok job) :
    (∀ e ∈ job.ownEntries, job.conf.get? e.1 = some e.2) ∧
      ∀ key, key ∉ job.ownEntries.map Prod.fst → job.conf.get? key = j.conf.get? key := by
  obtain ⟨-, -, -, -, -, -, -, hconf⟩ := prepare_eq_ok_iff.mp h
  rw [hconf, recordedConf_eq]
  exact ⟨fun e he => JobConf.get?_setAll_of_mem job.nodup_keys_ownEntries he,
    fun key hkey => JobConf.get?_setAll_of_not_mem hkey⟩

/-- The settings recorded with a prepared job, for every definition and every
registry. Name, producer, output and version are the job's own, whatever the
definition's settings say, and so is the input descriptor of a job that has one.
A key that is not reserved is as the definition has it. A job without an input
descriptor keeps what the definition says under that key too, so its settings
are truthful exactly if the definition says nothing there. -/
theorem prepared_conf_truthful_iff (h : j.prepare registry = .ok job) :
    (job.conf.get? JobConf.jobNameKey = some job.name ∧
      job.conf.get? JobConf.producerKey = some job.producer.name ∧
      job.conf.get? JobConf.outputSpecKey = some job.output.render ∧
      job.conf.get? JobConf.versionKey = some JobConf.version ∧
      (∀ key, key ∉ JobConf.reservedKeys → job.conf.get? key = j.conf.get? key)) ∧
    job.conf.get? JobConf.inputSpecKey =
      (job.inputSpec.map InputSpec.render).or (j.conf.get? JobConf.inputSpecKey) ∧
    (job.Truthful j.conf ↔
      job.inputSpec.isSome = true ∨ j.conf.get? JobConf.inputSpecKey = none) := by
  obtain ⟨hown, hothers⟩ := conf_of_prepare h
  have hname := hown (JobConf.jobNameKey, job.name) (by simp [PreparedJob.ownEntries])
  have hproducer := hown (JobConf.producerKey, job.producer.name)
    (by simp [PreparedJob.ownEntries])
  have houtput := hown (JobConf.outputSpecKey, job.output.render)
    (by simp [PreparedJob.ownEntries])
  have hversion := hown (JobConf.versionKey, JobConf.version) (by simp [PreparedJob.ownEntries])
  have hrest : ∀ key, key ∉ JobConf.reservedKeys → job.conf.get? key = j.conf.get? key :=
    fun key hkey => hothers key fun hmem => hkey (job.keys_ownEntries_subset hmem)
  have hinput : job.conf.get? JobConf.inputSpecKey =
      (job.inputSpec.map InputSpec.render).or (j.conf.get? JobConf.inputSpecKey) := by
    cases hspec : job.inputSpec with
    | some s =>
        exact hown (JobConf.inputSpecKey, s.render) (by simp [PreparedJob.ownEntries, hspec])
    | none =>
        refine hothers _ ?_
        rw [job.keys_ownEntries, hspec]
        decide
  refine ⟨⟨hname, hproducer, houtput, hversion, hrest⟩, hinput, ?_⟩
  constructor
  · intro htruthful
    have hsays := hinput.symm.trans htruthful.inputSpec
    cases hspec : job.inputSpec with
    | some s => exact .inl rfl
    | none =>
        rw [hspec] at hsays
        exact .inr hsays
  · intro hsilent
    refine ⟨hname, hproducer, houtput, hversion, hinput.trans ?_, hrest⟩
    cases hspec : job.inputSpec with
    | some s => rfl
    | none =>
        rw [hspec] at hsilent
        exact hsilent.resolve_left (by simp)

/-- A definition without an input descriptor and one with it, which set the key
of the input descriptor and one of their own. -/
def claiming (inputSpec : Option String) : JobDefinition where
  name := ""
  producer := "uppercase"
  input := []
  inputSpec
  output := "seq:out@1"
  conf := .ofList [("mrkit.input.spec", "text:mine"), ("mrkit.producer", "mine"), ("own", "1")]

/-- With an input descriptor, the settings of the job are truthful. -/
theorem claiming_input_truthful :
    ∃ job, (claiming (some "text:a,b")).prepare .builtin = .ok job ∧
      job.conf.get? JobConf.producerKey = some "uppercase" ∧
      job.conf.get? JobConf.inputSpecKey = some "text:a,b" ∧
      job.conf.get? "own" = some "1" ∧ job.Truthful (claiming (some "text:a,b")).conf := by
  have hmade : ((claiming (some "text:a,b")).prepare .builtin).map (fun job =>
      (job.producer.name, job.inputSpec.map InputSpec.render)) =
        .ok ("uppercase", some "text:a,b") := by decide +kernel
  cases hprepare : (claiming (some "text:a,b")).prepare .builtin with
  | error e =>
      rw [hprepare] at hmade
      cases hmade
  | ok job =>
      rw [hprepare, Except.map, Except.ok.injEq, Prod.mk.injEq] at hmade
      obtain ⟨⟨-, hproducer, -, -, hothers⟩, hinput, htruthful⟩ :=
        prepared_conf_truthful_iff hprepare
      rw [hmade.1] at hproducer
      rw [hmade.2] at hinput
      refine ⟨job, rfl, hproducer, hinput, ?_, htruthful.mpr (.inl ?_)⟩
      · exact (hothers "own" (by decide)).trans (by decide +kernel)
      · rw [← Option.isSome_map (f := InputSpec.render), hmade.2]
        rfl

/-- A job without an input descriptor is recorded with the one that its
definition's settings make up. -/
theorem claimed_input_recorded :
    ((claiming none).prepare .builtin).map (fun job =>
      (job.inputSpec.map InputSpec.render, job.conf.get? JobConf.inputSpecKey,
        job.conf.get? JobConf.producerKey)) = .ok (none, some "text:mine", some "uppercase") := by
  decide +kernel

end JobDefinition

end JobLedger

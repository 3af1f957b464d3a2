import JobLedger.Job.Runner
import JobLedger.Proofs.Disk.Made
import JobLedger.Proofs.Job.PartFiles
import JobLedger.Proofs.Job.Submission
import JobLedger.Proofs.Storage.OwnAddress

/-!
# The history switched off

A job without a history takes no part in the store, however often somebody looks
at it (`store_after_looks`). What it leaves on the disk is its own output, and that
is known to stay away from a path by where the addresses of the output lead
(`PreparedJob.Avoids.node?_run`).

With recording switched off, a context has no history. The store that the
configuration names is opened all the same, before the switch is looked at, and opening a
directory makes it where it is missing. So `disabled_history_leaves_storage` has this
one exception: no file is made, changed or removed, and no directory is removed,
but the directories of the store's address are made. The store is as it was
exactly if its root was there.
-/

namespace JobLedger

/-! ## Runs without a history -/

section

variable {ι σ : Type} [Backend ι σ]

theorem observe_of_no_history {j : Submission ι} (h : j.history = none) (outcome : Outcome)
    (now : UInt64) (s : σ) : j.observe outcome now s = ({ j with recorded := true }, s) := by
  refine Prod.ext (job_observe j outcome now s) ?_
  rw [Submission.observe, h]
  split <;> rfl

/-- Looking at a job without a history leaves the store, and the job gets no history. -/
theorem look_of_no_history {r : JobRun ι σ} (h : r.job.history = none) {e : JobEvent σ}
    (hlook : e.lookTime?.isSome) :
    (r.step e).job.history = none ∧ (r.step e).store = r.store := by
  obtain ⟨now, hl⟩ := Option.isSome_iff_exists.mp hlook
  cases ho : r.job.outcome with
  | none => rw [step_of_early_look hl ho]; exact ⟨h, rfl⟩
  | some outcome => rw [step_of_look hl ho, observe_of_no_history h]; exact ⟨h, rfl⟩

theorem store_after_looks {r : JobRun ι σ} (h : r.job.history = none) {events : List (JobEvent σ)}
    (hlooks : ∀ e ∈ events, e.lookTime?.isSome) : (r.after events).store = r.store := by
  induction events generalizing r with
  | nil => rfl
  | cons e es ih =>
      obtain ⟨hlook, hrest⟩ := List.forall_mem_cons.mp hlooks
      obtain ⟨hhistory, hstore⟩ := look_of_no_history h hlook
      exact (ih hhistory hrest).trans hstore

end

/-! ## Opening the store -/

/-- The root directory that an address names, if it is the address of a directory. -/
def rootOf? (address : String) : Option String :=
  let uri := trim address
  match uriScheme? uri with
  | some "file" => (FileUrl.path? uri).toOption
  | some _ => none
  | none => if uri = "" then none else some uri

namespace Site

variable {address : String}

theorem openInstance_of_root {root : String} (h : rootOf? address = some root) (s : Site) :
    s.openInstance address = s.openFolder root := by
  rw [rootOf?] at h
  rw [openInstance]
  split at h
  · next hscheme =>
    rw [hscheme]
    simp only
    cases hpath : FileUrl.path? (trim address) with
    | error fault => rw [hpath] at h; cases h
    | ok root' => rw [hpath] at h; cases h; rfl
  · cases h
  · next hscheme =>
    rw [hscheme]
    simp only
    split at h
    · cases h
    · next hne => rw [if_neg hne, Option.some.inj h]

theorem openInstance_of_no_root (h : rootOf? address = none) (s : Site) :
    (s.openInstance address).2 = s ∨
      (s.openInstance address).2 = { s with memories := s.memories ++ [.new (trim address)] } := by
  rw [rootOf?] at h
  rw [openInstance]
  split at h
  · next hscheme =>
    rw [hscheme]
    simp only
    cases hpath : FileUrl.path? (trim address) with
    | error fault => exact .inl rfl
    | ok root => rw [hpath] at h; cases h
  · next scheme hfile hscheme =>
    rw [hscheme]
    split
    · exact .inr rfl
    · next hfile' => exact absurd (Option.some.inj hfile') hfile
    · exact .inl rfl
    · next hnone => cases hnone
  · next hscheme =>
    rw [hscheme]
    simp only
    split at h
    · next hempty => exact .inl (by rw [if_pos hempty])
    · cases h

theorem disk_openFolder (root : String) (s : Site) :
    (s.openFolder root).2 = { s with disk := (s.disk.ensureDir root).2 } := by
  rw [openFolder, Folder.openAt]
  cases hmade : s.disk.ensureDir root with
  | mk r d => cases r <;> rfl

end Site

/-- The root directory of the store that a configuration names. -/
def HistoryConfig.storeRoot? (config : HistoryConfig) : Option String :=
  config.storeUri.bind rootOf?

/-- The directories that are made when that store is opened, where they are missing. -/
def HistoryConfig.storeDirs (config : HistoryConfig) : List String :=
  match config.storeRoot? with
  | some root => root :: Disk.ancestors root
  | none => []

namespace RunContext

variable {config : HistoryConfig}

theorem ofConfig_of_disabled (hoff : config.enabled = false) (s : Site) :
    (ofConfig config s).1 = new config := by
  rw [ofConfig]
  split
  · rfl
  · split
    · rw [connect, hoff]; rfl
    · rfl

/-- Looking for the table changes nothing, so the site is the one in which the
store was opened. -/
theorem site_ofConfig (config : HistoryConfig) (s : Site) :
    (ofConfig config s).2 = match config.storeUri with
      | none => s
      | some uri => (s.openInstance uri).2 := by
  rw [ofConfig]
  cases config.storeUri with
  | none => rfl
  | some uri =>
      simp only
      cases s.openInstance uri with
      | mk r s' => cases r <;> rfl

theorem site_ofConfig_of_root {root : String} (h : config.storeRoot? = some root) (s : Site) :
    (ofConfig config s).2 = { s with disk := (s.disk.ensureDir root).2 } := by
  obtain ⟨uri, huri, hroot⟩ := Option.bind_eq_some_iff.mp h
  rw [site_ofConfig, huri]
  simp only
  rw [Site.openInstance_of_root hroot, Site.disk_openFolder]

theorem site_ofConfig_of_no_root (h : config.storeRoot? = none) (s : Site) :
    (ofConfig config s).2 = s ∨
      ∃ uri, (ofConfig config s).2 = { s with memories := s.memories ++ [.new (trim uri)] } := by
  rw [site_ofConfig]
  cases huri : config.storeUri with
  | none => exact .inl rfl
  | some uri =>
      rw [HistoryConfig.storeRoot?, huri, Option.bind_some] at h
      simp only
      rcases Site.openInstance_of_no_root h s with hsame | hnew
      · exact .inl hsame
      · exact .inr ⟨uri, hnew⟩

/-- Opening the store makes nothing but directories of its address. -/
theorem made_ofConfig (config : HistoryConfig) (s : Site) :
    Disk.MadeAt config.storeDirs s.disk (ofConfig config s).2.disk := by
  unfold HistoryConfig.storeDirs
  cases hroot : config.storeRoot? with
  | some root =>
      rw [site_ofConfig_of_root hroot]
      exact Disk.ensureDir_made root s.disk
  | none =>
      rcases site_ofConfig_of_no_root hroot s with hsame | ⟨uri, hnew⟩
      · rw [hsame]
        exact Disk.MadeAt.refl _ _
      · rw [hnew]
        exact Disk.MadeAt.refl _ _

/-- It opens a memory instance of its own, if any. -/
theorem memories_ofConfig (config : HistoryConfig) (s : Site) :
    ∃ new, (ofConfig config s).2.memories = s.memories ++ new ∧ ∀ m ∈ new, ∃ uri, m = .new uri := by
  cases hroot : config.storeRoot? with
  | some root =>
      rw [site_ofConfig_of_root hroot]
      exact ⟨[], (List.append_nil _).symm, by simp⟩
  | none =>
      rcases site_ofConfig_of_no_root hroot s with hsame | ⟨uri, hnew⟩
      · rw [hsame]
        exact ⟨[], (List.append_nil _).symm, by simp⟩
      · rw [hnew]
        exact ⟨_, rfl, by simp⟩

theorem site_ofConfig_of_isDir {root : String} (h : config.storeRoot? = some root) {s : Site}
    (hdir : s.disk.isDir root = true) : (ofConfig config s).2 = s := by
  rw [site_ofConfig_of_root h, Disk.ensureDir_of_isDir hdir]

/-- At the root of a store that can be opened and below it, there is something new exactly if
the root is: the other directories that are made are above it. -/
theorem below_root_iff {root : String} (h : config.storeRoot? = some root) {s : Site}
    (hok : (s.disk.ensureDir root).1 = .ok ()) (hup : ".." ∉ Disk.components root) {p : Path}
    (hp : (ofConfig config s).2.disk.locate root = .ok p) :
    (∀ q, p <+: q → (ofConfig config s).2.disk.node? q = s.disk.node? q) ↔
      s.disk.node? p = some .dir := by
  have hmade := made_ofConfig config s
  rw [HistoryConfig.storeDirs, h] at hmade
  have hopened : s.disk.ensureDir root = (.ok (), (ofConfig config s).2.disk) := by
    rw [site_ofConfig_of_root h]
    exact Prod.ext hok rfl
  constructor
  · intro hsame
    obtain ⟨p', hp', hnode⟩ :=
      Disk.isDir_iff.mp (Disk.isDir_of_ensureDir (Disk.ne_empty_of_locate hp) hopened)
    rwa [← hsame p List.prefix_rfl, Except.ok.inj (hp.symm.trans hp')]
  · intro hdir q hq
    refine (hmade q).resolve_right ?_
    rintro ⟨hnone, -, a, ha, hlocate⟩
    have habove : q <+: p := by
      rcases List.mem_cons.mp ha with rfl | ha
      · exact Except.ok.inj (hlocate.symm.trans hp) ▸ List.prefix_rfl
      · exact Disk.prefix_of_ancestor hup hp ha hlocate
    rw [habove.eq_of_length_le hq.length_le, hdir] at hnone
    cases hnone

end RunContext

/-! ## What a job writes -/

namespace PartFiles

open Disk (child)

variable {hash : String → Nat} {dir : String} {splits : UInt32} {p : Path} {d d' : Disk}

/-- The step writes to a part file. -/
def WritesPart (dir : String) : Disk.Step → Prop
  | .create address | .append address _ => ∃ i, address = child dir (partName i)
  | .rename .. => False

theorem writesPart_of_mem_steps {opened : List Nat} {records : List OutputRecord}
    {step : Disk.Step} (h : step ∈ steps hash dir splits opened records) :
    WritesPart dir step := by
  induction records generalizing opened with
  | nil => exact absurd h List.not_mem_nil
  | cons r rs ih =>
      rw [steps, List.mem_append, List.mem_cons] at h
      rcases h with hcreate | rfl | hrest
      · split at hcreate
        · cases hcreate
        · rw [List.mem_singleton.mp hcreate]
          exact ⟨_, rfl⟩
      · exact ⟨_, rfl⟩
      · exact ih hrest

/-- A step that writes to a part file finds no directory there. -/
theorem apply_cases (hp : d.locate dir = .ok p) {step : Disk.Step} (hstep : WritesPart dir step)
    (h : step.apply d = .ok d') :
    ∃ i content, d.node? (p ++ [partName i]) ≠ some .dir ∧
      d' = d.setNode (p ++ [partName i]) (.file content) := by
  have hpart : ∀ {i q}, d.locate (child dir (partName i)) = .ok q → q = p ++ [partName i] := by
    intro i q hq
    obtain ⟨-, p', hp', -, rfl⟩ := (Disk.locate_child_eq_ok_iff (Disk.ne_empty_of_locate hp)
      (plainName_partName i)).mp hq
    rw [Except.ok.inj (hp'.symm.trans hp)]
  cases step with
  | create address =>
      obtain ⟨i, rfl⟩ := hstep
      obtain ⟨q, hq, hnode, rfl⟩ := Disk.create_eq_ok_iff.mp h
      obtain rfl := hpart hq
      exact ⟨i, _, hnode, rfl⟩
  | append address content =>
      obtain ⟨i, rfl⟩ := hstep
      obtain ⟨q, old, hq, hnode, rfl⟩ := Disk.append_eq_ok_iff.mp h
      obtain rfl := hpart hq
      exact ⟨i, _, by rw [hnode]; simp, rfl⟩
  | rename source target => exact hstep.elim

/-- Steps that write to part files leave everything else, also if they stop half way. -/
theorem node?_run {l : List Disk.Step} (hp : d.locate dir = .ok p)
    (hl : ∀ step ∈ l, WritesPart dir step) {q : Path} (hq : ∀ i, q ≠ p ++ [partName i]) :
    (d.run l).2.node? q = d.node? q := by
  induction l generalizing d with
  | nil => rfl
  | cons step l ih =>
      obtain ⟨hstep, hrest⟩ := List.forall_mem_cons.mp hl
      rw [Disk.run]
      split
      · next d₁ happly =>
        -- No directory goes, so the next step finds the same location.
        obtain ⟨i, content, hnode, rfl⟩ := apply_cases hp hstep happly
        rw [ih ((Disk.keepsDirs_setNode (by simp) hnode _).locate hp) hrest,
          Disk.node?_setNode_of_ne d (by simp) (hq i).symm]
      · rfl

end PartFiles

/-- Neither a directory of the location, as the addresses lead once they are made, nor a
part file in it is at a path or below it. -/
structure OutputSpec.Avoids (spec : OutputSpec) (d : Disk) (p : Path) : Prop where
  dirs : ∀ a ∈ spec.location :: Disk.ancestors spec.location, ∀ q,
    (d.ensureDir spec.location).2.locate a = .ok q → ¬p <+: q
  parts : ∀ q, (d.ensureDir spec.location).2.locate spec.location = .ok q →
    ∀ i, ¬p <+: q ++ [PartFiles.partName i]

/-- The output of a job goes elsewhere: it is no text output, or one that is
written at other places. -/
def PreparedJob.Avoids (job : PreparedJob) (d : Disk) (p : Path) : Prop :=
  job.output.format = .text → job.output.Avoids d p

section

variable {hash : String → Nat} {d : Disk} {p q : Path}

/-- Writing a text output leaves what it avoids, also if it fails. -/
theorem OutputSpec.Avoids.node?_write {spec : OutputSpec} (h : spec.Avoids d p)
    (records : List OutputRecord) (hq : p <+: q) :
    (PartFiles.write hash spec records d).2.node? q = d.node? q := by
  have hdirs : (d.ensureDir spec.location).2.node? q = d.node? q := by
    refine (Disk.ensureDir_made spec.location d q).resolve_right ?_
    rintro ⟨-, -, a, ha, hlocate⟩
    exact h.dirs a ha q hlocate hq
  have hparts := h.parts
  rw [← hdirs, PartFiles.write]
  cases hmade : d.ensureDir spec.location with
  | mk r d₁ =>
      cases r with
      | error e => rfl
      | ok u =>
          obtain ⟨p', hp', -⟩ := Disk.isDir_iff.mp (Disk.isDir_of_ensureDir spec.location_ne hmade)
          rw [hmade] at hparts
          exact PartFiles.node?_run hp' (fun _ => PartFiles.writesPart_of_mem_steps)
            fun i hqi => hparts p' hp' i (hqi ▸ hq)

theorem PreparedJob.Avoids.node?_run {job : PreparedJob} (h : job.Avoids d p) (hq : p <+: q) :
    (Execution.run hash job d).2.node? q = d.node? q := by
  unfold Execution.run
  split
  · rfl
  · next t _ =>
    simp only
    split
    · next htext =>
      have hwrite : (PartFiles.write hash job.output t.outputs d).2.node? q = d.node? q :=
        (h htext).node?_write t.outputs hq
      split <;> next hresult => rwa [hresult] at hwrite
    · rfl

end

/-! ## With the history switched off -/

namespace LocalEngine

/-- A job that is submitted in a context made from a configuration, after events. -/
def runFrom (e : LocalEngine) (hash : String → Nat) (config : HistoryConfig) (job : PreparedJob)
    (unique : String) (now : UInt64) (events : List (JobEvent Site)) (s : Site) :
    JobRun Instance Site :=
  let (context, s) := RunContext.ofConfig config s
  let (submission, _, s) := e.submit hash context job unique now s
  (JobRun.mk submission s).after events

theorem store_runFrom_of_disabled {config : HistoryConfig} (hoff : config.enabled = false)
    (e : LocalEngine) (hash : String → Nat) (job : PreparedJob) (unique : String) (now : UInt64)
    {events : List (JobEvent Site)} (hlooks : ∀ ev ∈ events, ev.lookTime?.isSome) (s : Site) :
    (e.runFrom hash config job unique now events s).store =
      { (RunContext.ofConfig config s).2 with
        disk := (Execution.run hash job (RunContext.ofConfig config s).2.disk).2 } := by
  have hcontext := RunContext.ofConfig_of_disabled hoff s
  unfold runFrom
  generalize RunContext.ofConfig config s = opened at *
  obtain ⟨context, s'⟩ := opened
  obtain rfl : context = RunContext.new config := hcontext
  have hhistory : (RunContext.new config : RunContext Instance).history? = none := by
    rw [RunContext.history?, RunContext.new]
    split <;> rfl
  simp only [submit, Submission.start, hhistory]
  exact store_after_looks rfl hlooks

end LocalEngine

/-- What a job leaves with the history switched off, for every configuration and job
and after any number of looks: the site is the one in which the store was opened, with
the job's own output. Opening takes a memory instance of its own, or makes
directories of the store's address where they are missing. At a path that the job's
output avoids, and below it, nothing else is another one; if the root of the store was a
directory, opening has changed nothing at all. So a store that can be opened is as
it was exactly if there was a directory at its root, as long as its address does not go up. -/
theorem disabled_history_leaves_storage {config : HistoryConfig} (hoff : config.enabled = false)
    (s : Site) (e : LocalEngine) (hash : String → Nat) (job : PreparedJob) (unique : String)
    (now : UInt64) {events : List (JobEvent Site)} (hlooks : ∀ ev ∈ events, ev.lookTime?.isSome) :
    let opened := (RunContext.ofConfig config s).2
    let last := (e.runFrom hash config job unique now events s).store
    (last.memories = opened.memories ∧ last.disk = (Execution.run hash job opened.disk).2) ∧
    (∃ new, opened.memories = s.memories ++ new ∧ ∀ m ∈ new, ∃ uri, m = .new uri) ∧
    (∀ p, job.Avoids opened.disk p → ∀ q, p <+: q →
      last.disk.node? q = s.disk.node? q ∨
        s.disk.node? q = none ∧ last.disk.node? q = some .dir ∧
          ∃ a ∈ config.storeDirs, opened.disk.locate a = .ok q) ∧
    ∀ root, config.storeRoot? = some root →
      (s.disk.isDir root = true → opened = s) ∧
      ((s.disk.ensureDir root).1 = .ok () → ".." ∉ Disk.components root →
        ∀ p, opened.disk.locate root = .ok p → job.Avoids opened.disk p →
          ((∀ q, p <+: q → last.disk.node? q = s.disk.node? q) ↔ s.disk.node? p = some .dir)) := by
  intro opened last
  have hlast : last = { opened with disk := (Execution.run hash job opened.disk).2 } :=
    e.store_runFrom_of_disabled hoff hash job unique now hlooks s
  have hframe : ∀ p, job.Avoids opened.disk p → ∀ q, p <+: q →
      last.disk.node? q = opened.disk.node? q := by
    intro p havoids q hq
    rw [hlast]
    exact havoids.node?_run hq
  refine ⟨⟨by rw [hlast], by rw [hlast]⟩, RunContext.memories_ofConfig config s, ?_, ?_⟩
  · intro p havoids q hq
    rw [hframe p havoids q hq]
    exact RunContext.made_ofConfig config s q
  · intro root hroot
    refine ⟨RunContext.site_ofConfig_of_isDir hroot, fun hok hup p hp havoids => ?_⟩
    rw [← RunContext.below_root_iff hroot hok hup hp]
    exact forall_congr' fun q => forall_congr' fun hq => by rw [hframe p havoids q hq]

/-- A store in the directory `st`, which is not used. -/
def HistoryConfig.unused : HistoryConfig :=
  { HistoryConfig.default with storeUri := some "st", enabled := false }

/-- A tree with a note where the store is. -/
def Disk.withStore : Disk :=
  ((Disk.empty [] ⟨none, none⟩).setNode ["st"] .dir).setNode ["st", "note"] (.file [110])

/-- The output of a job goes to the directory `sampled`. -/
theorem sampling_avoids (row : InputRow) :
    (Execution.sampling .text [row]).Avoids .withStore ["st"] := by
  have hmade : (Disk.withStore.ensureDir "sampled").2.locate "sampled" = .ok ["sampled"] := by
    decide +kernel
  refine fun _ => ⟨?_, ?_⟩
  · intro a ha q hq
    have hdirs : "sampled" :: Disk.ancestors "sampled" = ["sampled", ""] := by decide +kernel
    change a ∈ "sampled" :: Disk.ancestors "sampled" at ha
    rw [hdirs] at ha
    obtain rfl : a = "sampled" := by simpa [Disk.ne_empty_of_locate hq] using ha
    rw [← Except.ok.inj (hmade.symm.trans hq)]
    decide
  · intro q hq i
    rw [← Except.ok.inj (hmade.symm.trans hq)]
    simp

/-- The job writes its output, and the note in the store stays. -/
theorem note_in_unused_store_stays :
    let events := [.isComplete 3, .wait 5 6, .isComplete 7]
    let last := (LocalEngine.new.runFrom (fun _ => 0) .unused
      (Execution.sampling .text [Execution.named]) "u" 1 events (.ofDisk .withStore)).store
    HistoryConfig.unused.enabled = false ∧ (∀ ev ∈ events, ev.lookTime?.isSome) ∧
      last.disk.node? ["st", "note"] = some (.file [110]) ∧
      last.disk.read "sampled/part-r-00000" = .ok (Utf8.bytes "a\tAnn\n") := by
  intro events last
  have hoff : HistoryConfig.unused.enabled = false := rfl
  have hlooks : ∀ ev ∈ events, ev.lookTime?.isSome := by simp [events, JobEvent.lookTime?]
  have hopened : (RunContext.ofConfig .unused (.ofDisk .withStore) :
      RunContext Instance × Site).2 = .ofDisk .withStore := by decide +kernel
  obtain ⟨⟨-, hdisk⟩, -, -, hstore⟩ := disabled_history_leaves_storage hoff (.ofDisk .withStore)
    .new (fun _ => 0) (Execution.sampling .text [Execution.named]) "u" 1 hlooks
  rw [hopened] at hdisk hstore
  have hroot : HistoryConfig.unused.storeRoot? = some "st" := by decide +kernel
  have hsame := ((hstore "st" hroot).2 (by decide +kernel) (by decide +kernel) ["st"]
    (by decide +kernel) (sampling_avoids _)).mpr (by decide +kernel)
  have hnote : last.disk.node? ["st", "note"] = Disk.withStore.node? ["st", "note"] :=
    hsame ["st", "note"] (by decide)
  have hdisk' : last.disk = (Execution.run (fun _ => 0)
      (Execution.sampling .text [Execution.named]) .withStore).2 := hdisk
  refine ⟨hoff, hlooks, ?_, ?_⟩
  · rw [hnote]
    decide +kernel
  · rw [hdisk']
    decide +kernel

/-- Where there was nothing, the directory of the store is made, though
the history is switched off and the job has no output in files. -/
theorem unused_store_made :
    let job := Execution.sampling .sequenceFile []
    let last := (LocalEngine.new.runFrom (fun _ => 0) .unused job "u" 1 [.wait 5 6]
      (.ofDisk (.empty [] ⟨none, none⟩))).store
    HistoryConfig.unused.enabled = false ∧ job.output.format ≠ .text ∧
      (Disk.empty [] ⟨none, none⟩).node? ["st"] = none ∧ last.disk.node? ["st"] = some .dir := by
  decide +kernel

end JobLedger

import JobLedger.Proofs.Disk.Write

/-!
# Stopping while a file is replaced

A file is replaced through a temporary file beside it. Taken byte by byte
(`Step.bytewise`), the write has a list of steps that may be cut anywhere:
short of the last step, only the temporary file is another one
(`run_take_bytewise`).

What a stale temporary file can do to later writes is compared on two trees
that differ in this one file, `SameBut`. Names that do not lead through it
lead to the same place in both (`SameBut.locate_below`), and replacing a file
in both has the same result and leaves them alike (`SameBut.replaceFile`): a
write that uses the same temporary file empties it first, and any other one
does not come near it.
-/

namespace JobLedger.Disk

/-! ## Steps byte by byte -/

/-- The steps of a step that a program may be stopped between. -/
def Step.bytewise : Step → List Step
  | .append address content => content.map fun b => .append address [b]
  | s => [s]

theorem run_append (l l' : List Step) (d : Disk) :
    run (l ++ l') d = match run l d with
      | (.ok (), d) => run l' d
      | (.error e, d) => (.error e, d) := by
  induction l generalizing d with
  | nil => rfl
  | cons s l ih =>
      rw [List.cons_append, run, run]
      cases s.apply d with
      | error e => rfl
      | ok d => exact ih d

theorem setNode_of_get? {d : Disk} {p : Path} {n : Node} (h : d.nodes.get? p = some n) :
    d.setNode p n = d := by
  have hnodes : d.nodes.insert p n = d.nodes := Dict.ext_get? fun q => by
    rw [Dict.get?_insert]
    split
    · next hq => rw [← hq, h]
    · rfl
  rw [setNode, hnodes]

/-- Bytes that are appended one by one are appended all together. -/
theorem run_appendBytes {d : Disk} {address : String} {p : Path} {old : Bytes}
    (hp : d.locate address = .ok p) (hp0 : p ≠ []) (hnode : d.node? p = some (.file old))
    (content : Bytes) :
    run (content.map fun b => .append address [b]) d =
      (.ok (), d.setNode p (.file (old ++ content))) := by
  induction content generalizing d old with
  | nil =>
      rw [node?_of_ne_nil d hp0] at hnode
      rw [List.append_nil, setNode_of_get? hnode]
      rfl
  | cons b content ih =>
      have hkeeps := keepsDirs_setNode hp0 (by rw [hnode]; simp) (.file (old ++ [b]))
      rw [List.map_cons, run, Step.apply, append_eq hp hnode]
      simp only
      rw [ih (hkeeps.locate hp) (node?_setNode_self d hp0 _), setNode_setNode, List.append_assoc]
      rfl

section Replacing

variable (dir name : String) (content : Bytes)

theorem bytewise_replaceSteps :
    (replaceSteps dir name content).flatMap Step.bytewise =
      .create (child dir (withEnding name "tmp")) ::
        ((content.map fun b => .append (child dir (withEnding name "tmp")) [b]) ++
          [.rename (child dir (withEnding name "tmp")) (child dir name)]) := by
  simp [replaceSteps, Step.bytewise]

variable {dir name content}

/-- The temporary file right after it was made. -/
theorem locate_of_create {d d' : Disk} {address : String} (h : d.create address = .ok d') :
    ∃ q, q ≠ [] ∧ d.node? q ≠ some .dir ∧ d' = d.setNode q (.file []) ∧
      d.locate address = .ok q ∧ d'.locate address = .ok q := by
  obtain ⟨q, hq, hnode, rfl⟩ := create_eq_ok_iff.mp h
  have hq0 : q ≠ [] := by
    rintro rfl
    exact hnode rfl
  exact ⟨q, hq0, hnode, rfl, hq, (keepsDirs_setNode hq0 hnode _).locate hq⟩

/-- All steps together replace the file. -/
theorem run_bytewise (d : Disk) :
    run ((replaceSteps dir name content).flatMap Step.bytewise) d =
      d.replaceFile dir name content := by
  rw [bytewise_replaceSteps, replaceFile, replaceSteps, run, run]
  cases hcreate : (Step.create (child dir (withEnding name "tmp"))).apply d with
  | error e => rfl
  | ok d' =>
      obtain ⟨q, hq0, -, rfl, -, hq⟩ := locate_of_create hcreate
      have hempty := node?_setNode_self d hq0 (.file [])
      simp only [run_append, run_appendBytes hq hq0 hempty, run, Step.apply,
        append_eq hq hempty content]

/-- A write that is stopped before its last step has changed its temporary
file, if anything. -/
theorem run_take_bytewise (d : Disk) {n : Nat}
    (hn : n < ((replaceSteps dir name content).flatMap Step.bytewise).length) :
    (run (((replaceSteps dir name content).flatMap Step.bytewise).take n) d).2 = d ∨
      ∃ q written, d.locate (child dir (withEnding name "tmp")) = .ok q ∧
        d.node? q ≠ some .dir ∧
        (run (((replaceSteps dir name content).flatMap Step.bytewise).take n) d).2 =
          d.setNode q (.file written) := by
  rw [bytewise_replaceSteps] at hn ⊢
  cases n with
  | zero => exact .inl rfl
  | succ n =>
      rw [List.take_succ_cons, run]
      cases hcreate : (Step.create (child dir (withEnding name "tmp"))).apply d with
      | error e => exact .inl rfl
      | ok d' =>
          obtain ⟨q, hq0, hnode, rfl, hq, hq'⟩ := locate_of_create hcreate
          -- Only bytes are left to be written, for the last step is not taken.
          have hbytes : n ≤ (content.map fun b =>
              Step.append (child dir (withEnding name "tmp")) [b]).length := by
            simp only [List.length_cons, List.length_append, List.length_nil] at hn
            omega
          have hrun := run_appendBytes hq' hq0 (node?_setNode_self d hq0 _) (content.take n)
          rw [setNode_setNode, List.map_take] at hrun
          refine .inr ⟨q, content.take n, hq, hnode, ?_⟩
          rw [List.take_append_of_le_length hbytes]
          simp only [hrun, List.nil_append]

end Replacing

/-! ## Trees that differ in one file -/

/-- The trees have the same nodes but for what is at `t`, which is not a
directory in either. -/
structure SameBut (t : Path) (d d' : Disk) : Prop where
  workDir : d'.workDir = d.workDir
  limits : d'.limits = d.limits
  nodes : ∀ q, q ≠ t → d'.nodes.get? q = d.nodes.get? q
  noDir : d.node? t ≠ some .dir
  noDir' : d'.node? t ≠ some .dir

theorem sameBut_setNode {d : Disk} {t : Path} (ht : d.node? t ≠ some .dir) (content : Bytes) :
    SameBut t d (d.setNode t (.file content)) := by
  have ht0 : t ≠ [] := by
    rintro rfl
    exact ht rfl
  refine ⟨rfl, rfl, fun q hq => Dict.get?_insert_of_ne _ (Ne.symm hq) _, ht, ?_⟩
  rw [node?_setNode_self d ht0]
  simp

namespace SameBut

variable {t : Path} {d d' : Disk} (h : SameBut t d d')

include h

theorem symm : SameBut t d' d :=
  ⟨h.workDir.symm, h.limits.symm, fun q hq => (h.nodes q hq).symm, h.noDir', h.noDir⟩

theorem node?_eq {q : Path} (hq : q ≠ t) : d'.node? q = d.node? q := by
  rw [node?, node?, h.nodes q hq]

theorem keepsDirs : KeepsDirs d d' where
  workDir := h.workDir
  limits := h.limits
  dirs := fun q hq => by
    have hne : q ≠ t := by
      rintro rfl
      exact h.noDir hq
    rw [h.node?_eq hne, hq]

/-- Names that end no deeper than `t` are not looked for below it. -/
theorem follow_eq {names : List String} (hn : ∀ n ∈ names, PlainName n) {p : Path}
    (hlength : p.length + names.length ≤ t.length) : d'.follow p names = d.follow p names := by
  induction names generalizing p with
  | nil => rfl
  | cons n names ih =>
      obtain ⟨hfirst, hrest⟩ := List.forall_mem_cons.mp hn
      rw [List.length_cons] at hlength
      have hne : p ≠ t := by
        rintro rfl
        omega
      have hbelow : (p ++ [n]).length + names.length ≤ t.length := by
        rw [List.length_append, List.length_singleton]
        omega
      rw [follow_cons d p hfirst, follow_cons d' p hfirst, h.node?_eq hne, h.limits,
        ih hrest hbelow]

theorem locate_below {dir : String} {p : Path} (hdir : d.locate dir = .ok p) {names : List String}
    (hn : ∀ n ∈ names, PlainName n) (hlength : p.length + names.length ≤ t.length) :
    d'.locate (below dir names) = d.locate (below dir names) := by
  rw [Disk.locate_below hdir hn, Disk.locate_below (h.keepsDirs.locate hdir) hn,
    h.follow_eq hn hlength, checkAddress, checkAddress, h.limits]

theorem locate_child_below {dir : String} {p : Path} (hdir : d.locate dir = .ok p)
    {names : List String} (hnames : ∀ n ∈ names, PlainName n) {name : String} (hn : PlainName name)
    (hlength : p.length + names.length < t.length) :
    d'.locate (child (below dir names) name) = d.locate (child (below dir names) name) := by
  rw [child_below]
  refine h.locate_below hdir (plainName_of_mem_concat hnames hn) ?_
  rw [List.length_append, List.length_singleton]
  omega

/-- What is read at names that do not lead to `t` is the same. -/
theorem read_below {dir : String} {p : Path} (hdir : d.locate dir = .ok p) {names : List String}
    (hn : ∀ n ∈ names, PlainName n) (hlength : p.length + names.length ≤ t.length)
    (hne : p ++ names ≠ t) : d'.read (below dir names) = d.read (below dir names) := by
  rw [read, read, h.locate_below hdir hn hlength]
  cases hq : d.locate (below dir names) with
  | error e => rfl
  | ok q =>
      obtain rfl := path_of_locate_below hdir hn hq
      simp only [bind, Except.bind, h.node?_eq hne]

/-! ### Changing both trees -/

theorem setNode {q : Path} (hq : q ≠ []) (content : Bytes) :
    SameBut t (d.setNode q (.file content)) (d'.setNode q (.file content)) := by
  have hnoDir : ∀ {d : Disk}, d.node? t ≠ some .dir →
      (d.setNode q (.file content)).node? t ≠ some .dir := by
    intro d hnode
    rw [node?_setNode d hq]
    split
    · simp
    · exact hnode
  refine ⟨h.workDir, h.limits, fun q' hq' => ?_, hnoDir h.noDir, hnoDir h.noDir'⟩
  rw [Disk.setNode, Disk.setNode, Dict.get?_insert, Dict.get?_insert, h.nodes q' hq']

theorem prune {q : Path} (hq : q ≠ []) : SameBut t (d.prune q) (d'.prune q) := by
  have hnoDir : ∀ {d : Disk}, d.node? t ≠ some .dir → (d.prune q).node? t ≠ some .dir := by
    intro d hnode
    rw [node?_prune d hq]
    split
    · simp
    · exact hnode
  refine ⟨h.workDir, h.limits, fun q' hq' => ?_, hnoDir h.noDir, hnoDir h.noDir'⟩
  rw [get?_prune, get?_prune, h.nodes q' hq']

/-- A file that both trees have is renamed in both or in none. -/
theorem rename {source target : String} {p : Path} {content : Bytes}
    (hp : d.locate source = .ok p) (hfile : d.node? p = some (.file content))
    (hfile' : d'.node? p = some (.file content)) (htarget : d'.locate target = d.locate target)
    (hne : ∀ q, d.locate target = .ok q → q ≠ t) :
    (∃ e, d.rename source target = .error e ∧ d'.rename source target = .error e) ∨
      ∃ d₁ d₁', d.rename source target = .ok d₁ ∧ d'.rename source target = .ok d₁' ∧
        SameBut t d₁ d₁' := by
  have hp0 : p ≠ [] := by
    rintro rfl
    cases hfile
  rw [Disk.rename, Disk.rename, hp, h.keepsDirs.locate hp, htarget]
  cases hq : d.locate target with
  | error e => exact .inl ⟨e, rfl, rfl⟩
  | ok q =>
      simp only [bind, Except.bind, hfile, hfile', h.node?_eq (hne q hq)]
      by_cases hdir : d.node? q = some .dir
      · exact .inl ⟨.isDirectory, if_pos hdir, if_pos hdir⟩
      · rw [if_neg hdir, if_neg hdir]
        refine .inr ?_
        by_cases hpq : p = q
        · exact ⟨d, d', if_pos hpq, if_pos hpq, h⟩
        · have hq0 : q ≠ [] := by
            rintro rfl
            exact hdir rfl
          exact ⟨_, _, if_neg hpq, if_neg hpq, (h.prune hp0).setNode hq0 content⟩

/-- Replacing a file other than `t`, whatever its temporary file is. -/
theorem replaceFile {root : String} {p : Path} (hroot : d.locate root = .ok p)
    {dirs : List String} (hdirs : ∀ n ∈ dirs, PlainName n) {name : String} (hn : PlainName name)
    (htn : PlainName (withEnding name "tmp")) (hlength : p.length + dirs.length < t.length)
    (hne : p ++ (dirs ++ [name]) ≠ t) (content : Bytes) :
    (d'.replaceFile (below root dirs) name content).1 =
        (d.replaceFile (below root dirs) name content).1 ∧
      SameBut t (d.replaceFile (below root dirs) name content).2
        (d'.replaceFile (below root dirs) name content).2 := by
  have hlocate := h.locate_child_below hroot hdirs htn hlength
  cases hq : d.locate (child (below root dirs) (withEnding name "tmp")) with
  | error e =>
      rw [replaceFile_of_error hq, replaceFile_of_error (hlocate.trans hq)]
      exact ⟨rfl, h⟩
  | ok q =>
      by_cases hdir : d.node? q = some .dir
      · rw [replaceFile_of_isDir hq hdir,
          replaceFile_of_isDir (hlocate.trans hq) (h.keepsDirs.dirs q hdir)]
        exact ⟨rfl, h⟩
      · have hdir' : d'.node? q ≠ some .dir := fun hq => hdir (h.symm.keepsDirs.dirs q hq)
        have hq0 : q ≠ [] := by
          rintro rfl
          exact hdir rfl
        -- With the same content in the temporary file, the trees differ in `t` at most.
        have hwritten := h.setNode hq0 content
        have hkeeps := keepsDirs_setNode hq0 hdir (.file content)
        have hroot' := hkeeps.locate hroot
        have htarget := hwritten.locate_child_below hroot' hdirs hn hlength
        have hother : ∀ q', (d.setNode q (.file content)).locate (child (below root dirs) name)
            = .ok q' → q' ≠ t := by
          intro q' hq'
          rw [child_below] at hq'
          exact path_of_locate_below hroot' (plainName_of_mem_concat hdirs hn) hq' ▸ hne
        rw [replaceFile_of_locate hq hdir, replaceFile_of_locate (hlocate.trans hq) hdir']
        rcases hwritten.rename (hkeeps.locate hq) (node?_setNode_self d hq0 _)
          (node?_setNode_self d' hq0 _) htarget hother with
          ⟨e, hr, hr'⟩ | ⟨d₁, d₁', hr, hr', hsame⟩ <;> rw [hr, hr']
        · exact ⟨rfl, hwritten⟩
        · exact ⟨rfl, hsame⟩

end SameBut

end JobLedger.Disk

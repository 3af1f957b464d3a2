import JobLedger.Proofs.Disk.Write

/-!
# Where a change leaves a tree alone

`ChangedAt P d d'` says that `d'` differs from `d` at the paths of `P` and
in new directories, so a file elsewhere is the same (`ChangedAt.file_iff`)
and a directory elsewhere is still there (`ChangedAt.dir`). That is known of
each step also if it fails half way: making a directory touches nothing that
is there (`ensureDir_changedAt`), and removing one touches what is below it.
-/

namespace JobLedger.Disk

/-- Outside of `P`, nothing happened but that directories were made. -/
structure ChangedAt (P : Path → Prop) (d d' : Disk) : Prop where
  workDir : d'.workDir = d.workDir
  limits : d'.limits = d.limits
  nodes : ∀ q, ¬P q → d'.node? q = d.node? q ∨ d.node? q = none ∧ d'.node? q = some .dir

namespace ChangedAt

variable {P Q : Path → Prop} {d d' d'' : Disk}

theorem refl (P : Path → Prop) (d : Disk) : ChangedAt P d d := ⟨rfl, rfl, fun _ _ => .inl rfl⟩

theorem mono (h : ChangedAt P d d') (hPQ : ∀ q, P q → Q q) : ChangedAt Q d d' :=
  ⟨h.workDir, h.limits, fun q hq => h.nodes q fun hp => hq (hPQ q hp)⟩

theorem file_iff (h : ChangedAt P d d') {q : Path} (hq : ¬P q) {content : Bytes} :
    d'.node? q = some (.file content) ↔ d.node? q = some (.file content) := by
  rcases h.nodes q hq with hsame | ⟨hnone, hdir⟩
  · rw [hsame]
  · rw [hnone, hdir]
    simp

theorem dir (h : ChangedAt P d d') {q : Path} (hq : ¬P q) (hdir : d.node? q = some .dir) :
    d'.node? q = some .dir := by
  rcases h.nodes q hq with hsame | ⟨-, hdir'⟩
  · rw [hsame, hdir]
  · exact hdir'

theorem trans (h : ChangedAt P d d') (h' : ChangedAt P d' d'') : ChangedAt P d d'' := by
  refine ⟨h'.workDir.trans h.workDir, h'.limits.trans h.limits, fun q hq => ?_⟩
  rcases h.nodes q hq with hsame | ⟨hnone, hdir⟩
  · rw [← hsame]
    exact h'.nodes q hq
  · exact .inr ⟨hnone, h'.dir hq hdir⟩

theorem keepsDirs {d₀ : Disk} (h : ChangedAt P d d') (hd : KeepsDirs d₀ d)
    (hP : ∀ q, P q → d₀.node? q ≠ some .dir) : KeepsDirs d₀ d' where
  workDir := h.workDir.trans hd.workDir
  limits := h.limits.trans hd.limits
  dirs := fun q hq => h.dir (fun hp => hP q hp hq) (hd.dirs q hq)

end ChangedAt

theorem setNode_changedAt (d : Disk) {p : Path} (hp : p ≠ []) (n : Node) :
    ChangedAt (· = p) d (d.setNode p n) :=
  ⟨rfl, rfl, fun _ hq => .inl (node?_setNode_of_ne d hp (Ne.symm hq) n)⟩

theorem prune_changedAt (d : Disk) {p : Path} (hp : p ≠ []) :
    ChangedAt (p <+: ·) d (d.prune p) :=
  ⟨rfl, rfl, fun q hq => .inl (by rw [node?_prune d hp, if_neg hq])⟩

/-! ## Replacing a file -/

/-- The paths that replacing a file writes to. -/
def Replaces (dir : Path) (name : String) (q : Path) : Prop :=
  q = dir ++ [name] ∨ dir ++ [withEnding name "tmp"] <+: q

theorem withTemporary_changedAt (d : Disk) (dir : Path) (name : String) (content : Bytes) :
    ChangedAt (dir ++ [withEnding name "tmp"] <+: ·) d (d.withTemporary dir name content) :=
  (d.setNode_changedAt (by simp) _).mono fun _ hq => hq ▸ List.prefix_rfl

theorem withReplaced_changedAt (d : Disk) (dir : Path) (name : String) (content : Bytes) :
    ChangedAt (Replaces dir name) d (d.withReplaced dir name content) := by
  have hpruned := (withTemporary_changedAt d dir name content).trans
    (prune_changedAt _ (by simp))
  exact (hpruned.mono fun _ => .inr).trans ((setNode_changedAt _ (by simp) _).mono fun _ => .inl)

theorem node?_withReplaced_of_ne (d : Disk) (dir : Path) (name : String) (content : Bytes)
    {q : Path} (hq : ¬Replaces dir name q) :
    (d.withReplaced dir name content).node? q = d.node? q := by
  obtain ⟨hne, htmp⟩ := not_or.mp hq
  rw [withReplaced, node?_setNode_of_ne _ (by simp) (Ne.symm hne), node?_prune _ (by simp),
    if_neg htmp]
  refine node?_setNode_of_ne d (by simp) ?_ _
  rintro rfl
  exact htmp List.prefix_rfl

theorem node?_withReplaced (d : Disk) (dir : Path) (name : String) (content : Bytes) :
    (d.withReplaced dir name content).node? (dir ++ [name]) = some (.file content) :=
  node?_setNode_self _ (by simp) _

/-- A directory that is not below the temporary file stays where it is. -/
theorem locate_replaceFile {d : Disk} {dir name : String} (hne : dir ≠ "") (hn : PlainName name)
    (ht : PlainName (withEnding name "tmp")) (htn : withEnding name "tmp" ≠ name)
    {address : String} {p : Path} (hp : d.locate address = .ok p) (hnode : d.node? p = some .dir)
    (hbelow : ∀ q, d.locate dir = .ok q → ¬q ++ [withEnding name "tmp"] <+: p) (content : Bytes) :
    (d.replaceFile dir name content).2.locate address = .ok p ∧
      (d.replaceFile dir name content).2.node? p = some .dir := by
  rcases replaceFile_cases hne hn ht htn content with
    ⟨e, hr⟩ | ⟨q, hq, -, htmp, ⟨e, hr⟩ | ⟨htarget, hr⟩⟩ <;> rw [hr]
  · exact ⟨hp, hnode⟩
  · have hkeeps := keepsDirs_setNode (by simp) htmp (.file content)
    exact ⟨hkeeps.locate hp, hkeeps.dirs p hnode⟩
  · have hkeeps := keepsDirs_setNode (by simp) htmp (.file content)
    have hfile : (d.withTemporary q name content).node? (q ++ [withEnding name "tmp"]) ≠
        some .dir := by
      rw [withTemporary, node?_setNode_self d (by simp)]
      simp
    have hpruned := locate_prune (by simp) hfile (hkeeps.locate hp) (hbelow q hq)
    have hnode' : ((d.withTemporary q name content).prune
        (q ++ [withEnding name "tmp"])).node? p = some .dir := by
      rw [node?_prune _ (by simp), if_neg (hbelow q hq)]
      exact hkeeps.dirs p hnode
    have htarget' : ((d.withTemporary q name content).prune
        (q ++ [withEnding name "tmp"])).node? (q ++ [name]) ≠ some .dir := by
      rw [node?_prune _ (by simp)]
      split
      · simp
      · rwa [withTemporary, node?_setNode_of_ne d (by simp) (by simpa using htn)]
    have hkeeps' := keepsDirs_setNode (by simp) htarget' (.file content)
    exact ⟨hkeeps'.locate hpruned, hkeeps'.dirs p hnode'⟩

/-! ## Making directories -/

theorem makeDir_changedAt {d d' : Disk} {address : String} (h : d.makeDir address = .ok d') :
    ChangedAt (fun _ => False) d d' := by
  obtain ⟨p, hp, hnone, rfl, -⟩ := makeDir_cases h
  refine ⟨rfl, rfl, fun q _ => ?_⟩
  rw [node?_setNode d hp]
  split
  · next hq => exact .inr ⟨hq ▸ hnone, rfl⟩
  · exact .inl rfl

theorem ensureFirst_changedAt (addresses : List String) (d : Disk) :
    ChangedAt (fun _ => False) d (ensureFirst addresses d).2 := by
  induction addresses generalizing d with
  | nil => exact .refl _ d
  | cons address up ih =>
      rw [ensureFirst]
      split
      · exact .refl _ d
      · split
        · next h => exact makeDir_changedAt h
        · have hup := ih d
          split
          · next h => exact h ▸ hup
          · next d' h =>
            rw [h] at hup
            split
            · next h' => exact hup.trans (makeDir_changedAt h')
            · exact hup
        · exact .refl _ d

/-- Making a directory leaves alone what is there, also if it fails. -/
theorem ensureDir_changedAt (address : String) (d : Disk) :
    ChangedAt (fun _ => False) d (d.ensureDir address).2 := ensureFirst_changedAt ..

end JobLedger.Disk

import JobLedger.Proofs.Dict
import JobLedger.Proofs.Disk.Address
import Mathlib.Data.List.Nodup

/-!
# What writing does to a tree

A file that is replaced is the only thing that changes: the temporary file
is gone again (`replaceFile_eq`), unless the tree has too little room for
the names (`replaceFile_cases`). A directory that is made below another
missing one brings that one with it and nothing else, on a tree with room
for everything (`ensureDir_below_missing`) and on any other where making it
succeeds (`ensureDir_below_of_ok`).
-/

namespace JobLedger.Disk

/-! ## Changed trees -/

theorem node?_of_ne_nil (d : Disk) {p : Path} (hp : p ≠ []) : d.node? p = d.nodes.get? p := by
  rw [node?, if_neg hp]

theorem node?_setNode (d : Disk) {p : Path} (hp : p ≠ []) (n : Node) (q : Path) :
    (d.setNode p n).node? q = if p = q then some n else d.node? q := by
  rw [node?, node?, setNode]
  by_cases hq : q = []
  · rw [if_pos hq, if_pos hq, if_neg (hq ▸ hp)]
  · rw [if_neg hq, if_neg hq, Dict.get?_insert]

theorem node?_setNode_self (d : Disk) {p : Path} (hp : p ≠ []) (n : Node) :
    (d.setNode p n).node? p = some n := by
  rw [node?_setNode d hp, if_pos rfl]

theorem node?_setNode_of_ne (d : Disk) {p q : Path} (hp : p ≠ []) (hq : p ≠ q) (n : Node) :
    (d.setNode p n).node? q = d.node? q := by
  rw [node?_setNode d hp, if_neg hq]

theorem node?_setNode_below (d : Disk) (p : Path) {q : Path} (hq : q ≠ []) (n : Node) (q' : Path) :
    (d.setNode (p ++ q) n).node? (p ++ q') = if q' = q then some n else d.node? (p ++ q') := by
  rw [node?_setNode d (by simp [hq])]
  by_cases hqq : q' = q
  · rw [if_pos hqq, if_pos (by rw [hqq])]
  · rw [if_neg hqq, if_neg (by simpa using Ne.symm hqq)]

theorem setNode_setNode (d : Disk) (p : Path) (m n : Node) :
    (d.setNode p m).setNode p n = d.setNode p n := by
  have hnodes : (d.nodes.insert p m).insert p n = d.nodes.insert p n := Dict.ext_get? fun q => by
    rw [Dict.get?_insert, Dict.get?_insert, Dict.get?_insert]
    split <;> rfl
  rw [setNode, setNode, setNode]
  exact congrArg (Disk.mk · d.workDir d.limits) hnodes

/-- Nothing is in a new tree. -/
theorem node?_empty (limits : NameLimits) {p : Path} (hp : p ≠ []) :
    (empty [] limits).node? ([] ++ p) = none := by
  rw [List.nil_append, node?_of_ne_nil _ hp]
  rfl

theorem get?_prune (d : Disk) (p q : Path) :
    (d.prune p).nodes.get? q = if p <+: q then none else d.nodes.get? q := by
  rw [prune, Dict.get?_filter]
  by_cases h : p <+: q
  · have hp : p.isPrefixOf q = true := List.isPrefixOf_iff_prefix.mpr h
    cases d.nodes.get? q <;> simp [h, hp]
  · have hp : p.isPrefixOf q = false := by
      rw [← Bool.not_eq_true, List.isPrefixOf_iff_prefix]
      exact h
    cases d.nodes.get? q <;> simp [h, hp]

theorem node?_prune (d : Disk) {p : Path} (hp : p ≠ []) (q : Path) :
    (d.prune p).node? q = if p <+: q then none else d.node? q := by
  cases q with
  | nil => simp [node?, hp]
  | cons c r =>
      rw [node?_of_ne_nil _ (by simp), node?_of_ne_nil _ (by simp), get?_prune]

/-- Pruning undoes what happened at a path that was free. -/
theorem prune_eq {d d' : Disk} {p : Path} (hw : d'.workDir = d.workDir)
    (hl : d'.limits = d.limits) (hfree : ∀ q, p <+: q → d.nodes.get? q = none)
    (hsame : ∀ q, ¬p <+: q → d'.nodes.get? q = d.nodes.get? q) : d'.prune p = d := by
  have hnodes : (d'.prune p).nodes = d.nodes := Dict.ext_get? fun q => by
    rw [get?_prune]
    split
    · next h => exact (hfree q h).symm
    · next h => exact hsame q h
  cases d
  cases d'
  cases hw
  cases hl
  cases hnodes
  rfl

/-- A tree keeps its directories when something is put where no directory
was. -/
theorem keepsDirs_setNode {d : Disk} {p : Path} (hp : p ≠ []) (h : d.node? p ≠ some .dir)
    (n : Node) : KeepsDirs d (d.setNode p n) where
  workDir := rfl
  limits := rfl
  dirs := fun q hq => by
    have hne : p ≠ q := by
      rintro rfl
      exact h hq
    rw [node?_setNode_of_ne d hp hne, hq]

/-- From below a path that is no directory, no way leads out. -/
theorem prefix_of_follow {d : Disk} {t p q : Path} (ht : d.node? t ≠ some .dir) (hp : t <+: p)
    {cs : List String} (h : d.follow p cs = .ok q) : t <+: q := by
  induction cs generalizing p with
  | nil => exact Except.ok.inj h ▸ hp
  | cons c r ih =>
      rw [follow] at h
      split at h
      · cases h
      · cases h
      · next hdir =>
        split at h
        · exact ih hp h
        · split at h
          · -- Going up from `t` itself would need a directory there.
            obtain ⟨s, rfl⟩ := hp
            have hs : s ≠ [] := by
              rintro rfl
              rw [List.append_nil] at hdir
              exact ht hdir
            rw [List.dropLast_append_of_ne_nil hs] at h
            exact ih (List.prefix_append ..) h
          · split at h
            · cases h
            · exact ih (hp.trans (List.prefix_append ..)) h

/-- What is below a path that is no directory matters to no other path. -/
theorem locate_prune {d : Disk} {t q : Path} (ht0 : t ≠ []) (ht : d.node? t ≠ some .dir)
    {address : String} (h : d.locate address = .ok q) (hq : ¬t <+: q) :
    (d.prune t).locate address = .ok q := by
  obtain ⟨hcheck, hfollow⟩ := locate_eq_ok_iff.mp h
  have hdirs : ∀ p cs, d.follow p cs = .ok q → d.node? p = some .dir →
      (d.prune t).node? p = some .dir := by
    intro p cs hp hdir
    rw [node?_prune d ht0, if_neg fun hprefix => hq (prefix_of_follow ht hprefix hp), hdir]
  have hlimits : (d.prune t).limits = d.limits := rfl
  exact locate_eq_ok_iff.mpr ⟨hcheck, follow_of_dirs hlimits hdirs hfollow⟩

theorem Unlimited.setNode {d : Disk} (hd : d.Unlimited) (p : Path) (n : Node) :
    (d.setNode p n).Unlimited := ⟨hd.name, hd.address⟩

/-! ## Listing a directory -/

theorem eq_append_of_nameAt {p q : Path} {name : String}
    (h : (match q.getLast? with
      | some last => if q.dropLast = p then some last else none
      | none => none) = some name) : q = p ++ [name] := by
  split at h
  · next last hlast =>
    split at h
    · next hdrop =>
      rw [← hdrop, ← Option.some.inj h]
      exact (List.dropLast_append_getLast? _ hlast).symm
    · exact nomatch h
  · exact nomatch h

theorem mem_namesAt {d : Disk} {p : Path} {name : String} :
    name ∈ d.namesAt p ↔ (d.nodes.get? (p ++ [name])).isSome := by
  rw [namesAt, List.mem_filterMap, Option.isSome_iff_exists]
  constructor
  · rintro ⟨q, hq, hname⟩
    obtain ⟨e, he, rfl⟩ := List.mem_map.mp hq
    exact ⟨e.2, Dict.get?_eq_some_iff.mpr (eq_append_of_nameAt hname ▸ he)⟩
  · rintro ⟨n, hn⟩
    exact ⟨p ++ [name], List.mem_map_of_mem (Dict.get?_eq_some_iff.mp hn), by simp⟩

/-- The names in a directory depend on what stands right below it. -/
theorem namesAt_congr {d d' : Disk} {p : Path}
    (h : ∀ name, d'.node? (p ++ [name]) = d.node? (p ++ [name])) :
    d'.namesAt p = d.namesAt p := by
  refine Dict.filterMap_keys_congr fun q hq => ?_
  obtain ⟨name, hname⟩ := Option.ne_none_iff_exists'.mp hq
  rw [eq_append_of_nameAt hname, ← node?_of_ne_nil d' (by simp), h name,
    node?_of_ne_nil d (by simp)]

theorem nodup_namesAt (d : Disk) (p : Path) : (d.namesAt p).Nodup := by
  have hkeys : d.nodes.keys.Nodup :=
    (List.pairwise_map.mpr d.nodes.sorted).imp fun {a b} hlt (heq : a = b) =>
      KeyOrder.irrefl b (heq ▸ hlt)
  exact hkeys.filterMap fun q q' name hq hq' =>
    (eq_append_of_nameAt hq).trans (eq_append_of_nameAt hq').symm

/-! ## Replacing a file -/

theorem create_eq {d : Disk} {address : String} {p : Path} (hp : d.locate address = .ok p)
    (hnode : d.node? p ≠ some .dir) : d.create address = .ok (d.setNode p (.file [])) := by
  rw [create, hp]
  simp only [bind, Except.bind]

theorem create_eq_ok_iff {d d' : Disk} {address : String} :
    d.create address = .ok d' ↔ ∃ p, d.locate address = .ok p ∧ d.node? p ≠ some .dir ∧
      d' = d.setNode p (.file []) := by
  cases hp : d.locate address with
  | error e => simp [create, hp, bind, Except.bind]
  | ok p =>
      by_cases hnode : d.node? p = some .dir
      · simp [create, hp, hnode, bind, Except.bind]
      · rw [create_eq hp hnode]
        constructor
        · intro h
          exact ⟨p, rfl, hnode, (Except.ok.inj h).symm⟩
        · rintro ⟨p', hp', -, rfl⟩
          rw [Except.ok.inj hp']

theorem append_eq {d : Disk} {address : String} {p : Path} {old : Bytes}
    (hp : d.locate address = .ok p) (hnode : d.node? p = some (.file old)) (content : Bytes) :
    d.append address content = .ok (d.setNode p (.file (old ++ content))) := by
  rw [append, hp]
  simp only [bind, Except.bind, hnode]

/-- What is appended to is a file. -/
theorem append_eq_ok_iff {d d' : Disk} {address : String} {content : Bytes} :
    d.append address content = .ok d' ↔ ∃ p old, d.locate address = .ok p ∧
      d.node? p = some (.file old) ∧ d' = d.setNode p (.file (old ++ content)) := by
  constructor
  · intro h
    cases hp : d.locate address with
    | error e => rw [append, hp] at h; cases h
    | ok p =>
        cases hnode : d.node? p with
        | none => simp [append, hp, hnode, bind, Except.bind] at h
        | some n =>
            cases n with
            | dir => simp [append, hp, hnode, bind, Except.bind] at h
            | file old =>
                rw [append_eq hp hnode] at h
                exact ⟨p, old, rfl, hnode, (Except.ok.inj h).symm⟩
  · rintro ⟨p, old, hp, hnode, rfl⟩
    exact append_eq hp hnode content

theorem rename_eq {d : Disk} {source target : String} {p q : Path} {content : Bytes}
    (hp : d.locate source = .ok p) (hq : d.locate target = .ok q) (hpq : p ≠ q)
    (hnode : d.node? p = some (.file content)) (htarget : d.node? q ≠ some .dir) :
    d.rename source target = .ok ((d.prune p).setNode q (.file content)) := by
  rw [rename, hp, hq]
  simp only [bind, Except.bind, hnode, if_neg htarget, if_neg hpq]

theorem rename_cases {d d' : Disk} {source target : String} (h : d.rename source target = .ok d') :
    ∃ p q content, d.locate source = .ok p ∧ d.locate target = .ok q ∧
      d.node? p = some (.file content) ∧ d.node? q ≠ some .dir ∧
      d' = if p = q then d else (d.prune p).setNode q (.file content) := by
  rw [rename] at h
  cases hp : d.locate source with
  | error e => simp [hp, bind, Except.bind] at h
  | ok p =>
      cases hq : d.locate target with
      | error e => simp [hp, hq, bind, Except.bind] at h
      | ok q =>
          simp only [hp, hq, bind, Except.bind] at h
          split at h
          · next content hfile =>
            split at h
            · exact nomatch h
            · next hdir =>
              refine ⟨p, q, content, rfl, rfl, hfile, hdir, ?_⟩
              split at h
              · next hpq => rw [if_pos hpq, Except.ok.inj h]
              · next hpq => rw [if_neg hpq, Except.ok.inj h]
          · exact nomatch h
          · exact nomatch h

/-- Writing the temporary file works if it can be created. What is left is to
rename it. -/
theorem replaceFile_of_locate {d : Disk} {dir name : String} {q : Path}
    (hq : d.locate (child dir (withEnding name "tmp")) = .ok q) (hnode : d.node? q ≠ some .dir)
    (content : Bytes) :
    d.replaceFile dir name content =
      match (d.setNode q (.file content)).rename (child dir (withEnding name "tmp"))
        (child dir name) with
      | .ok d' => (.ok (), d')
      | .error e => (.error e, d.setNode q (.file content)) := by
  have hq0 : q ≠ [] := by
    rintro rfl
    exact hnode rfl
  have hlocate := (keepsDirs_setNode hq0 hnode (.file [])).locate hq
  have happend := append_eq hlocate (node?_setNode_self d hq0 _) content
  rw [setNode_setNode, List.nil_append] at happend
  cases hrename : (d.setNode q (.file content)).rename (child dir (withEnding name "tmp"))
      (child dir name) <;>
    simp only [replaceFile, replaceSteps, run, Step.apply, create_eq hq hnode, happend, hrename]

/-- Nothing happens if there is no way to the temporary file. -/
theorem replaceFile_of_error {d : Disk} {dir name : String} {e : DiskError}
    (h : d.locate (child dir (withEnding name "tmp")) = .error e) (content : Bytes) :
    d.replaceFile dir name content = (.error e, d) := by
  simp [replaceFile, replaceSteps, run, Step.apply, create, h, bind, Except.bind]

/-- Nothing happens if a directory has the name of the temporary file. -/
theorem replaceFile_of_isDir {d : Disk} {dir name : String} {q : Path}
    (hq : d.locate (child dir (withEnding name "tmp")) = .ok q) (hnode : d.node? q = some .dir)
    (content : Bytes) : d.replaceFile dir name content = (.error .isDirectory, d) := by
  simp [replaceFile, replaceSteps, run, Step.apply, create, hq, hnode, bind, Except.bind]

/-- The tree with the temporary file of a name. -/
def withTemporary (d : Disk) (dir : Path) (name : String) (content : Bytes) : Disk :=
  d.setNode (dir ++ [withEnding name "tmp"]) (.file content)

/-- The tree in which a temporary file was given the name. -/
def withReplaced (d : Disk) (dir : Path) (name : String) (content : Bytes) : Disk :=
  ((d.withTemporary dir name content).prune (dir ++ [withEnding name "tmp"])).setNode
    (dir ++ [name]) (.file content)

/-- Everything that replacing a file can do. If it fails, the temporary file
may be left behind. -/
theorem replaceFile_cases {d : Disk} {dir name : String} (hne : dir ≠ "") (hn : PlainName name)
    (ht : PlainName (withEnding name "tmp")) (htn : withEnding name "tmp" ≠ name)
    (content : Bytes) :
    (∃ e, d.replaceFile dir name content = (.error e, d)) ∨
      ∃ p, d.locate dir = .ok p ∧ d.node? p = some .dir ∧
        d.node? (p ++ [withEnding name "tmp"]) ≠ some .dir ∧
        ((∃ e, d.replaceFile dir name content = (.error e, d.withTemporary p name content)) ∨
          d.node? (p ++ [name]) ≠ some .dir ∧
            d.replaceFile dir name content = (.ok (), d.withReplaced p name content)) := by
  cases hq : d.locate (child dir (withEnding name "tmp")) with
  | error e => exact .inl ⟨e, replaceFile_of_error hq content⟩
  | ok q =>
      obtain ⟨-, p, hp, hnode, rfl⟩ := (locate_child_eq_ok_iff hne ht).mp hq
      by_cases htmp : d.node? (p ++ [withEnding name "tmp"]) = some .dir
      · exact .inl ⟨.isDirectory, replaceFile_of_isDir hq htmp content⟩
      right
      refine ⟨p, hp, hnode, htmp, ?_⟩
      have hpath : ∀ n : String, p ++ [n] ≠ [] := by simp
      have hpaths : p ++ [withEnding name "tmp"] ≠ p ++ [name] := by simpa using htn
      have hkeeps := keepsDirs_setNode (hpath _) htmp (.file content)
      rw [replaceFile_of_locate hq htmp]
      cases hr : (d.setNode (p ++ [withEnding name "tmp"]) (.file content)).rename
          (child dir (withEnding name "tmp")) (child dir name) with
      | error e => exact .inl ⟨e, rfl⟩
      | ok d' =>
          right
          obtain ⟨q, q', content', hsource, htarget, hfile, hdir, rfl⟩ := rename_cases hr
          obtain rfl := Except.ok.inj (hsource.symm.trans (hkeeps.locate hq))
          obtain ⟨-, p', hp', -, rfl⟩ := (locate_child_eq_ok_iff hne hn).mp htarget
          obtain rfl := Except.ok.inj (hp'.symm.trans (hkeeps.locate hp))
          rw [node?_setNode_self d (hpath _)] at hfile
          rw [node?_setNode_of_ne d (hpath _) hpaths] at hdir
          cases hfile
          exact ⟨hdir, by rw [if_neg hpaths]; rfl⟩

/-- A file is not written where it has no room. -/
theorem fits_of_replaceFile {d d' : Disk} {dir name : String} (hne : dir ≠ "") (hn : PlainName name)
    {content : Bytes} (h : d.replaceFile dir name content = (.ok (), d')) :
    Fits d.limits dir name := by
  cases hq : d.locate (child dir (withEnding name "tmp")) with
  | error e => exact nomatch (replaceFile_of_error hq content).symm.trans h
  | ok q =>
      by_cases htmp : d.node? q = some .dir
      · exact nomatch (replaceFile_of_isDir hq htmp content).symm.trans h
      · rw [replaceFile_of_locate hq htmp] at h
        split at h
        · next hrename =>
          obtain ⟨-, q', -, -, htarget, -⟩ := rename_cases hrename
          exact ((locate_child_eq_ok_iff hne hn).mp htarget).1
        · cases h

/-- Without room for the temporary file, nothing is written. -/
theorem replaceFile_of_not_fits {d : Disk} {dir name : String} {p : Path}
    (hdir : d.locate dir = .ok p) (hnode : d.node? p = some .dir)
    (ht : PlainName (withEnding name "tmp")) (hfits : ¬Fits d.limits dir (withEnding name "tmp"))
    (content : Bytes) : d.replaceFile dir name content = (.error .nameTooLong, d) :=
  replaceFile_of_error (locate_child_of_not_fits hdir hnode ht hfits) content

/-- Replacing a file changes this file and nothing else. -/
theorem replaceFile_eq {d : Disk} {dir name : String} {p : Path}
    (hdir : d.locate dir = .ok p) (hnode : d.node? p = some .dir) (hn : PlainName name)
    (ht : PlainName (withEnding name "tmp")) (hne : withEnding name "tmp" ≠ name)
    (hfits : Fits d.limits dir name) (hfits' : Fits d.limits dir (withEnding name "tmp"))
    (hfree : ∀ q, p ++ [withEnding name "tmp"] <+: q → d.nodes.get? q = none)
    (htarget : d.node? (p ++ [name]) ≠ some .dir) (content : Bytes) :
    d.replaceFile dir name content = (.ok (), d.setNode (p ++ [name]) (.file content)) := by
  have hpath : ∀ n : String, p ++ [n] ≠ [] := by simp
  have hpaths : p ++ [withEnding name "tmp"] ≠ p ++ [name] := by simpa using hne
  have hnone : d.node? (p ++ [withEnding name "tmp"]) ≠ some .dir := by
    rw [node?_of_ne_nil d (hpath _), hfree _ List.prefix_rfl]
    simp
  have hlocate : ∀ {n : String}, PlainName n → Fits d.limits dir n →
      d.locate (child dir n) = .ok (p ++ [n]) := fun hn hfits =>
    (locate_child_eq_ok_iff (ne_empty_of_locate hdir) hn).mpr ⟨hfits, p, hdir, hnode, rfl⟩
  -- The directory stays where it is while the temporary file is written.
  have hkeeps := keepsDirs_setNode (hpath _) hnone (.file content)
  have hrename := rename_eq (hkeeps.locate (hlocate ht hfits')) (hkeeps.locate (hlocate hn hfits))
    hpaths (node?_setNode_self d (hpath _) _) (by rwa [node?_setNode_of_ne d (hpath _) hpaths])
  have hprune : (d.setNode (p ++ [withEnding name "tmp"]) (.file content)).prune
      (p ++ [withEnding name "tmp"]) = d := prune_eq rfl rfl hfree fun q hq =>
    Dict.get?_insert_of_ne _ (by rintro rfl; exact hq List.prefix_rfl) _
  rw [replaceFile_of_locate (hlocate ht hfits') hnone, hrename, hprune]

/-! ## Making directories -/

theorem dropTrailing_append {cs : List String} {name : String} (h : name ≠ "") :
    dropTrailing (cs ++ [name]) = cs ++ [name] := by
  simp [dropTrailing, h]

/-- What is dropped are empty components, and all of them. -/
theorem exists_dropTrailing (cs : List String) :
    ∃ k, cs = dropTrailing cs ++ List.replicate k "" ∧
      ∀ name, (dropTrailing cs).getLast? = some name → name ≠ "" := by
  refine ⟨(cs.reverse.takeWhile (· = "")).length, ?_, fun name hname => ?_⟩
  · have hempty : cs.reverse.takeWhile (· = "") =
        List.replicate (cs.reverse.takeWhile (· = "")).length "" :=
      List.eq_replicate_of_mem fun c hc =>
        of_decide_eq_true (List.all_eq_true.mp List.all_takeWhile c hc)
    have hcs := congrArg List.reverse
      (List.takeWhile_append_dropWhile (p := (· = "")) (l := cs.reverse)).symm
    rw [List.reverse_reverse, List.reverse_append, hempty, List.reverse_replicate] at hcs
    exact hcs
  · rw [dropTrailing, List.getLast?_reverse] at hname
    have hkept := List.head?_dropWhile_not (· = "") cs.reverse
    rw [hname] at hkept
    simpa using hkept

theorem eq_of_follow_replicate {d : Disk} {p q : Path} {k : Nat}
    (h : d.follow p (List.replicate k "") = .ok q) : p = q := by
  induction k with
  | zero => exact Except.ok.inj h
  | succ k ih =>
      rw [List.replicate_succ, follow] at h
      split at h
      · cases h
      · cases h
      · exact ih (by simpa using h)

/-- A directory that is there is not made again. -/
theorem makeDir_of_isDir {d : Disk} {address : String} (h : d.isDir address = true) :
    d.makeDir address = .error .exists := by
  obtain ⟨p, hp, hnode⟩ := isDir_iff.mp h
  obtain ⟨hcheck, hfollow⟩ := locate_eq_ok_iff.mp hp
  obtain ⟨k, hcs, hname⟩ := exists_dropTrailing (components address)
  rw [makeDir, hcheck]
  simp only [bind, Except.bind]
  cases hlast : (dropTrailing (components address)).getLast? with
  | none => rfl
  | some name =>
      obtain ⟨init, hinit⟩ := List.getLast?_eq_some_iff.mp hlast
      -- The slashes at the end stay at the directory.
      have hway : d.follow (d.startOf address) (init ++ [name]) = .ok p := by
        rw [hcs, hinit, follow_append] at hfollow
        cases hq : d.follow (d.startOf address) (init ++ [name]) with
        | error e =>
            rw [hq] at hfollow
            cases hfollow
        | ok q =>
            rw [hq] at hfollow
            rw [eq_of_follow_replicate hfollow]
      rw [follow_append] at hway
      cases hq : d.follow (d.startOf address) init with
      | error e =>
          rw [hq] at hway
          cases hway
      | ok q =>
          rw [hq] at hway
          simp only [Except.bind, follow] at hway
          split at hway
          · cases hway
          · cases hway
          · next hdir =>
            have habove := follow_slash_eq_ok_iff.mpr ⟨hq, hdir⟩
            have hne := hname name hlast
            simp only [hinit, List.dropLast_concat, habove]
            by_cases hup : name = "." ∨ name = ".."
            · rw [if_pos hup]
            · rw [if_neg (not_or.mpr ⟨hne, (not_or.mp hup).1⟩), if_neg (not_or.mp hup).2] at hway
              rw [if_neg hup]
              split at hway
              · cases hway
              · next hlimit =>
                rw [if_neg hlimit, Except.ok.inj hway, hnode]
                rfl

theorem follow_replicate {d : Disk} {p : Path} (h : d.node? p = some .dir) (k : Nat) :
    d.follow p (List.replicate k "") = .ok p := by
  induction k with
  | zero => rfl
  | succ k ih =>
      rw [List.replicate_succ, follow, h]
      simpa using ih

/-- A directory that is made was missing, and its address leads to it. -/
theorem makeDir_cases {d d' : Disk} {address : String} (h : d.makeDir address = .ok d') :
    ∃ q, q ≠ [] ∧ d.node? q = none ∧ d' = d.setNode q .dir ∧ d'.locate address = .ok q := by
  rw [makeDir] at h
  cases hcheck : d.checkAddress address with
  | error e => simp [hcheck, bind, Except.bind] at h
  | ok u =>
      obtain ⟨k, hcs, hlast⟩ := exists_dropTrailing (components address)
      simp only [hcheck, bind, Except.bind] at h
      split at h
      · cases h
      next name hname =>
      split at h
      · cases h
      next p hway =>
      split at h
      · cases h
      next hdots =>
      split at h
      · cases h
      next hlimit =>
      split at h
      · cases h
      next hnone =>
      obtain rfl := Except.ok.inj h
      obtain ⟨init, hinit⟩ := List.getLast?_eq_some_iff.mp hname
      have hmissing : d.node? (p ++ [name]) = none := by simpa using hnone
      have hmem : name ∈ components address := by
        rw [hcs, hinit]
        simp
      have hplain : PlainName name :=
        ⟨noSlash_of_mem_components hmem,
          fun hnul => (checkAddress_eq_ok_iff.mp hcheck).1 (mem_toList_of_mem_components hmem hnul),
          hlast name hname, fun hdot => hdots (.inl hdot), fun hup => hdots (.inr hup)⟩
      rw [hinit, List.dropLast_concat] at hway
      obtain ⟨hp, hnode⟩ := follow_slash_eq_ok_iff.mp hway
      have hkeeps : KeepsDirs d (d.setNode (p ++ [name]) .dir) :=
        keepsDirs_setNode (by simp) (by simp [hmissing]) .dir
      have hfollow := hkeeps.follow ((follow_name_eq_ok_iff hplain).mpr
        ⟨Bool.eq_false_iff.mpr hlimit, p, hp, hnode, rfl⟩)
      refine ⟨p ++ [name], by simp, hmissing, rfl, locate_eq_ok_iff.mpr ⟨hcheck, ?_⟩⟩
      -- The slashes at the end stay at the new directory.
      rw [hcs, hinit, follow_append]
      have hstart : (d.setNode (p ++ [name]) .dir).startOf address = d.startOf address := rfl
      rw [hstart, hfollow]
      exact follow_replicate (node?_setNode_self d (by simp) _) k

theorem isDir_of_makeDir {d d' : Disk} {address : String} (h : d.makeDir address = .ok d') :
    d'.isDir address = true := by
  obtain ⟨q, hq, -, rfl, hlocate⟩ := makeDir_cases h
  exact isDir_iff.mpr ⟨q, hlocate, node?_setNode_self d hq _⟩

theorem ensureDir_of_isDir {d : Disk} {address : String} (h : d.isDir address = true) :
    d.ensureDir address = (.ok (), d) := by
  obtain ⟨p, hp, -⟩ := isDir_iff.mp h
  rw [ensureDir, ensureFirst, if_neg (ne_empty_of_locate hp), makeDir_of_isDir h]
  simp only [h, if_true]

/-- Making a directory looks for the directory above it first. -/
theorem makeDir_eq {d : Disk} {address name : String} {cs : List String}
    (hcheck : d.checkAddress address = .ok ()) (hcs : components address = cs ++ [name])
    (hn : PlainName name) :
    d.makeDir address = (d.follow (d.startOf address) (cs ++ [""])).bind fun p =>
      if exceeds d.limits.name name then .error .nameTooLong
      else if (d.node? (p ++ [name])).isSome then .error .exists
      else .ok (d.setNode (p ++ [name]) .dir) := by
  rw [makeDir, hcheck, hcs, dropTrailing_append hn.ne_empty]
  simp [bind, hn.ne_dot, hn.ne_dotdot, Except.bind]

theorem makeDir_of_checkAddress {d : Disk} {address : String} {e : DiskError}
    (hcheck : d.checkAddress address = .error e) : d.makeDir address = .error e := by
  rw [makeDir, hcheck]
  rfl

theorem makeDir_child {d : Disk} (hd : d.Unlimited) {dir name : String} {p : Path}
    (hdir : d.locate dir = .ok p) (hn : PlainName name) :
    d.makeDir (child dir name) = match d.node? p with
      | none => .error .notFound
      | some (.file _) => .error .notDirectory
      | some .dir =>
          if (d.node? (p ++ [name])).isSome then .error .exists
          else .ok (d.setNode (p ++ [name]) .dir) := by
  obtain ⟨cs, hcs, hfollow, -⟩ := components_child_of_locate hdir hn
  have hfits := hd.fits dir name
  have hcheck := (checkAddress_child (ne_empty_of_locate hdir) hn).mpr
    ⟨(locate_eq_ok_iff.mp hdir).1, hfits.address⟩
  rw [makeDir_eq hcheck hcs hn, hfollow, follow_stay, hfits.name]
  cases d.node? p with
  | none => rfl
  | some n => cases n <;> rfl

/-- On any tree, a directory is made where there is room for it and nothing
else. -/
theorem makeDir_child_eq_ok_iff {d d' : Disk} {dir name : String} (hne : dir ≠ "")
    (hn : PlainName name) :
    d.makeDir (child dir name) = .ok d' ↔ Fits d.limits dir name ∧
      ∃ p, d.locate dir = .ok p ∧ d.node? p = some .dir ∧ d.node? (p ++ [name]) = none ∧
        d' = d.setNode (p ++ [name]) .dir := by
  obtain ⟨cs, hcs, hway⟩ := exists_way_child (d := d) hne hn.noSlash
  constructor
  · intro h
    cases hcheck : d.checkAddress (child dir name) with
    | error e => exact nomatch (makeDir_of_checkAddress hcheck).symm.trans h
    | ok u =>
        obtain ⟨hdir, haddress⟩ := (checkAddress_child hne hn).mp hcheck
        rw [makeDir_eq hcheck hcs hn] at h
        cases hfollow : d.follow (d.startOf (child dir name)) (cs ++ [""]) with
        | error e =>
            rw [hfollow] at h
            cases h
        | ok p =>
            rw [hfollow, Except.bind] at h
            obtain ⟨hp, hnode⟩ := follow_slash_eq_ok_iff.mp hfollow
            split at h
            · cases h
            next hname =>
            split at h
            · cases h
            next hnone =>
            exact ⟨⟨haddress, Bool.eq_false_iff.mpr hname⟩, p,
              locate_eq_ok_iff.mpr ⟨hdir, (hway p hnode).mpr hp⟩, hnode, by simpa using hnone,
              (Except.ok.inj h).symm⟩
  · rintro ⟨hfits, p, hp, hnode, hnone, rfl⟩
    obtain ⟨hcheck, hfollow⟩ := locate_eq_ok_iff.mp hp
    rw [makeDir_eq ((checkAddress_child hne hn).mpr ⟨hcheck, hfits.address⟩) hcs hn,
      follow_slash_eq_ok_iff.mpr ⟨(hway p hnode).mp hfollow, hnode⟩, Except.bind, hfits.name, hnone]
    rfl

/-! ### Directories above an address -/

/-- Components that do not count can be left out. -/
theorem follow_filter {d : Disk} {p q : Path} {cs : List String} (h : d.follow p cs = .ok q) :
    d.follow p (cs.filter fun c => c ≠ "" ∧ c ≠ ".") = .ok q := by
  induction cs generalizing p with
  | nil => exact h
  | cons c r ih =>
      by_cases hc : c = "" ∨ c = "."
      · have hdrop : ¬(c ≠ "" ∧ c ≠ ".") := fun hkeep => hc.elim hkeep.1 hkeep.2
        rw [List.filter_cons_of_neg (by simpa using hdrop)]
        rw [follow] at h
        split at h
        · cases h
        · cases h
        · rw [if_pos hc] at h
          exact ih h
      · have hkeep : c ≠ "" ∧ c ≠ "." := not_or.mp hc
        rw [List.filter_cons_of_pos (by simpa using hkeep), ← List.singleton_append, follow_append]
        rw [← List.singleton_append, follow_append] at h
        cases hq : d.follow p [c] with
        | error e => rw [hq] at h; cases h
        | ok p' =>
            rw [hq] at h
            exact ih h

/-- The components that count are components, and not empty. -/
theorem mem_upComponents {address c : String} (h : c ∈ upComponents address) :
    c ∈ components address ∧ c ≠ "" := by
  rw [upComponents] at h
  split at h
  · exact absurd h List.not_mem_nil
  · next c' r hcs =>
    rw [hcs]
    rcases List.mem_append.mp h with h | h
    · split at h
      · exact absurd h List.not_mem_nil
      · next hc =>
        obtain rfl := List.mem_singleton.mp h
        exact ⟨List.mem_cons_self .., hc⟩
    · obtain ⟨hr, hc⟩ := List.mem_filter.mp h
      exact ⟨List.mem_cons_of_mem _ hr, (of_decide_eq_true hc).1⟩

theorem components_stem {address : String} {n : Nat}
    (hne : (upComponents address).take n ≠ []) :
    components (stem address n) =
      (if isAbsolute address then [""] else []) ++ (upComponents address).take n := by
  have hpieces : pieces '/' (joinPieces '/' (((upComponents address).take n).map String.toList))
      = ((upComponents address).take n).map String.toList := by
    refine pieces_joinPieces (by simpa using hne) fun p hp => ?_
    obtain ⟨c, hc, rfl⟩ := List.mem_map.mp hp
    exact noSlash_of_mem_components (mem_upComponents (List.mem_of_mem_take hc)).1
  have hback : (((upComponents address).take n).map String.toList).map String.ofList
      = (upComponents address).take n := by
    rw [List.map_map]
    exact (List.map_congr_left fun c _ => String.ofList_toList).trans (List.map_id _)
  rw [components, stem, String.toList_ofList]
  by_cases h : isAbsolute address
  · rw [if_pos h, if_pos h, pieces, if_pos rfl, hpieces, List.map_cons, hback]
    rfl
  · rw [if_neg h, if_neg h, hpieces, hback]
    rfl

/-- The first component of an address is empty if the address is absolute. -/
theorem components_eq_cons {address : String} (h : address ≠ "") :
    ∃ c r, components address = c :: r ∧ (c = "" ↔ isAbsolute address = true) := by
  obtain ⟨x, xs, hlist⟩ :=
    List.exists_cons_of_ne_nil fun hnil => h (String.toList_eq_nil_iff.mp hnil)
  rw [components, isAbsolute, hlist, pieces]
  split
  · next hx => exact ⟨"", _, rfl, by simp [hx]⟩
  · next hx =>
    split
    · exact ⟨String.ofList [x], _, rfl, by simp [hx]⟩
    · exact ⟨_, _, rfl, by simp [hx]⟩

theorem upComponents_child {dir name : String} (hdir : dir ≠ "") (hn : PlainName name) :
    upComponents (child dir name) = upComponents dir ++ [name] := by
  obtain ⟨c, r, hc, habs⟩ := components_eq_cons hdir
  have hkeep : [name].filter (fun c => c ≠ "" ∧ c ≠ ".") = [name] := by
    simp [hn.ne_empty, hn.ne_dot]
  obtain ⟨cs, hcs, hdir' | hdir'⟩ := components_child hdir hn.noSlash
  · rw [upComponents, upComponents, hcs, ← hdir', hc]
    simp only [List.cons_append, List.filter_append, hkeep, List.append_assoc]
  · cases cs with
    | nil =>
        -- Only the empty address has an empty component and no other.
        have hempty : joinPieces '/' (pieces '/' dir.toList) = [] := by
          have hone : (pieces '/' dir.toList).map String.ofList = [""] := hdir'
          obtain ⟨p, hp, hp'⟩ := List.map_eq_singleton_iff.mp hone
          rw [hp, joinPieces]
          simpa using hp'
        rw [joinPieces_pieces] at hempty
        exact absurd (String.toList_eq_nil_iff.mp hempty) hdir
    | cons c' r' =>
        rw [upComponents, upComponents, hcs, hdir']
        simp [hn.ne_empty, hn.ne_dot]

/-- The components of an absolute address begin with an empty one, which
`upComponents` leaves out. -/
theorem follow_upComponents {d : Disk} {address : String} {p : Path} (hne : address ≠ "")
    (h : d.follow (d.startOf address) (components address) = .ok p) :
    d.follow (d.startOf address)
      ((if isAbsolute address then [""] else []) ++ upComponents address) = .ok p := by
  obtain ⟨c, r, hc, habs⟩ := components_eq_cons hne
  have hcs : (if isAbsolute address then [""] else []) ++ upComponents address
      = [c] ++ r.filter fun c => c ≠ "" ∧ c ≠ "." := by
    rw [upComponents, hc]
    by_cases hempty : c = ""
    · simp [hempty, habs.mp hempty]
    · simp [hempty, Bool.eq_false_iff.mpr fun h => hempty (habs.mpr h)]
  rw [hcs, follow_append]
  rw [hc, ← List.singleton_append, follow_append] at h
  cases hq : d.follow (d.startOf address) [c] with
  | error e => rw [hq] at h; exact nomatch h
  | ok q =>
      rw [hq] at h
      exact follow_filter h

/-- The address of the directory above a name, as going up makes it. -/
def stemAbove (root name sub : String) : String :=
  stem (child (child root name) sub) ((upComponents root).length + 1)

/-- The directory above a name below a directory that is there, as going up
makes it: its address is not empty, and nothing above it is missing. -/
theorem makeDir_stemAbove {d : Disk} {root name sub : String} {p : Path}
    (hroot : d.locate root = .ok p) (hnode : d.node? p = some .dir) (hn : PlainName name)
    (hs : PlainName sub) :
    stemAbove root name sub ≠ "" ∧
      d.makeDir (stemAbove root name sub) =
        if exceeds d.limits.address (stemAbove root name sub) ∨ exceeds d.limits.name name then
          .error .nameTooLong
        else if (d.node? (p ++ [name])).isSome then .error .exists
        else .ok (d.setNode (p ++ [name]) .dir) := by
  obtain ⟨hcheck, hfollow⟩ := locate_eq_ok_iff.mp hroot
  obtain ⟨hnul, hne, -⟩ := checkAddress_eq_ok_iff.mp hcheck
  have habs : isAbsolute (child (child root name) sub) = isAbsolute root := by
    rw [isAbsolute_child (child_ne_empty hne name), isAbsolute_child hne]
  have htake : (upComponents (child (child root name) sub)).take ((upComponents root).length + 1)
      = upComponents root ++ [name] := by
    rw [upComponents_child (child_ne_empty hne name) hs, upComponents_child hne hn,
      List.take_append_of_le_length (by simp), List.take_of_length_le (by simp)]
  rw [stemAbove]
  generalize haddress : stem (child (child root name) sub) ((upComponents root).length + 1) = a
  have hcs : components a
      = ((if isAbsolute root then [""] else []) ++ upComponents root) ++ [name] := by
    rw [← haddress, components_stem (by rw [htake]; simp), habs, htake, List.append_assoc]
  have hnul' : '\x00' ∉ a.toList := by
    intro h
    obtain ⟨c, hc, hmem⟩ := (exists_component_of_mem_toList h).resolve_left (by decide)
    rw [hcs] at hc
    rcases List.mem_append.mp hc with hc | hc
    · rcases List.mem_append.mp hc with hc | hc
      · split at hc
        · exact absurd (List.mem_singleton.mp hc ▸ hmem) (by simp)
        · exact absurd hc List.not_mem_nil
      · exact hnul (mem_toList_of_mem_components (mem_upComponents hc).1 hmem)
    · exact hn.noNul (List.mem_singleton.mp hc ▸ hmem)
  have hne' : a ≠ "" := by
    rintro rfl
    have hlast : [""] =
        ((if isAbsolute root then [""] else []) ++ upComponents root) ++ [name] := hcs
    exact hn.ne_empty (by simpa using (congrArg List.getLast? hlast).symm)
  have hstart : d.startOf a = d.startOf root := by
    obtain ⟨c, r, hc, hiff⟩ := components_eq_cons hne'
    rw [hc] at hcs
    suffices isAbsolute a = isAbsolute root by rw [startOf, startOf, this]
    by_cases h : isAbsolute root
    · rw [if_pos h, List.append_assoc] at hcs
      rw [h, ← hiff]
      exact (List.cons.inj hcs).1
    · rw [if_neg h, List.nil_append] at hcs
      rw [Bool.eq_false_iff.mpr h, Bool.eq_false_iff, ne_eq, ← hiff]
      have hmem : c ∈ upComponents root ++ [name] := hcs ▸ List.mem_cons_self ..
      rcases List.mem_append.mp hmem with hmem | hmem
      · exact (mem_upComponents hmem).2
      · exact List.mem_singleton.mp hmem ▸ hn.ne_empty
  refine ⟨hne', ?_⟩
  cases hlimit : exceeds d.limits.address a with
  | true =>
      have hrefused : d.checkAddress a = .error .nameTooLong := by
        rw [checkAddress, if_neg hnul', if_neg hne', hlimit]
        rfl
      rw [makeDir_of_checkAddress hrefused]
      rfl
  | false =>
      rw [makeDir_eq (checkAddress_eq_ok_iff.mpr ⟨hnul', hne', hlimit⟩) hcs hn, hstart,
        follow_append, follow_upComponents hne hfollow, Except.bind, follow_stay, hnode]
      simp only [Except.bind, Bool.false_eq_true, false_or]

/-- Going up from a name finds the directory above it first. -/
theorem ancestors_child {root name sub : String} (hne : root ≠ "") (hn : PlainName name)
    (hs : PlainName sub) :
    ∃ up, ancestors (child (child root name) sub) = stemAbove root name sub :: up := by
  refine ⟨(List.range ((upComponents root).length + 1)).reverse.map
    (stem (child (child root name) sub)), ?_⟩
  rw [ancestors, upComponents_child (child_ne_empty hne name) hs, upComponents_child hne hn]
  simp [List.range_succ, stemAbove]

/-- Going up makes the directory above a name, or it changes nothing. -/
theorem ensureFirst_stemAbove {d : Disk} {root name sub : String} {p : Path}
    (hroot : d.locate root = .ok p) (hnode : d.node? p = some .dir) (hn : PlainName name)
    (hs : PlainName sub) (up : List String) :
    (ensureFirst (stemAbove root name sub :: up) d).2 = d ∨
      d.node? (p ++ [name]) = none ∧
        (ensureFirst (stemAbove root name sub :: up) d).2 = d.setNode (p ++ [name]) .dir := by
  obtain ⟨hstem, habove⟩ := makeDir_stemAbove hroot hnode hn hs
  rw [ensureFirst, if_neg hstem, habove]
  by_cases hlimit : exceeds d.limits.address (stemAbove root name sub) ∨
      exceeds d.limits.name name
  · rw [if_pos hlimit]
    exact .inl rfl
  · rw [if_neg hlimit]
    cases hnode' : d.node? (p ++ [name]) with
    | some n => exact .inl rfl
    | none => exact .inr ⟨rfl, rfl⟩

/-- A directory is made together with the one above it, which is missing. -/
theorem ensureDir_below_missing {d : Disk} (hd : d.Unlimited) {root name sub : String} {p : Path}
    (hroot : d.locate root = .ok p) (hnode : d.node? p = some .dir) (hn : PlainName name)
    (hs : PlainName sub) (hnone : d.node? (p ++ [name]) = none)
    (hnone' : d.node? (p ++ [name] ++ [sub]) = none) :
    d.ensureDir (child (child root name) sub) =
      (.ok (), (d.setNode (p ++ [name]) .dir).setNode (p ++ [name] ++ [sub]) .dir) := by
  have hne := ne_empty_of_locate hroot
  have hpath : p ++ [name] ≠ [] := by simp
  have hdir := locate_child hd hroot hn
  rw [hnode] at hdir
  have hmissing : d.makeDir (child (child root name) sub) = .error .notFound := by
    rw [makeDir_child hd hdir hs, hnone]
  obtain ⟨hstem, habove⟩ := makeDir_stemAbove hroot hnode hn hs
  rw [hd.exceeds_address, (hd.fits root name).name, hnone] at habove
  have hkeeps : KeepsDirs d (d.setNode (p ++ [name]) .dir) :=
    keepsDirs_setNode hpath (by rw [hnone]; simp) .dir
  have hmade : (d.setNode (p ++ [name]) .dir).makeDir (child (child root name) sub)
      = .ok ((d.setNode (p ++ [name]) .dir).setNode (p ++ [name] ++ [sub]) .dir) := by
    rw [makeDir_child (hd.setNode ..) (hkeeps.locate hdir) hs, node?_setNode_self d hpath]
    simp only
    rw [node?_setNode_of_ne d hpath (by simp), hnone']
    rfl
  obtain ⟨up, hancestors⟩ := ancestors_child hne hn hs
  rw [ensureDir, ensureFirst, if_neg (child_ne_empty (child_ne_empty hne name) sub), hmissing,
    hancestors, ensureFirst, if_neg hstem, habove]
  simp only [Bool.false_eq_true, or_self, if_false, Option.isSome_none, hmade]

/-- On any tree, a directory two names below one that is there is made with
nothing but itself and the one above it. -/
theorem ensureDir_below_of_ok {d d' : Disk} {root name sub : String} {p : Path}
    (hroot : d.locate root = .ok p) (hnode : d.node? p = some .dir) (hn : PlainName name)
    (hs : PlainName sub) (h : d.ensureDir (child (child root name) sub) = (.ok (), d')) :
    d'.isDir (child (child root name) sub) = true ∧
      ∀ q, q ≠ p ++ [name] → q ≠ p ++ [name, sub] → d'.node? q = d.node? q := by
  have hne := ne_empty_of_locate hroot
  have hne' := child_ne_empty hne name
  have hmade : ∀ {e e' : Disk}, e.locate root = .ok p →
      e.makeDir (child (child root name) sub) = .ok e' →
      e'.isDir (child (child root name) sub) = true ∧
        ∀ q, q ≠ p ++ [name, sub] → e'.node? q = e.node? q := by
    intro e e' hroot' hmake
    obtain ⟨-, q, hq, -, -, rfl⟩ := (makeDir_child_eq_ok_iff hne' hs).mp hmake
    obtain ⟨-, p', hp', -, rfl⟩ := (locate_child_eq_ok_iff hne hn).mp hq
    obtain rfl := Except.ok.inj (hp'.symm.trans hroot')
    refine ⟨isDir_of_makeDir hmake, fun q hq => ?_⟩
    rw [List.append_assoc]
    exact node?_setNode_of_ne e (by simp) (Ne.symm hq) _
  obtain ⟨up, hancestors⟩ := ancestors_child hne hn hs
  rw [ensureDir, ensureFirst, if_neg (child_ne_empty hne' sub), hancestors] at h
  split at h
  · next hmake =>
    cases h
    exact ⟨(hmade hroot hmake).1, fun q _ hq => (hmade hroot hmake).2 q hq⟩
  · -- The directory above is missing, or the way to it is.
    split at h
    · cases h
    next d₁ hup =>
    have habove : d₁.locate root = .ok p ∧ ∀ q, q ≠ p ++ [name] → d₁.node? q = d.node? q := by
      have hcases := ensureFirst_stemAbove hroot hnode hn hs up
      rw [hup] at hcases
      rcases hcases with rfl | ⟨hnone, rfl⟩
      · exact ⟨hroot, fun _ _ => rfl⟩
      · exact ⟨(keepsDirs_setNode (by simp) (by simp [hnone]) .dir).locate hroot,
          fun q hq => node?_setNode_of_ne d (by simp) (Ne.symm hq) _⟩
    split at h
    · next hmake =>
      cases h
      refine ⟨(hmade habove.1 hmake).1, fun q hq hq' => ?_⟩
      rw [(hmade habove.1 hmake).2 q hq', habove.2 q hq]
    · split at h <;> cases h
      next hdir => exact ⟨hdir, fun q hq _ => habove.2 q hq⟩
  · split at h <;> cases h
    next hdir => exact ⟨hdir, fun _ _ _ => rfl⟩

end JobLedger.Disk

import JobLedger.Proofs.Disk.Change

/-!
# Addresses that lead the same way

Two absolute addresses that differ in nothing but single dots and slashes
(`SameWay`) lead on to the same files: whatever is done at an address below the
one (`SameWay.locate_child`), or at a directory that it leads to
(`SameWay.isDir_eq`), is done below the other. Only the lengths of the addresses
differ, so this is about trees that do not limit them.
-/

namespace JobLedger.Disk

/-! ## The same way -/

/-- The components of an address that lead on. -/
def names (address : String) : List String :=
  (components address).filter fun c => c ≠ "" ∧ c ≠ "."

/-- What stands in an address is in its names, apart from dots and slashes. -/
theorem mem_toList_iff_names {a : String} {x : Char} (hslash : x ≠ '/') (hdot : x ≠ '.') :
    x ∈ a.toList ↔ ∃ c ∈ names a, x ∈ c.toList := by
  constructor
  · intro hx
    obtain ⟨c, hc, hxc⟩ := (exists_component_of_mem_toList hx).resolve_left hslash
    have hempty : c ≠ "" := fun heq => by simp [heq] at hxc
    have hstay : c ≠ "." := fun heq => by simp [heq, hdot] at hxc
    exact ⟨c, List.mem_filter.mpr ⟨hc, decide_eq_true ⟨hempty, hstay⟩⟩, hxc⟩
  · rintro ⟨c, hc, hxc⟩
    exact mem_toList_of_mem_components (List.mem_of_mem_filter hc) hxc

/-- Two absolute addresses that lead the same way. -/
structure SameWay (a a' : String) : Prop where
  absolute : isAbsolute a = true
  absolute' : isAbsolute a' = true
  names_eq : names a' = names a

theorem ne_empty_of_isAbsolute {a : String} (h : isAbsolute a = true) : a ≠ "" := by
  rintro rfl
  exact absurd h (by decide)

theorem startOf_of_isAbsolute {a : String} (h : isAbsolute a = true) (d : Disk) :
    d.startOf a = [] := if_pos h

/-- Components that do not lead on can be left out, as long as something
follows. -/
theorem follow_filter_append (d : Disk) {rest : List String} (hrest : rest ≠ []) (p : Path)
    (cs : List String) :
    d.follow p (cs.filter (fun c => c ≠ "" ∧ c ≠ ".") ++ rest) = d.follow p (cs ++ rest) := by
  have hstuck : ∀ {p : Path} {cs cs' : List String}, cs ≠ [] → cs' ≠ [] →
      d.node? p ≠ some .dir → d.follow p cs = d.follow p cs' := by
    intro p cs cs' hcs hcs' hnode
    obtain ⟨c, r, rfl⟩ := List.exists_cons_of_ne_nil hcs
    obtain ⟨c', r', rfl⟩ := List.exists_cons_of_ne_nil hcs'
    rw [follow, follow]
    split
    · rfl
    · rfl
    · next h => exact absurd h hnode
  induction cs generalizing p with
  | nil => rfl
  | cons c cs ih =>
      by_cases hc : c ≠ "" ∧ c ≠ "."
      · have hcons : ∀ r, d.follow p (c :: r) = (d.follow p [c]).bind fun q => d.follow q r :=
          fun r => follow_append d p [c] r
        rw [List.filter_cons_of_pos (by simpa using hc), List.cons_append, List.cons_append]
        exact (hcons _).trans ((congrArg _ (funext fun q => ih q)).trans (hcons _).symm)
      · rw [List.filter_cons_of_neg (by simpa using hc), ih, List.cons_append]
        by_cases hnode : d.node? p = some .dir
        · rw [follow.eq_def d p (c :: _)]
          simp only [hnode]
          rw [if_pos (by tauto)]
        · exact hstuck (by simp [hrest]) (List.cons_ne_nil _ _) hnode

namespace SameWay

variable {a a' : String} (h : SameWay a a')

include h

theorem symm : SameWay a' a := ⟨h.absolute', h.absolute, h.names_eq.symm⟩

theorem nul_iff : '\x00' ∈ a'.toList ↔ '\x00' ∈ a.toList := by
  rw [mem_toList_iff_names (by decide) (by decide), mem_toList_iff_names (by decide) (by decide),
    h.names_eq]

theorem checkAddress_eq {d : Disk} (hd : d.limits.address = none) :
    d.checkAddress a' = d.checkAddress a := by
  rw [checkAddress, checkAddress, hd, if_neg (ne_empty_of_isAbsolute h.absolute),
    if_neg (ne_empty_of_isAbsolute h.absolute')]
  simp only [h.nul_iff]
  rfl

/-- On a tree that limits addresses, the other one has to be short enough. -/
theorem checkAddress_of_fits {d : Disk} (ha : d.checkAddress a = .ok ())
    (hfits : exceeds d.limits.address a' = false) : d.checkAddress a' = .ok () :=
  checkAddress_eq_ok_iff.mpr ⟨mt h.nul_iff.mp (checkAddress_eq_ok_iff.mp ha).1,
    ne_empty_of_isAbsolute h.absolute', hfits⟩

theorem follow_eq (d : Disk) {rest : List String} (hrest : rest ≠ []) :
    d.follow (d.startOf a') (components a' ++ rest) =
      d.follow (d.startOf a) (components a ++ rest) := by
  rw [startOf_of_isAbsolute h.absolute, startOf_of_isAbsolute h.absolute',
    ← follow_filter_append d hrest, ← follow_filter_append d hrest [] (components a)]
  exact congrArg (fun cs => d.follow [] (cs ++ rest)) h.names_eq

/-- Both lead to the same directory, if they lead to one. -/
theorem locate_of_dir {d : Disk} {p : Path} (hp : d.locate a = .ok p)
    (hdir : d.node? p = some .dir) (hcheck : d.checkAddress a' = .ok ()) :
    d.locate a' = .ok p := by
  have hslash := follow_slash_eq_ok_iff.mpr ⟨(locate_eq_ok_iff.mp hp).2, hdir⟩
  rw [← h.follow_eq d (by simp)] at hslash
  exact locate_eq_ok_iff.mpr ⟨hcheck, (follow_slash_eq_ok_iff.mp hslash).1⟩

theorem isDir_eq {d : Disk} (hd : d.limits.address = none) : d.isDir a' = d.isDir a := by
  have himp : ∀ {b b' : String}, SameWay b b' → d.isDir b = true → d.isDir b' = true := by
    intro b b' hb hdir
    obtain ⟨p, hp, hnode⟩ := isDir_iff.mp hdir
    have hcheck := (hb.checkAddress_eq hd).trans (locate_eq_ok_iff.mp hp).1
    exact isDir_iff.mpr ⟨p, hb.locate_of_dir hp hnode hcheck, hnode⟩
  exact Bool.eq_iff_iff.mpr ⟨himp h.symm, himp h⟩

end SameWay

/-- Of the way to a name below a directory, the names are those of the
directory. -/
theorem exists_way_names {dir : String} (hdir : isAbsolute dir = true) (name : String) :
    ∃ cs, components (child dir name) = cs ++ components name ∧
      cs.filter (fun c => c ≠ "" ∧ c ≠ ".") = names dir := by
  obtain ⟨cs, hcs, h | h⟩ := components_child_append (ne_empty_of_isAbsolute hdir) name
  · exact ⟨cs, hcs, by rw [names, h]⟩
  · exact ⟨cs, hcs, by rw [names, h, List.filter_append]; simp⟩

theorem names_child {dir : String} (hdir : isAbsolute dir = true) (name : String) :
    names (child dir name) = names dir ++ names name := by
  obtain ⟨cs, hcs, hnames⟩ := exists_way_names hdir name
  rw [names, hcs, List.filter_append, hnames]
  rfl

/-- Two addresses lead to the same on every tree that does not limit them. -/
def LeadsAlike (a a' : String) : Prop :=
  ∀ d : Disk, d.limits.address = none → d.locate a' = d.locate a

namespace SameWay

variable {a a' : String} (h : SameWay a a') (name : String)

include h

theorem child : SameWay (child a name) (child a' name) := by
  have ha := ne_empty_of_isAbsolute h.absolute
  have ha' := ne_empty_of_isAbsolute h.absolute'
  exact ⟨by rw [isAbsolute_child ha, h.absolute], by rw [isAbsolute_child ha', h.absolute'],
    by rw [names_child h.absolute, names_child h.absolute', h.names_eq]⟩

/-- What is below the one is below the other. -/
theorem leadsAlike_child : LeadsAlike (Disk.child a name) (Disk.child a' name) := by
  intro d hd
  have hrest : components name ≠ [] := by simp [components, pieces_ne_nil]
  obtain ⟨cs, hcs, hnames⟩ := exists_way_names h.absolute name
  obtain ⟨cs', hcs', hnames'⟩ := exists_way_names h.absolute' name
  rw [locate, locate, (h.child name).checkAddress_eq hd, hcs, hcs',
    startOf_of_isAbsolute (h.child name).absolute, startOf_of_isAbsolute (h.child name).absolute',
    ← follow_filter_append d hrest, ← follow_filter_append d hrest [] cs, hnames, hnames',
    h.names_eq]

end SameWay

/-! ## What is done there -/

namespace LeadsAlike

variable {a a' : String} (h : LeadsAlike a a') {d : Disk} (hd : d.limits.address = none)

include h hd

theorem read_eq : d.read a' = d.read a := by rw [read, read, h d hd]

theorem isFile_eq : d.isFile a' = d.isFile a := by rw [isFile, isFile, find?, find?, h d hd]

theorem list_eq : d.list a' = d.list a := by rw [list, list, h d hd]

theorem removeDir_eq : d.removeDir a' = d.removeDir a := by rw [removeDir, removeDir, h d hd]

end LeadsAlike

theorem limits_of_step {s : Step} {d d' : Disk} (h : s.apply d = .ok d') :
    d'.limits = d.limits := by
  cases s with
  | create address =>
      simp only [Step.apply, create, bind, Except.bind] at h
      split at h
      · cases h
      · split at h <;> cases h
        rfl
  | append address content =>
      simp only [Step.apply, append, bind, Except.bind] at h
      split at h
      · cases h
      · split at h <;> cases h
        rfl
  | rename source target =>
      simp only [Step.apply, rename, bind, Except.bind] at h
      split at h
      · cases h
      · split at h
        · cases h
        · split at h
          · split at h
            · cases h
            · split at h <;> cases h <;> rfl
          · cases h
          · cases h

theorem run_cons_congr {s s' : Step} {r r' : List Step} {d : Disk} (hs : s'.apply d = s.apply d)
    (hr : ∀ d', d'.limits = d.limits → run r' d' = run r d') :
    run (s' :: r') d = run (s :: r) d := by
  rw [run, run, hs]
  cases h : s.apply d with
  | error e => rfl
  | ok d' => exact hr d' (limits_of_step h)

namespace SameWay

variable {a a' : String} (h : SameWay a a') {d : Disk} (hd : d.limits.address = none)

include h hd

theorem replaceFile_eq (name : String) (content : Bytes) :
    d.replaceFile a' name content = d.replaceFile a name content := by
  have htemporary := h.leadsAlike_child (withEnding name "tmp")
  have htarget := h.leadsAlike_child name
  refine run_cons_congr ?_ fun d₁ hd₁ => run_cons_congr ?_ fun d₂ hd₂ =>
    run_cons_congr ?_ fun _ _ => rfl
  · rw [Step.apply, Step.apply, create, create, htemporary d hd]
  · rw [Step.apply, Step.apply, append, append, htemporary d₁ (hd₁ ▸ hd)]
  · have hd₂' : d₂.limits.address = none := by rw [hd₂, hd₁, hd]
    rw [Step.apply, Step.apply, rename, rename, htemporary d₂ hd₂', htarget d₂ hd₂']

theorem makeDir_child_eq {name : String} (hn : PlainName name) :
    d.makeDir (Disk.child a' name) = d.makeDir (Disk.child a name) := by
  have hcheck := (h.child name).checkAddress_eq hd
  cases hresult : d.checkAddress (Disk.child a name) with
  | error e =>
      rw [makeDir_of_checkAddress hresult, makeDir_of_checkAddress (hcheck.trans hresult)]
  | ok u =>
      have hname := components_of_noSlash hn.noSlash
      obtain ⟨cs, hcs, hnames⟩ := exists_way_names h.absolute name
      obtain ⟨cs', hcs', hnames'⟩ := exists_way_names h.absolute' name
      rw [hname] at hcs hcs'
      rw [makeDir_eq hresult hcs hn, makeDir_eq (hcheck.trans hresult) hcs' hn,
        startOf_of_isAbsolute (h.child name).absolute,
        startOf_of_isAbsolute (h.child name).absolute', ← follow_filter_append d (by simp),
        ← follow_filter_append d (by simp) [] cs, hnames, hnames', h.names_eq]

end SameWay

theorem upComponents_of_isAbsolute {a : String} (ha : isAbsolute a = true) :
    upComponents a = names a := by
  obtain ⟨c, r, hc, habs⟩ := components_eq_cons (ne_empty_of_isAbsolute ha)
  obtain rfl := habs.mpr ha
  rw [upComponents, names, hc]
  rfl

theorem SameWay.ancestors_eq {a a' : String} (h : SameWay a a') : ancestors a' = ancestors a := by
  have hup : upComponents a' = upComponents a := by
    rw [upComponents_of_isAbsolute h.absolute, upComponents_of_isAbsolute h.absolute', h.names_eq]
  have hstem : stem a' = stem a := funext fun n => by
    rw [stem, stem, hup, h.absolute, h.absolute']
  rw [ancestors, ancestors, hup, hstem]

/-- Making a directory below the one is making it below the other. -/
theorem SameWay.ensureDir_child_eq {a a' : String} (h : SameWay a a') {d : Disk}
    (hd : d.limits.address = none) {name : String} (hn : PlainName name) :
    d.ensureDir (Disk.child a' name) = d.ensureDir (Disk.child a name) := by
  have hchild := h.child name
  rw [ensureDir, ensureDir, hchild.ancestors_eq, ensureFirst, ensureFirst,
    if_neg (ne_empty_of_isAbsolute hchild.absolute),
    if_neg (ne_empty_of_isAbsolute hchild.absolute'), h.makeDir_child_eq hd hn, hchild.isDir_eq hd]
  have hup := ensureFirst_changedAt (ancestors (Disk.child a name)) d
  cases hfirst : ensureFirst (ancestors (Disk.child a name)) d with
  | mk result d₁ =>
      rw [hfirst] at hup
      have hd₁ : d₁.limits.address = none := hup.limits ▸ hd
      cases result with
      | error e => rfl
      | ok u => simp only [h.makeDir_child_eq hd₁ hn, hchild.isDir_eq hd₁]

end JobLedger.Disk

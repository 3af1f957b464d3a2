import JobLedger.Proofs.Disk.Write

/-!
# Which directories are made

Making a directory and those above it ends with the directory being there
(`isDir_of_ensureDir`), and each directory that was made on the way is where
the address leads, or one of those above it (`ensureDir_made`).

As long as the address does not go up by `..`, those above it lead to
directories above its own (`prefix_of_ancestor`), and nothing below it is
touched. An address that goes through a missing directory and up again has
that one made, which can be below the directory that it leads to.
-/

namespace JobLedger.Disk

/-! ## What is made -/

/-- What differs is that directories were made, each where one of the addresses
leads. -/
def MadeAt (addresses : List String) (d d' : Disk) : Prop :=
  ∀ q, d'.node? q = d.node? q ∨
    d.node? q = none ∧ d'.node? q = some .dir ∧ ∃ a ∈ addresses, d'.locate a = .ok q

namespace MadeAt

variable {l l' : List String} {d d' d'' : Disk}

theorem refl (l : List String) (d : Disk) : MadeAt l d d := fun _ => .inl rfl

theorem mono (h : MadeAt l d d') (hl : l ⊆ l') : MadeAt l' d d' := fun q =>
  (h q).imp id fun ⟨hnone, hdir, a, ha, hlocate⟩ => ⟨hnone, hdir, a, hl ha, hlocate⟩

theorem trans (h : MadeAt l d d') (hkeeps : KeepsDirs d' d'') (h' : MadeAt l d' d'') :
    MadeAt l d d'' := by
  intro q
  rcases h q with hsame | ⟨hnone, hdir, a, ha, hlocate⟩
  · rw [← hsame]
    exact h' q
  · exact .inr ⟨hnone, hkeeps.dirs q hdir, a, ha, hkeeps.locate hlocate⟩

end MadeAt

theorem makeDir_made {d d' : Disk} {address : String} (h : d.makeDir address = .ok d') :
    KeepsDirs d d' ∧ MadeAt [address] d d' := by
  obtain ⟨p, hp, hnone, rfl, hlocate⟩ := makeDir_cases h
  refine ⟨keepsDirs_setNode hp (by simp [hnone]) .dir, fun q => ?_⟩
  rw [node?_setNode d hp]
  split
  · next hq => exact .inr ⟨hq ▸ hnone, rfl, address, List.mem_singleton_self _, hq ▸ hlocate⟩
  · exact .inl rfl

theorem ensureFirst_made (addresses : List String) (d : Disk) :
    MadeAt addresses d (ensureFirst addresses d).2 := by
  induction addresses generalizing d with
  | nil => exact .refl _ d
  | cons address up ih =>
      have hfirst : [address] ⊆ address :: up := by simp
      have hup := (ih d).mono (List.subset_cons_self address up)
      rw [ensureFirst]
      split
      · exact .refl _ d
      split
      · next hmake => exact (makeDir_made hmake).2.mono hfirst
      · split
        · next habove =>
          rw [habove] at hup
          exact hup
        next d₁ habove =>
        rw [habove] at hup
        split
        · next hmake =>
          obtain ⟨hkeeps, hmade⟩ := makeDir_made hmake
          exact hup.trans hkeeps (hmade.mono hfirst)
        · exact hup
      · exact .refl _ d

/-- Making a directory makes nothing but directories, where its address leads or
one of those above it. -/
theorem ensureDir_made (address : String) (d : Disk) :
    MadeAt (address :: ancestors address) d (d.ensureDir address).2 :=
  ensureFirst_made _ d

/-- A directory that could be made is there. -/
theorem isDir_of_ensureDir {d d' : Disk} {address : String} (hne : address ≠ "")
    (h : d.ensureDir address = (.ok (), d')) : d'.isDir address = true := by
  rw [ensureDir, ensureFirst, if_neg hne] at h
  split at h
  · next hmake =>
    cases h
    exact isDir_of_makeDir hmake
  · split at h
    · cases h
    · split at h
      · next hmake =>
        cases h
        exact isDir_of_makeDir hmake
      · split at h <;> cases h
        next hdir => exact hdir
  · split at h <;> cases h
    next hdir => exact hdir

/-! ## Where the directories above lead -/

/-- Without `..` the way leads down. -/
theorem prefix_of_follow_down {d : Disk} {p q : Path} {cs : List String} (hup : ".." ∉ cs)
    (h : d.follow p cs = .ok q) : p <+: q := by
  induction cs generalizing p with
  | nil =>
      obtain rfl := Except.ok.inj h
      exact List.prefix_rfl
  | cons c r ih =>
      obtain ⟨hc, hr⟩ := not_or.mp fun hmem => hup (List.mem_cons.mpr hmem)
      rw [follow] at h
      split at h
      · cases h
      · cases h
      split at h
      · exact ih hr h
      split at h
      · next hdots => exact absurd hdots.symm hc
      split at h
      · cases h
      · exact (List.prefix_append p [c]).trans (ih hr h)

/-- The address of the first components begins where the whole address does. -/
theorem isAbsolute_stem {address : String} {n : Nat} (hne : (upComponents address).take n ≠ []) :
    isAbsolute (stem address n) = isAbsolute address := by
  by_cases habs : isAbsolute address
  · rw [stem, if_pos habs, isAbsolute, String.toList_ofList, habs]
    rfl
  · obtain ⟨first, rest, hfirst⟩ := List.exists_cons_of_ne_nil hne
    have hmem : first ∈ upComponents address := by
      have htake : first ∈ (upComponents address).take n := by
        rw [hfirst]
        exact List.mem_cons_self ..
      exact List.mem_of_mem_take htake
    have hnonempty := (mem_upComponents hmem).2
    have hcs : components (stem address n) = first :: rest := by
      rw [components_stem hne, if_neg habs, List.nil_append, hfirst]
    have hstem : stem address n ≠ "" := by
      intro hempty
      rw [hempty] at hcs
      exact hnonempty (List.cons.inj hcs).1.symm
    obtain ⟨c, r, hc, hiff⟩ := components_eq_cons hstem
    rw [hcs] at hc
    rw [← (List.cons.inj hc).1] at hiff
    rw [Bool.eq_false_iff.mpr habs, Bool.eq_false_iff]
    exact fun h => hnonempty (hiff.mpr h)

/-- If an address does not go up, the directories above it by its text are
above it in the tree as well. -/
theorem prefix_of_ancestor {d : Disk} {address a : String} {p q : Path}
    (hup : ".." ∉ components address) (hp : d.locate address = .ok p)
    (ha : a ∈ ancestors address) (hq : d.locate a = .ok q) : q <+: p := by
  obtain ⟨n, -, rfl⟩ := List.mem_map.mp ha
  obtain ⟨-, hway⟩ := locate_eq_ok_iff.mp hq
  by_cases htake : (upComponents address).take n = []
  · -- This is the top, since the empty address leads nowhere.
    by_cases habs : isAbsolute address
    · have htop : stem address n = "/" := by
        rw [stem, htake, if_pos habs]
        rfl
      rw [htop] at hway
      obtain rfl : [] = q := Except.ok.inj hway
      exact List.nil_prefix
    · have hempty : stem address n = "" := by
        rw [stem, htake, if_neg habs]
        rfl
      exact absurd hempty (ne_empty_of_locate hq)
  · have hstart : d.startOf (stem address n) = d.startOf address := by
      rw [startOf, startOf, isAbsolute_stem htake]
    have hwhole := follow_upComponents (ne_empty_of_locate hp) (locate_eq_ok_iff.mp hp).2
    rw [← List.take_append_drop n (upComponents address), ← List.append_assoc,
      ← components_stem htake, follow_append, ← hstart, hway] at hwhole
    refine prefix_of_follow_down (fun hmem => hup ?_) hwhole
    exact (mem_upComponents (List.mem_of_mem_drop hmem)).1

end JobLedger.Disk

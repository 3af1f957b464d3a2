import JobLedger.Proofs.Disk.Made
import JobLedger.Proofs.Job.Tally
import JobLedger.Proofs.Text.Numeral
import Mathlib.Data.List.Dedup

/-!
# What part files hold

Records are written one by one, each to the part of its key, and the file of a
part is made with its first record. The invariant of the loop is that each part
that has a file holds the lines of its records so far; one record extends one
of them (`run_steps_cons`), and so all records end up in the files of their
parts, in order, while nothing else changes (`run_steps`).

No two parts share a file, since padded numbers keep their value
(`partName_injective`), and the records of the parts are all records
(`perm_flatMap_inPart`).

Nothing is removed, though. A file of a part that got no record this time stays
with what it holds, so the location of a job is that job's output only if no
such file was there (`files_after_text_job`).
-/

namespace JobLedger.PartFiles

open Disk (child)

/-! ## Names -/

theorem partName_injective : Function.Injective partName := by
  intro i j h
  refine Numeral.padded_injective 5 (String.toList_inj.mp ?_)
  have hlist := congrArg String.toList h
  rw [partName, partName, String.toList_append, String.toList_append] at hlist
  exact List.append_cancel_left hlist

theorem plainName_partName (i : Nat) : Disk.PlainName (partName i) := by
  have hchars : ∀ {c : Char}, c ∈ (partName i).toList →
      c ∈ "part-r-".toList ∨ c.isDigit = true := by
    intro c hc
    rw [partName, String.toList_append] at hc
    exact (List.mem_append.mp hc).imp id Numeral.isDigit_of_mem_padded
  have hlong : ∀ {s : String}, s.toList.length < 7 → partName i ≠ s := by
    rintro s hs rfl
    rw [partName, String.toList_append, List.length_append] at hs
    have hseven : "part-r-".toList.length = 7 := by decide
    omega
  refine ⟨fun h => ?_, fun h => ?_, hlong (by decide), hlong (by decide), hlong (by decide)⟩
  · exact (hchars h).elim (by decide) (by decide)
  · exact (hchars h).elim (by decide) (by decide)

/-! ## Parts -/

section

variable (hash : String → Nat) (splits : UInt32)

/-- The records of a part. -/
def inPart (records : List OutputRecord) (i : Nat) : List OutputRecord :=
  records.filter fun r => partition hash splits r.key = i

/-- The lines of the records of a part. -/
def content (records : List OutputRecord) (i : Nat) : Bytes :=
  (inPart hash splits records i).flatMap line

/-- The parts that have a record. -/
def usedParts (records : List OutputRecord) : List Nat :=
  (records.map fun r => partition hash splits r.key).dedup

variable {hash splits}

theorem mem_usedParts {records : List OutputRecord} {i : Nat} :
    i ∈ usedParts hash splits records ↔ ∃ r ∈ records, partition hash splits r.key = i := by
  rw [usedParts, List.mem_dedup, List.mem_map]

theorem content_cons (r : OutputRecord) (records : List OutputRecord) (i : Nat) :
    content hash splits (r :: records) i =
      (if partition hash splits r.key = i then line r else []) ++
        content hash splits records i := by
  unfold content inPart
  rw [List.filter_cons]
  split <;> simp_all

/-- There is at least one part, so each key has one. -/
theorem partition_lt (hsplits : 0 < splits) (key : String) :
    partition hash splits key < splits.toNat :=
  Nat.mod_lt _ (UInt32.lt_iff_toNat_lt.mp hsplits)

/-- The records of different parts, taken together, are the records of any of
these parts. -/
theorem flatMap_inPart_perm {parts : List Nat} (hparts : parts.Nodup)
    (records : List OutputRecord) :
    (parts.flatMap (inPart hash splits records)).Perm
      (records.filter fun r => partition hash splits r.key ∈ parts) := by
  induction parts with
  | nil => simp
  | cons i parts ih =>
      obtain ⟨hi, hrest⟩ := List.nodup_cons.mp hparts
      let index (r : OutputRecord) : Nat := partition hash splits r.key
      have hfirst : (records.filter fun r => index r ∈ i :: parts).filter (index · = i) =
          records.filter (index · = i) := by
        rw [List.filter_filter]
        refine List.filter_congr fun r _ => ?_
        by_cases h : index r = i <;> simp [h]
      have hothers : (records.filter fun r => index r ∈ i :: parts).filter
          (fun r => !decide (index r = i)) = records.filter (index · ∈ parts) := by
        rw [List.filter_filter]
        refine List.filter_congr fun r _ => ?_
        by_cases h : index r = i <;> simp [h, hi]
      have hsplit := List.filter_append_perm (index · = i)
        (records.filter fun r => index r ∈ i :: parts)
      rw [hfirst, hothers] at hsplit
      rw [List.flatMap_cons]
      exact ((ih hrest).append_left _).trans hsplit

/-- Each record is in exactly one part. -/
theorem perm_flatMap_inPart (records : List OutputRecord) :
    ((usedParts hash splits records).flatMap (inPart hash splits records)).Perm records := by
  have hall : (records.filter fun r => partition hash splits r.key ∈ usedParts hash splits records)
      = records :=
    List.filter_eq_self.mpr fun r hr => decide_eq_true (mem_usedParts.mpr ⟨r, hr, rfl⟩)
  have hperm : ((usedParts hash splits records).flatMap (inPart hash splits records)).Perm
      (records.filter fun r => partition hash splits r.key ∈ usedParts hash splits records) :=
    flatMap_inPart_perm (List.nodup_dedup _) records
  rwa [hall] at hperm

/-- The records of a key are all in the part of the key, in order. -/
theorem filter_key_inPart (records : List OutputRecord) (key : String) :
    (inPart hash splits records (partition hash splits key)).filter (·.key = key) =
      records.filter (·.key = key) := by
  unfold inPart
  rw [List.filter_filter]
  refine List.filter_congr fun r _ => ?_
  by_cases h : r.key = key <;> simp [h]

/-! ## Writing -/

variable {dir : String} {p : Path} {d d' : Disk}

/-- A part file in a directory that is there. -/
theorem read_part_iff (hp : d.locate dir = .ok p) (hnode : d.node? p = some .dir) {i : Nat}
    {bytes : Bytes} :
    d.read (child dir (partName i)) = .ok bytes ↔
      Disk.Fits d.limits dir (partName i) ∧ d.node? (p ++ [partName i]) = some (.file bytes) := by
  rw [Disk.read_eq_ok_iff]
  constructor
  · rintro ⟨q, hq, hfile⟩
    obtain ⟨hfits, p', hp', -, rfl⟩ := (Disk.locate_child_eq_ok_iff
      (Disk.ne_empty_of_locate hp) (plainName_partName i)).mp hq
    obtain rfl := Except.ok.inj (hp'.symm.trans hp)
    exact ⟨hfits, hfile⟩
  · rintro ⟨hfits, hfile⟩
    exact ⟨_, (Disk.locate_child_eq_ok_iff (Disk.ne_empty_of_locate hp)
      (plainName_partName i)).mpr ⟨hfits, p, hp, hnode, rfl⟩, hfile⟩

/-- One record goes to the end of its part, which is empty if it was not
written to before. -/
theorem run_steps_cons {opened : List Nat} {old : Nat → Bytes} {r : OutputRecord}
    {records : List OutputRecord} (hp : d.locate dir = .ok p) (hnode : d.node? p = some .dir)
    (hopened : ∀ i ∈ opened, d.read (child dir (partName i)) = .ok (old i))
    (hfresh : ∀ i, i ∉ opened → old i = [])
    (h : d.run (steps hash dir splits opened (r :: records)) = (.ok (), d')) :
    let i := partition hash splits r.key
    Disk.Fits d.limits dir (partName i) ∧ d.node? (p ++ [partName i]) ≠ some .dir ∧
      (d.setNode (p ++ [partName i]) (.file (old i ++ line r))).run
        (steps hash dir splits (i :: opened) records) = (.ok (), d') := by
  intro i
  have hplain := plainName_partName i
  have hne := Disk.ne_empty_of_locate hp
  have hsteps : steps hash dir splits opened (r :: records) =
      (if i ∈ opened then [] else [.create (child dir (partName i))]) ++
        .append (child dir (partName i)) (line r) :: steps hash dir splits (i :: opened) records :=
    rfl
  rw [hsteps] at h
  by_cases hmem : i ∈ opened
  · obtain ⟨hfits, hfile⟩ := (read_part_iff hp hnode).mp (hopened i hmem)
    have hlocate := (Disk.locate_child_eq_ok_iff hne hplain).mpr ⟨hfits, p, hp, hnode, rfl⟩
    rw [if_pos hmem, List.nil_append, Disk.run, Disk.Step.apply,
      Disk.append_eq hlocate hfile] at h
    exact ⟨hfits, by rw [hfile]; simp, h⟩
  · rw [if_neg hmem, List.singleton_append, Disk.run, Disk.Step.apply] at h
    split at h
    · next d₁ hcreate =>
      obtain ⟨q, hq, hdir, rfl⟩ := Disk.create_eq_ok_iff.mp hcreate
      obtain ⟨hfits, p', hp', -, rfl⟩ := (Disk.locate_child_eq_ok_iff hne hplain).mp hq
      obtain rfl := Except.ok.inj (hp'.symm.trans hp)
      have hkeeps := Disk.keepsDirs_setNode (by simp) hdir (.file [])
      rw [Disk.run, Disk.Step.apply, Disk.append_eq (hkeeps.locate hq)
        (Disk.node?_setNode_self d (by simp) _), Disk.setNode_setNode] at h
      exact ⟨hfits, hdir, by rw [hfresh i hmem]; exact h⟩
    · cases h

/-- After all records, each part that was written to holds what it held before
and the lines of its records, and nothing else has changed. -/
theorem run_steps {opened : List Nat} (old : Nat → Bytes) {records : List OutputRecord}
    (hp : d.locate dir = .ok p) (hnode : d.node? p = some .dir)
    (hopened : ∀ i ∈ opened, d.read (child dir (partName i)) = .ok (old i))
    (hfresh : ∀ i, i ∉ opened → old i = [])
    (h : d.run (steps hash dir splits opened records) = (.ok (), d')) :
    Disk.KeepsDirs d d' ∧
      (∀ i, i ∈ opened ∨ i ∈ usedParts hash splits records →
        d'.read (child dir (partName i)) = .ok (old i ++ content hash splits records i)) ∧
      ∀ q, (∀ i ∈ usedParts hash splits records, q ≠ p ++ [partName i]) →
        d'.node? q = d.node? q := by
  induction records generalizing d opened old with
  | nil =>
      obtain rfl : d = d' := congrArg Prod.snd h
      refine ⟨⟨rfl, rfl, fun _ => id⟩, fun i hi => ?_, fun _ _ => rfl⟩
      have hi' : i ∈ opened := hi.resolve_right fun hused => by simp [usedParts] at hused
      simpa [content, inPart] using hopened i hi'
  | cons r records ih =>
      obtain ⟨hfits, hdir, hrest⟩ := run_steps_cons hp hnode hopened hfresh h
      generalize hindex : partition hash splits r.key = index at hfits hdir hrest
      have hkeeps := Disk.keepsDirs_setNode (by simp) hdir (.file (old index ++ line r))
      have hp' := hkeeps.locate hp
      have hnode' := hkeeps.dirs p hnode
      -- The part of the record has one line more, the others are as they were.
      have hopened' : ∀ i ∈ index :: opened,
          (d.setNode (p ++ [partName index]) (.file (old index ++ line r))).read
            (child dir (partName i)) =
          .ok (old i ++ if index = i then line r else []) := by
        intro i hi
        rw [read_part_iff hp' hnode']
        by_cases hii : index = i
        · subst hii
          rw [if_pos rfl]
          exact ⟨hfits, Disk.node?_setNode_self d (by simp) _⟩
        · obtain ⟨hfits', hfile⟩ := (read_part_iff hp hnode).mp
            (hopened i ((List.mem_cons.mp hi).resolve_left (Ne.symm hii)))
          have hpath : p ++ [partName index] ≠ p ++ [partName i] := by
            simpa using fun heq => hii (partName_injective heq)
          rw [if_neg hii, List.append_nil, Disk.node?_setNode_of_ne d (by simp) hpath]
          exact ⟨hfits', hfile⟩
      have hfresh' : ∀ i, i ∉ index :: opened →
          (old i ++ if index = i then line r else []) = [] := by
        intro i hi
        obtain ⟨hne, hi'⟩ := not_or.mp fun hmem => hi (List.mem_cons.mpr hmem)
        rw [hfresh i hi', if_neg (Ne.symm hne)]
        rfl
      have hmem : ∀ i, i ∈ usedParts hash splits (r :: records) ↔
          i = index ∨ i ∈ usedParts hash splits records := by
        intro i
        rw [mem_usedParts, mem_usedParts, List.exists_mem_cons_iff, hindex, eq_comm]
      obtain ⟨hkept, hparts, hsame⟩ := ih _ hp' hnode' hopened' hfresh' hrest
      refine ⟨hkeeps.trans hkept, fun i hi => ?_, fun q hq => ?_⟩
      · rw [content_cons, hindex, ← List.append_assoc]
        refine hparts i ?_
        rw [hmem] at hi
        rw [List.mem_cons]
        tauto
      · rw [hsame q fun i hi => hq i ((hmem i).mpr (.inr hi))]
        exact Disk.node?_setNode_of_ne d (by simp) (Ne.symm (hq index ((hmem _).mpr (.inl rfl)))) _

end

/-- The tree after records were written under a location: there is a directory
with a file for each part that has a record, which holds the lines of its
records in order. Nothing else is another one, but that directories above the
location, by its text, were made where they were missing. -/
structure Written (hash : String → Nat) (spec : OutputSpec) (records : List OutputRecord)
    (p : Path) (d d' : Disk) : Prop where
  location : d'.locate spec.location = .ok p
  isDir : d'.node? p = some .dir
  parts : ∀ i ∈ usedParts hash spec.splits records,
    d'.read (child spec.location (partName i)) = .ok (content hash spec.splits records i)
  others : ∀ q, q ≠ p → (∀ i ∈ usedParts hash spec.splits records, q ≠ p ++ [partName i]) →
    d'.node? q = d.node? q ∨
      d.node? q = none ∧ d'.node? q = some .dir ∧
        ∃ a ∈ Disk.ancestors spec.location, d'.locate a = .ok q

section

variable {hash : String → Nat} {spec : OutputSpec} {records : List OutputRecord} {d d' : Disk}

theorem written_of_ok (h : write hash spec records d = (.ok (), d')) :
    ∃ p, Written hash spec records p d d' := by
  unfold write at h
  split at h
  · cases h
  next d₁ hensure =>
  obtain ⟨p, hp, hnode⟩ := Disk.isDir_iff.mp (Disk.isDir_of_ensureDir spec.location_ne hensure)
  have hrun : d₁.run (steps hash spec.location spec.splits [] records) = (.ok (), d') := by
    cases hr : d₁.run (steps hash spec.location spec.splits [] records) with
    | mk r d₂ =>
        rw [hr] at h
        cases r with
        | ok u => cases h; rfl
        | error e => cases h
  obtain ⟨hkept, hparts, hsame⟩ := run_steps (fun _ => []) hp hnode
    (fun _ hi => absurd hi List.not_mem_nil) (fun _ _ => rfl) hrun
  refine ⟨p, hkept.locate hp, hkept.dirs p hnode, fun i hi => hparts i (.inr hi), ?_⟩
  intro q hq hnone
  have hmade := Disk.ensureDir_made spec.location d
  rw [hensure] at hmade
  rw [hsame q hnone]
  refine (hmade q).imp id ?_
  rintro ⟨hmissing, hdir, a, ha, hlocate⟩
  refine ⟨hmissing, hdir, a, ?_, hkept.locate hlocate⟩
  rcases List.mem_cons.mp ha with rfl | ha
  · exact absurd (Except.ok.inj (hlocate.symm.trans hp)) hq
  · exact ha

namespace Written

variable {p : Path}

/-- Unless the location's text goes up, nothing below the location is another
one but the files of the parts. -/
theorem below (h : Written hash spec records p d d')
    (hup : ".." ∉ Disk.components spec.location) {q : Path} (hbelow : p <+: q) (hq : q ≠ p)
    (hnone : ∀ i ∈ usedParts hash spec.splits records, q ≠ p ++ [partName i]) :
    d'.node? q = d.node? q := by
  refine (h.others q hq hnone).resolve_right ?_
  rintro ⟨-, -, a, ha, hlocate⟩
  have habove := Disk.prefix_of_ancestor hup h.location ha hlocate
  exact hq (habove.eq_of_length_le hbelow.length_le)

/-- The files in the directory: those of the parts, and files that were there
and are none of these. -/
theorem file_iff (h : Written hash spec records p d d') {name : String} {bytes : Bytes} :
    d'.node? (p ++ [name]) = some (.file bytes) ↔
      (∃ i ∈ usedParts hash spec.splits records, name = partName i ∧
        bytes = content hash spec.splits records i) ∨
      (∀ i ∈ usedParts hash spec.splits records, name ≠ partName i) ∧
        d.node? (p ++ [name]) = some (.file bytes) := by
  by_cases hused : ∃ i ∈ usedParts hash spec.splits records, name = partName i
  · obtain ⟨i, hi, rfl⟩ := hused
    have hpart := ((read_part_iff h.location h.isDir).mp (h.parts i hi)).2
    rw [hpart, Option.some.injEq, Node.file.injEq]
    constructor
    · rintro rfl
      exact .inl ⟨i, hi, rfl, rfl⟩
    · rintro (⟨j, hj, hij, rfl⟩ | ⟨hnone, -⟩)
      · rw [partName_injective hij]
      · exact absurd rfl (hnone i hi)
  · have hnone : ∀ i ∈ usedParts hash spec.splits records, name ≠ partName i :=
      fun i hi heq => hused ⟨i, hi, heq⟩
    rw [or_iff_right fun ⟨i, hi, heq, _⟩ => hnone i hi heq, and_iff_right hnone]
    rcases h.others (p ++ [name]) (by simp)
      (fun i hi heq => hnone i hi (by simpa using heq)) with hsame | ⟨hmissing, hdir, -⟩
    · rw [hsame]
    · rw [hmissing, hdir]
      simp

end Written

/-- What writing part files does if it succeeds, for every hash, every output,
every list of records and every tree: the parts of the records' keys are less
than the number of parts, which is not zero, and their files hold the lines of
their records in order. Each record is in one part and each part has a file of
its own, and the records of a key are together. Below the location, nothing
else is another one, but that directories were made which the location's text
goes through before it goes up again. -/
theorem part_files_of_write (h : write hash spec records d = (.ok (), d')) :
    (0 < spec.splits.toNat ∧ ∀ key, partition hash spec.splits key < spec.splits.toNat) ∧
    (∃ p, d'.locate spec.location = .ok p ∧
      (∀ i, (∃ r ∈ records, partition hash spec.splits r.key = i) →
        d'.read (child spec.location (partName i)) =
          .ok ((records.filter fun r => partition hash spec.splits r.key = i).flatMap line)) ∧
      ∀ q, p <+: q → q ≠ p →
        (∀ i, (∃ r ∈ records, partition hash spec.splits r.key = i) → q ≠ p ++ [partName i]) →
        d'.node? q = d.node? q ∨
          ".." ∈ Disk.components spec.location ∧ d.node? q = none ∧ d'.node? q = some .dir ∧
            ∃ a ∈ Disk.ancestors spec.location, d'.locate a = .ok q) ∧
    ((usedParts hash spec.splits records).flatMap (inPart hash spec.splits records)).Perm
      records ∧
    (∀ key, (inPart hash spec.splits records (partition hash spec.splits key)).filter
      (·.key = key) = records.filter (·.key = key)) ∧
    ∀ i j, partName i = partName j → i = j := by
  obtain ⟨p, hw⟩ := written_of_ok h
  refine ⟨⟨UInt32.lt_iff_toNat_lt.mp spec.splits_pos, partition_lt spec.splits_pos⟩,
    ⟨p, hw.location, fun i hi => hw.parts i (mem_usedParts.mpr hi), ?_⟩,
    perm_flatMap_inPart records, filter_key_inPart records, fun _ _ heq => partName_injective heq⟩
  intro q hbelow hq hnone
  have hnone' : ∀ i ∈ usedParts hash spec.splits records, q ≠ p ++ [partName i] :=
    fun i hi => hnone i (mem_usedParts.mp hi)
  by_cases hup : ".." ∈ Disk.components spec.location
  · exact (hw.others q hq hnone').imp id fun hmade => ⟨hup, hmade⟩
  · exact .inl (hw.below hup hbelow hq hnone')

end

/-- A text output of two parts. -/
def twoParts : OutputSpec := ⟨.text, "res", 2, by decide, by decide⟩

/-- Three records of two keys. -/
def twoKeys : List OutputRecord := [⟨"a", "c", "x"⟩, ⟨"bb", "c", "y"⟩, ⟨"a", "c", "z"⟩]

/-- A tree with a note where the output goes. -/
def withNote : Disk :=
  ((Disk.empty ["w"] ⟨none, none⟩).setNode ["w", "res"] .dir).setNode ["w", "res", "note"]
    (.file [110])

/-- Two keys in two parts, beside a note that stays. -/
theorem two_parts_written :
    (write String.length twoParts twoKeys withNote).1 = .ok () ∧
      (write String.length twoParts twoKeys withNote).2.read "res/part-r-00001" =
        .ok (Utf8.bytes "a\tx\na\tz\n") ∧
      (write String.length twoParts twoKeys withNote).2.node? ["w", "res", "note"] =
        some (.file [110]) := by
  have hok : write String.length twoParts twoKeys withNote =
      (.ok (), (write String.length twoParts twoKeys withNote).2) :=
    Prod.ext (by decide +kernel) rfl
  obtain ⟨-, ⟨p, hp, hparts, hothers⟩, -⟩ := part_files_of_write hok
  have hlocation : (write String.length twoParts twoKeys withNote).2.locate twoParts.location =
      .ok ["w", "res"] := by decide +kernel
  obtain rfl := Except.ok.inj (hp.symm.trans hlocation)
  refine ⟨congrArg Prod.fst hok, (hparts 1 (by decide +kernel)).trans (by decide +kernel), ?_⟩
  have hnote := hothers ["w", "res", "note"] (by decide) (by decide) ?_
  · rw [hnote.resolve_right fun hmade => absurd hmade.1 (by decide +kernel)]
    decide +kernel
  · rintro i - heq
    have hname : "note" = partName i := by simpa using heq
    have hchars := congrArg (fun s : String => s.toList.head?) hname
    simp only [partName, String.toList_append] at hchars
    have hhead : some 'n' = some 'p' := hchars
    exact absurd hhead (by decide)

/-- A location that goes through a missing directory and up again has it made,
though it is below the location. -/
theorem directory_made_below_location :
    let spec : OutputSpec := ⟨.text, "res/new/..", 1, by decide, by decide⟩
    let d' := (write String.length spec twoKeys withNote).2
    (write String.length spec twoKeys withNote).1 = .ok () ∧
      d'.locate spec.location = .ok ["w", "res"] ∧
      withNote.node? ["w", "res", "new"] = none ∧
      d'.node? ["w", "res", "new"] = some .dir := by
  decide +kernel

/-! ## After a job -/

/-- A job with a text output that succeeds has written its outputs. -/
theorem write_of_succeeded {hash : String → Nat} {job : PreparedJob} {d : Disk}
    (htext : job.output.format = .text)
    (h : (Execution.run hash job d).1.status = .succeeded) :
    write hash job.output (Execution.run hash job d).1.outputs d =
      (.ok (), (Execution.run hash job d).2) := by
  unfold Execution.run at h ⊢
  split at h
  · cases h
  · next t hrows =>
    simp only [htext, if_true] at h ⊢
    split at h
    · next d' hwrite => exact hwrite
    · cases h

/-- The name of a part file, of whatever part. -/
def IsPart (name : String) : Prop := "part-r-".toList <+: name.toList

/-- The part files in a directory are those of the parts that have a record,
each with the lines of its records. -/
def HoldsExactly (hash : String → Nat) (splits : UInt32) (records : List OutputRecord) (p : Path)
    (d : Disk) : Prop :=
  ∀ name bytes, IsPart name → (d.node? (p ++ [name]) = some (.file bytes) ↔
    ∃ i ∈ usedParts hash splits records, name = partName i ∧
      bytes = content hash splits records i)

/-- The files in its location after a job with a text output has succeeded:
those of the parts that got a record, with the lines of this job, and all that
were there before under other names. So the location holds the output of this
job and nothing else exactly if each part file that was there before is one of
those that got a record. -/
theorem files_after_text_job {hash : String → Nat} {job : PreparedJob} {d : Disk}
    (htext : job.output.format = .text)
    (h : (Execution.run hash job d).1.status = .succeeded) :
    let records := (Execution.run hash job d).1.outputs
    let splits := job.output.splits
    let d' := (Execution.run hash job d).2
    ∃ p, d'.locate job.output.location = .ok p ∧
      (∀ name bytes, d'.node? (p ++ [name]) = some (.file bytes) ↔
        (∃ i ∈ usedParts hash splits records, name = partName i ∧
          bytes = content hash splits records i) ∨
        (∀ i ∈ usedParts hash splits records, name ≠ partName i) ∧
          d.node? (p ++ [name]) = some (.file bytes)) ∧
      ((usedParts hash splits records).flatMap (inPart hash splits records)).Perm records ∧
      (HoldsExactly hash splits records p d' ↔
        ∀ name bytes, IsPart name → d.node? (p ++ [name]) = some (.file bytes) →
          ∃ i ∈ usedParts hash splits records, name = partName i) := by
  intro records splits d'
  obtain ⟨p, hw⟩ := written_of_ok (write_of_succeeded htext h)
  refine ⟨p, hw.location, fun name bytes => hw.file_iff, perm_flatMap_inPart records, ?_⟩
  constructor
  · intro hexact name bytes hname hbefore
    by_contra hother
    have hnone : ∀ i ∈ usedParts hash splits records, name ≠ partName i :=
      fun i hi heq => hother ⟨i, hi, heq⟩
    obtain ⟨i, hi, heq, -⟩ := (hexact name bytes hname).mp (hw.file_iff.mpr (.inr ⟨hnone, hbefore⟩))
    exact hnone i hi heq
  · intro honly name bytes hname
    rw [hw.file_iff, or_iff_left]
    rintro ⟨hnone, hbefore⟩
    obtain ⟨i, hi, heq⟩ := honly name bytes hname hbefore
    exact hnone i hi heq

/-- On a tree with nothing in it, the location holds the output of the job. -/
theorem text_job_on_empty_tree :
    HoldsExactly (fun _ => 0) 4 [⟨"a", "derived:name", "Ann"⟩] ["sampled"]
      (Execution.run (fun _ => 0) (Execution.sampling .text [Execution.named])
        (.empty [] ⟨none, none⟩)).2 := by
  have hrun : (Execution.run (fun _ => 0) (Execution.sampling .text [Execution.named])
      (.empty [] ⟨none, none⟩)).1.status = .succeeded := by decide +kernel
  have houtputs : (Execution.run (fun _ => 0) (Execution.sampling .text [Execution.named])
      (.empty [] ⟨none, none⟩)).1.outputs = [⟨"a", "derived:name", "Ann"⟩] := by decide +kernel
  obtain ⟨p, hp, -, -, hexact⟩ := files_after_text_job rfl hrun
  have hlocation : (Execution.run (fun _ => 0) (Execution.sampling .text [Execution.named])
      (.empty [] ⟨none, none⟩)).2.locate "sampled" = .ok ["sampled"] := by decide +kernel
  obtain rfl := Except.ok.inj (hp.symm.trans hlocation)
  rw [houtputs] at hexact
  refine hexact.mpr fun name bytes _ hbefore => ?_
  have hempty := Disk.node?_empty ⟨none, none⟩ (List.cons_ne_nil "sampled" [name])
  exact nomatch hempty.symm.trans hbefore

/-- The output of an earlier job stays: a job that succeeds without an output
leaves a part file with a line that is not its own. -/
theorem earlier_output_stays :
    let first := Execution.run (fun _ => 0) (Execution.sampling .text [Execution.named])
      (.empty [] ⟨none, none⟩)
    let second := Execution.run (fun _ => 0) (Execution.sampling .text [Execution.blank]) first.2
    second.1.status = .succeeded ∧ second.1.outputs = [] ∧
      second.2.locate "sampled" = .ok ["sampled"] ∧
      ¬HoldsExactly (fun _ => 0) 4 second.1.outputs ["sampled"] second.2 := by
  intro first second
  have houtputs : second.1.outputs = [] := by decide +kernel
  refine ⟨by decide +kernel, houtputs, by decide +kernel, fun hexact => ?_⟩
  have hfile : second.2.node? ["sampled", "part-r-00000"] =
      some (.file (Utf8.bytes "a\tAnn\n")) := by decide +kernel
  obtain ⟨i, hi, -⟩ := (hexact "part-r-00000" _ (List.prefix_append _ _)).mp hfile
  rw [houtputs] at hi
  exact absurd hi List.not_mem_nil

end JobLedger.PartFiles

import JobLedger.Proofs.Job.PartFiles
import JobLedger.Proofs.Text.Cut
import JobLedger.Proofs.Text.Utf8
import Mathlib.Algebra.Order.BigOperators.Group.List
import Mathlib.Algebra.Order.Group.Nat
import Mathlib.Data.Set.List

/-!
# Reading a text output back

A reader of an output takes the part files of a directory, line by line, and
splits each line at its first tab. Keys and values are written as they are, so
the separators of the format can stand in them too: a line feed makes two lines
of one record, and a tab in a key moves the split.

`text_output_read_back` says when the reader gets what the job emitted: exactly
if no key has a tab or a line feed and no value has a line feed. A reader that
counts a carriage return as part of the line end asks for values that do not
end with one.

What is read is known line by line (`linesOf_flatMap`), and no record is read
as more than it is (`weight_readPair_le`). So if the records come back as a
whole, each of them does (`readRecords_perm_iff`).
-/

namespace JobLedger.PartFiles

/-! ## Readers -/

/-- The key and the value in a line, if there is a tab between them. -/
def readPair (line : List Char) : Option (String × String) :=
  (cutFirst '\t' line).map fun (key, value) => (.ofList key, .ofList value)

instance : DecidablePred IsPart := fun name =>
  inferInstanceAs (Decidable ("part-r-".toList <+: name.toList))

/-- The content of the file of a name in a directory, if it is a part file. -/
def partContent? (d : Disk) (p : Path) (name : String) : Option Bytes :=
  match d.node? (p ++ [name]) with
  | some (.file content) => if IsPart name then some content else none
  | _ => none

def readText (content : Bytes) : Except DiskError String :=
  (Utf8.decode content).mapError fun _ => .notText

/-- Reads the part files of a directory, with a function that takes a text
apart into lines. -/
def readOutput (linesOf : List Char → List (List Char)) (dir : String) (d : Disk) :
    Except DiskError (List (Option (String × String))) := do
  let p ← d.locate dir
  let texts ← ((d.namesAt p).filterMap (partContent? d p)).mapM readText
  return texts.flatMap fun text => (linesOf text.toList).map readPair

/-- The lines of a text are its pieces between line feeds, each of them cut at
the end by `trim`. -/
structure CutsAtFeeds (linesOf : List Char → List (List Char)) (trim : List Char → List Char) :
    Prop where
  nil : linesOf [] = []
  append : ∀ cs rest, linesOf (cs ++ '\n' :: rest) = (pieces '\n' cs).map trim ++ linesOf rest
  trims : ∀ cs, trim cs <+: cs

theorem cutsAtFeeds_feedLines : CutsAtFeeds feedLines id where
  nil := rfl
  append cs rest := by rw [feedLines_append, List.map_id]
  trims _ := List.prefix_rfl

theorem cutsAtFeeds_lines : CutsAtFeeds lines withoutReturn where
  nil := rfl
  append := lines_append
  trims := prefix_withoutReturn

/-! ## One record -/

/-- The line of a record, without its end. -/
def body (r : OutputRecord) : List Char := r.key.toList ++ '\t' :: r.value.toList

theorem line_eq (r : OutputRecord) : line r = Utf8.encode (body r ++ ['\n']) := by
  rw [line, body, List.append_assoc, List.cons_append]

/-- What a reader should make of a record. -/
def pair (r : OutputRecord) : Option (String × String) := some (r.key, r.value)

theorem feed_not_mem_body_iff {r : OutputRecord} :
    '\n' ∉ body r ↔ '\n' ∉ r.key.toList ∧ '\n' ∉ r.value.toList := by
  simp [body]

theorem readPair_body_iff {r : OutputRecord} :
    readPair (body r) = pair r ↔ '\t' ∉ r.key.toList := by
  unfold readPair pair body
  constructor
  · intro h
    obtain ⟨⟨key, value⟩, hcut, hpair⟩ := Option.map_eq_some_iff.mp h
    have hkey : String.ofList key = r.key := congrArg Prod.fst hpair
    rw [← hkey, String.toList_ofList]
    exact (cutFirst_eq_some_iff.mp hcut).2
  · intro htab
    rw [cutFirst_eq_some_iff.mpr ⟨rfl, htab⟩]
    simp

/-- How much there is to a pair, with the key counted twice. -/
def weight : Option (String × String) → Nat
  | none => 0
  | some (key, value) => 2 * key.toList.length + value.toList.length + 1

/-- However a line was cut at its end, the reader gets no more out of it than
the record is, and as much only if it gets the record. -/
theorem weight_readPair_le {r : OutputRecord} {cs : List Char} (hcs : cs <+: body r) :
    weight (readPair cs) ≤ weight (pair r) ∧
      (weight (readPair cs) = weight (pair r) → readPair cs = pair r ∧ cs = body r) := by
  cases hcut : cutFirst '\t' cs with
  | none => simp [readPair, hcut, weight, pair]
  | some parts =>
      obtain ⟨key, value⟩ := parts
      obtain ⟨rfl, htab⟩ := cutFirst_eq_some_iff.mp hcut
      obtain ⟨rest, hrest⟩ := hcs
      rw [List.append_assoc, List.cons_append, body] at hrest
      -- The first tab of the line is not behind the one that follows the key.
      obtain ⟨more, hkey, hvalue⟩ : ∃ more, r.key.toList = key ++ more ∧
          more ++ '\t' :: r.value.toList = '\t' :: (value ++ rest) := by
        rcases List.append_eq_append_iff.mp hrest with ⟨more, hkey, hvalue⟩ | ⟨more, hkey, hvalue⟩
        · exact ⟨more, hkey, hvalue.symm⟩
        · cases more with
          | nil => exact ⟨[], by simpa using hkey.symm, by simpa using hvalue⟩
          | cons c more =>
              obtain ⟨rfl, -⟩ := List.cons.inj hvalue
              exact absurd (by simp [hkey]) htab
      have hkeylen := congrArg List.length hkey
      have hvaluelen := congrArg List.length hvalue
      simp only [List.length_append, List.length_cons] at hkeylen hvaluelen
      simp only [readPair, hcut, Option.map_some, weight, pair, String.toList_ofList]
      refine ⟨by omega, fun heq => ?_⟩
      obtain rfl : more = [] := List.length_eq_zero_iff.mp (by omega)
      obtain rfl : rest = [] := List.length_eq_zero_iff.mp (by omega)
      rw [List.append_nil] at hkey
      obtain rfl : r.value.toList = value := by simpa using hvalue
      simp [← hkey, body]

/-! ## All records -/

section

variable {linesOf : List Char → List (List Char)} {trim : List Char → List Char}

/-- What a reader makes of records. -/
def readRecords (trim : List Char → List Char) (records : List OutputRecord) :
    List (Option (String × String)) :=
  records.flatMap fun r => ((pieces '\n' (body r)).map trim).map readPair

/-- A record that a reader finds alone on its line, and gets from it. -/
def ReadsBack (trim : List Char → List Char) (r : OutputRecord) : Prop :=
  '\n' ∉ body r ∧ '\t' ∉ r.key.toList ∧ trim (body r) = body r

/-- As many lines as records leave no record with two lines. -/
theorem feed_not_mem_body_of_length {records : List OutputRecord}
    (h : (readRecords trim records).length = records.length) :
    ∀ r ∈ records, '\n' ∉ body r := by
  by_contra hsome
  push Not at hsome
  obtain ⟨r, hr, hmem⟩ := hsome
  have hcount := List.count_pos_iff.mpr hmem
  have hlines : (records.map fun _ => 1).sum <
      (records.map fun r => (pieces '\n' (body r)).length).sum := by
    refine List.sum_lt_sum _ _ (fun r _ => ?_) ⟨r, hr, ?_⟩ <;> rw [length_pieces] <;> omega
  have hone : (records.map fun _ => 1).sum = records.length := by simp
  simp only [readRecords, List.length_flatMap, List.length_map] at h
  omega

theorem readRecords_of_not_mem {records : List OutputRecord}
    (h : ∀ r ∈ records, '\n' ∉ body r) :
    readRecords trim records = records.map fun r => readPair (trim (body r)) := by
  rw [readRecords, List.map_eq_flatMap]
  refine List.flatMap_congr fun r hr => ?_
  rw [pieces_of_not_mem (h r hr)]
  rfl

variable (hcuts : CutsAtFeeds linesOf trim)

include hcuts

theorem linesOf_flatMap (records : List OutputRecord) :
    (linesOf (records.flatMap fun r => body r ++ ['\n'])).map readPair =
      readRecords trim records := by
  induction records with
  | nil => rw [List.flatMap_nil, hcuts.nil, readRecords, List.flatMap_nil, List.map_nil]
  | cons r records ih =>
      rw [List.flatMap_cons, List.append_assoc, List.singleton_append, hcuts.append,
        List.map_append, ih, readRecords, readRecords, List.flatMap_cons]

/-- The records are read back as a whole exactly if each of them is. -/
theorem readRecords_perm_iff (records : List OutputRecord) :
    (readRecords trim records).Perm (records.map pair) ↔ ∀ r ∈ records, ReadsBack trim r := by
  constructor
  · intro hperm
    have hfeed := feed_not_mem_body_of_length (by simpa using hperm.length_eq)
    rw [readRecords_of_not_mem hfeed] at hperm
    have hsum := (hperm.map weight).sum_eq
    rw [List.map_map, List.map_map] at hsum
    have hle := fun r => weight_readPair_le (r := r) (hcuts.trims (body r))
    intro r hr
    -- If one record weighed less than it should, all of them together would.
    have hweight : weight (readPair (trim (body r))) = weight (pair r) := by
      refine Nat.le_antisymm (hle r).1 (Nat.not_lt.mp fun hlt => ?_)
      exact (List.sum_lt_sum _ _ (fun r _ => (hle r).1) ⟨r, hr, hlt⟩).ne hsum
    obtain ⟨hread, htrim⟩ := (hle r).2 hweight
    exact ⟨hfeed r hr, readPair_body_iff.mp (htrim ▸ hread), htrim⟩
  · intro hback
    rw [readRecords_of_not_mem fun r hr => (hback r hr).1]
    refine List.Perm.of_eq (List.map_congr_left fun r hr => ?_)
    rw [(hback r hr).2.2, readPair_body_iff.mpr (hback r hr).2.1]

end

/-! ## All part files -/

theorem partContent?_eq_some_iff {d : Disk} {p : Path} {name : String} {bytes : Bytes} :
    partContent? d p name = some bytes ↔
      IsPart name ∧ d.node? (p ++ [name]) = some (.file bytes) := by
  unfold partContent?
  split
  · next content hfile =>
    rw [hfile]
    by_cases hname : IsPart name <;> simp [hname]
  · next hother =>
    simpa using fun _ hfile => absurd hfile (hother bytes)

/-- There is no part file in a directory. -/
def NoParts (d : Disk) (p : Path) : Prop := ∀ name, partContent? d p name = none

theorem isPart_partName (i : Nat) : IsPart (partName i) := by
  rw [IsPart, partName, String.toList_append]
  exact List.prefix_append ..

section

variable {hash : String → Nat} {spec : OutputSpec} {records : List OutputRecord} {p : Path}
  {d d' : Disk}

/-- Where no part file was, the part files are those of the parts. -/
theorem Written.partContent?_iff (h : Written hash spec records p d d') (hfresh : NoParts d p)
    {name : String} {bytes : Bytes} :
    partContent? d' p name = some bytes ↔ ∃ i ∈ usedParts hash spec.splits records,
      name = partName i ∧ bytes = content hash spec.splits records i := by
  rw [partContent?_eq_some_iff, h.file_iff]
  constructor
  · rintro ⟨hname, hpart | ⟨-, hbefore⟩⟩
    · exact hpart
    · have hnone := hfresh name
      rw [partContent?_eq_some_iff.mpr ⟨hname, hbefore⟩] at hnone
      cases hnone
  · rintro ⟨i, hi, rfl, rfl⟩
    exact ⟨isPart_partName i, .inl ⟨i, hi, rfl, rfl⟩⟩

/-- A listing of the directory has each part once. -/
theorem Written.contents_perm (h : Written hash spec records p d d') (hfresh : NoParts d p) :
    ((d'.namesAt p).filterMap (partContent? d' p)).Perm
      ((usedParts hash spec.splits records).map (content hash spec.splits records)) := by
  have hpart : ∀ i ∈ usedParts hash spec.splits records,
      partContent? d' p (partName i) = some (content hash spec.splits records i) :=
    fun i hi => (h.partContent?_iff hfresh).mpr ⟨i, hi, rfl, rfl⟩
  have hnames : ((d'.namesAt p).filter fun name => (partContent? d' p name).isSome).Perm
      ((usedParts hash spec.splits records).map partName) := by
    have hparts : (usedParts hash spec.splits records).Nodup := List.nodup_dedup _
    refine (List.perm_ext_iff_of_nodup ((Disk.nodup_namesAt d' p).filter _)
      (hparts.map partName_injective)).mpr fun name => ?_
    rw [List.mem_filter, List.mem_map, Option.isSome_iff_exists, Disk.mem_namesAt,
      ← Disk.node?_of_ne_nil d' (by simp)]
    constructor
    · rintro ⟨-, bytes, hbytes⟩
      obtain ⟨i, hi, rfl, -⟩ := (h.partContent?_iff hfresh).mp hbytes
      exact ⟨i, hi, rfl⟩
    · rintro ⟨i, hi, rfl⟩
      rw [(partContent?_eq_some_iff.mp (hpart i hi)).2]
      exact ⟨rfl, _, hpart i hi⟩
  -- The other names contribute nothing.
  have hleft : ((d'.namesAt p).filter fun name => (partContent? d' p name).isSome).filterMap
      (partContent? d' p) = (d'.namesAt p).filterMap (partContent? d' p) := by
    rw [List.filterMap_filter]
    refine List.filterMap_congr fun name _ => ?_
    cases partContent? d' p name <;> rfl
  have hright : ((usedParts hash spec.splits records).map partName).filterMap
      (partContent? d' p) =
      (usedParts hash spec.splits records).map (content hash spec.splits records) := by
    rw [List.filterMap_map, ← List.filterMap_eq_map]
    exact List.filterMap_congr hpart
  exact hleft ▸ hright ▸ hnames.filterMap (partContent? d' p)

/-- The text of a part. -/
def partText (hash : String → Nat) (splits : UInt32) (records : List OutputRecord) (i : Nat) :
    String :=
  .ofList ((inPart hash splits records i).flatMap fun r => body r ++ ['\n'])

theorem content_eq (splits : UInt32) (i : Nat) :
    content hash splits records i = Utf8.bytes (partText hash splits records i) := by
  rw [content, partText, Utf8.bytes, String.toList_ofList, Utf8.encode, List.flatMap_assoc]
  exact List.flatMap_congr fun r _ => line_eq r

theorem mapM_readText (texts : List String) :
    (texts.map Utf8.bytes).mapM readText = .ok texts := by
  induction texts with
  | nil => rfl
  | cons text texts ih =>
      rw [List.map_cons, List.mapM_cons, ih, readText, Utf8.decode_bytes]
      rfl

/-- What is read are the records of the parts, one after another. -/
theorem Written.readOutput_eq (h : Written hash spec records p d d') (hfresh : NoParts d p)
    {linesOf : List Char → List (List Char)} {trim : List Char → List Char}
    (hcuts : CutsAtFeeds linesOf trim) :
    ∃ read, readOutput linesOf spec.location d' = .ok read ∧
      read.Perm (readRecords trim records) := by
  have hcontents := h.contents_perm hfresh
  obtain ⟨texts, htexts⟩ : (d'.namesAt p).filterMap (partContent? d' p) ∈
      Set.range (List.map Utf8.bytes) := by
    rw [Set.range_list_map]
    intro bytes hbytes
    obtain ⟨i, -, rfl⟩ := List.mem_map.mp (hcontents.mem_iff.mp hbytes)
    exact ⟨_, (content_eq spec.splits i).symm⟩
  have hperm : texts.Perm
      ((usedParts hash spec.splits records).map (partText hash spec.splits records)) := by
    refine (List.map_perm_map_iff fun _ _ => Utf8.bytes_injective).mp ?_
    rw [htexts, List.map_map]
    exact hcontents.trans (.of_eq (List.map_congr_left fun i _ => content_eq spec.splits i))
  refine ⟨texts.flatMap fun text => (linesOf text.toList).map readPair, ?_, ?_⟩
  · rw [readOutput, h.location]
    simp only [bind, Except.bind, ← htexts, mapM_readText]
    rfl
  · have hlines : ∀ i, (linesOf (partText hash spec.splits records i).toList).map readPair =
        readRecords trim (inPart hash spec.splits records i) := by
      intro i
      rw [partText, String.toList_ofList, linesOf_flatMap hcuts]
    refine (hperm.flatMap_right _).trans ?_
    rw [List.flatMap_map]
    simp only [hlines]
    unfold readRecords
    rw [← List.flatMap_assoc]
    exact (perm_flatMap_inPart records).flatMap_right _

end

/-! ## After a job -/

theorem readsBack_id_iff {r : OutputRecord} :
    ReadsBack id r ↔
      '\t' ∉ r.key.toList ∧ '\n' ∉ r.key.toList ∧ '\n' ∉ r.value.toList := by
  rw [ReadsBack, feed_not_mem_body_iff, id, and_iff_left rfl]
  tauto

theorem readsBack_withoutReturn_iff {r : OutputRecord} :
    ReadsBack withoutReturn r ↔
      ('\t' ∉ r.key.toList ∧ '\n' ∉ r.key.toList ∧ '\n' ∉ r.value.toList) ∧
        r.value.toList.getLast? ≠ some '\r' := by
  have hlast : (body r).getLast? ≠ some '\r' ↔ r.value.toList.getLast? ≠ some '\r' := by
    rw [body, List.getLast?_append_of_ne_nil _ (List.cons_ne_nil _ _)]
    cases hvalue : r.value.toList with
    | nil => decide
    | cons c cs => rw [List.getLast?_cons_cons]
  rw [ReadsBack, feed_not_mem_body_iff, withoutReturn_eq_self_iff, hlast]
  tauto

/-- In a tree with nothing in it, there is no part file in any directory. -/
theorem noParts_empty (limits : NameLimits) (p : Path) : NoParts (.empty [] limits) p := by
  intro name
  have hnone : (Disk.empty [] limits).node? (p ++ [name]) = none :=
    Disk.node?_empty limits (p := p ++ [name]) (by simp)
  rw [partContent?, hnone]

/-- A job with one row, of which it puts out the name. -/
def naming (key name : String) : PreparedJob :=
  Execution.sampling .text [⟨key, .ofList [("info:name", name)]⟩]

end JobLedger.PartFiles

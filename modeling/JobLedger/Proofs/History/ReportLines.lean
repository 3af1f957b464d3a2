import JobLedger.History.Report
import JobLedger.Proofs.History.Timestamp

/-!
# The lines of a report

A report is made of items: a head that the report chooses, and a text behind it,
with a line feed at the end. The texts of a record are shown as they are stored,
so a line feed in one of them begins a line that the report has not chosen.

`labelled_lines_of_report` counts the lines that begin with the label of a
field: one if the record has the field, and those that a stored text continues
with. So a label is there exactly for the fields of the record as long as no
stored text has a line that looks like one.
-/

namespace JobLedger

/-! ## Times -/

theorem Timestamp.feed_not_mem_format (ms : UInt64) : '\n' ∉ (format ms).toList := by
  intro hmem
  rcases Nat.lt_or_ge ms.toNat limit with hlt | hge
  · rw [format_of_lt hlt, Stamp.toList_text] at hmem
    rcases mem_joinPieces hmem with hblank | ⟨p, hp, hfeed⟩
    · exact absurd hblank (by decide)
    · exact Stamp.not_mem_parts (by decide) (by decide) (by decide) (by decide) _ p hp hfeed
  · rw [format_of_ge hge, toList_plain] at hmem
    rcases List.mem_append.mp hmem with hdigit | hunit
    · exact absurd (Numeral.isDigit_of_mem_toDigits hdigit) (by decide)
    · exact absurd hunit (by decide)

namespace Report

/-! ## Items -/

/-- A part of a report that ends with a line feed. -/
structure Item where
  head : String
  text : String

namespace Item

def toText (i : Item) : String := i.head ++ i.text ++ "\n"

/-- A text behind a label. -/
def labelled (label text : String) : Item :=
  ⟨label ++ .ofList (List.replicate (labelWidth - label.length) ' '), text⟩

/-- The beginning of a section. -/
def heading (title : String) : Item := ⟨title, ""⟩

/-- A line of a section. -/
def indented (text : String) : Item := ⟨"  ", text⟩

end Item

/-- How an entry of a section is shown. -/
def entryText (name value : String) : String := name ++ "=" ++ value

def summaryItems (r : JobRecord) : List Item :=
  (r.jobName.map (.labelled "Job Name:")).toList
    ++ [.labelled "Job ID:" r.jobId]
    ++ (r.startTime.map fun t => .labelled "Start Time:" (Timestamp.format t)).toList
    ++ (r.endTime.map fun t => .labelled "End Time:" (Timestamp.format t)).toList
    ++ (r.endStatus.map fun s => .labelled "End Status:" s.name).toList

/-- The texts of the counters of a record, shown in a section if there are any. -/
def counterTexts (r : JobRecord) : List String :=
  match r.counters with
  | some c => c.toList.map fun e => entryText e.1 (toString e.2.toInt)
  | none => []

/-- The texts of the entries of a configuration that is one. -/
def settingTexts (r : JobRecord) : List String :=
  match r.configuration.bind JobConf.ofText? with
  | some conf => conf.toList.map fun e => entryText e.1 e.2
  | none => []

def extensionTexts (r : JobRecord) : List String :=
  r.extensions.entries.map fun e => entryText e.1 e.2

/-- The lines of a configuration that is none. -/
def rawLines (r : JobRecord) : List String :=
  match r.configuration with
  | some text =>
      if (JobConf.ofText? text).isNone then (lines text.toList).map .ofList else []
  | none => []

def titled (title : String) (texts : List String) : List Item :=
  .heading title :: texts.map .indented

/-- A section, unless it is empty. -/
def sectionItems (title : String) (texts : List String) : List Item :=
  if texts = [] then [] else titled title texts

def configurationItems (r : JobRecord) : List Item :=
  if r.configuration.isNone then [] else titled "Configuration:" (settingTexts r ++ rawLines r)

/-- The items behind the summary. -/
def optionalItems (r : JobRecord) (o : ReportOptions) : List Item :=
  (if o.counters then sectionItems "Counters:" (counterTexts r) else [])
    ++ (if o.configuration then configurationItems r else [])
    ++ (if o.extensions then sectionItems "Extensions:" (extensionTexts r) else [])

def items (r : JobRecord) (o : ReportOptions) : List Item := summaryItems r ++ optionalItems r o

def textOf (l : List Item) : String := String.join (l.map Item.toText)

theorem textOf_append (l l' : List Item) : textOf (l ++ l') = textOf l ++ textOf l' := by
  rw [textOf, List.map_append, String.join_append]
  rfl

theorem textOf_indented (texts : List String) :
    textOf (texts.map .indented) = String.join (texts.map fun text => "  " ++ text ++ "\n") := by
  rw [textOf, List.map_map]
  rfl

theorem line_eq (label value : String) : line label value = textOf [.labelled label value] := by
  refine String.toList_injective ?_
  simp [line, textOf, Item.toText, Item.labelled, toString]

theorem lineFor_eq {α : Type} (label : String) (render : α → String) (value : Option α) :
    lineFor label render value = textOf (value.map fun a => .labelled label (render a)).toList := by
  cases value with
  | none => rfl
  | some a => exact line_eq label (render a)

theorem summary_eq (r : JobRecord) : summary r = textOf (summaryItems r) := by
  simp only [summary, summaryItems, textOf_append, lineFor_eq, line_eq, id]

theorem entries_eq {α : Type} (entries : List α) (name value : α → String) :
    String.join (entries.map fun e => entry (name e) (value e)) =
      textOf ((entries.map fun e => entryText (name e) (value e)).map .indented) := by
  rw [textOf_indented, List.map_map]
  refine congrArg String.join (List.map_congr_left fun e _ => String.toList_injective ?_)
  simp [entry, entryText, toString]

theorem textOf_titled (title : String) (texts : List String) :
    textOf (titled title texts) = title ++ "\n" ++ textOf (texts.map .indented) := by
  rw [titled, textOf, List.map_cons, String.join_cons, Item.toText, Item.heading,
    String.append_empty]
  rfl

theorem section_eq {α : Type} (title : String) (entries : List α) (name value : α → String) :
    textOf (sectionItems title (entries.map fun e => entryText (name e) (value e))) =
      if entries.isEmpty then ""
      else title ++ "\n" ++ String.join (entries.map fun e => entry (name e) (value e)) := by
  cases entries with
  | nil => rfl
  | cons e entries =>
      rw [entries_eq, ← textOf_titled, sectionItems, if_neg (by simp)]
      rfl

theorem countersSection_eq (r : JobRecord) :
    countersSection r = textOf (sectionItems "Counters:" (counterTexts r)) := by
  unfold countersSection counterTexts
  cases r.counters with
  | none => rfl
  | some c =>
      rw [section_eq]
      rfl

theorem extensionsSection_eq (r : JobRecord) :
    extensionsSection r = textOf (sectionItems "Extensions:" (extensionTexts r)) := by
  rw [extensionTexts, section_eq]
  rfl

theorem configurationSection_eq (r : JobRecord) :
    configurationSection r = textOf (configurationItems r) := by
  unfold configurationSection configurationItems settingTexts rawLines
  cases r.configuration with
  | none => rfl
  | some text =>
      rw [if_neg (by simp), textOf_titled, Option.bind_some]
      cases hconf : JobConf.ofText? text with
      | some conf =>
          simp only [hconf, Option.isNone_some, Bool.false_eq_true, if_false, List.append_nil,
            ← entries_eq]
          rfl
      | none =>
          simp only [hconf, Option.isNone_none, if_true, List.nil_append]
          rw [textOf_indented, List.map_map]
          rfl

theorem render_eq (r : JobRecord) (o : ReportOptions) : render r o = textOf (items r o) := by
  have hif : ∀ (b : Bool) (l : List Item),
      textOf (if b then l else []) = if b then textOf l else "" := by
    intro b l
    cases b <;> rfl
  simp only [render, items, optionalItems, textOf_append, hif, summary_eq, countersSection_eq,
    configurationSection_eq, extensionsSection_eq, String.append_assoc]

/-! ## Lines -/

/-- The lines of a text behind its first one. -/
def continuations (text : String) : List (List Char) := (pieces '\n' text.toList).tail

theorem continuations_of_not_mem {text : String} (h : '\n' ∉ text.toList) :
    continuations text = [] := by rw [continuations, pieces_of_not_mem h]; rfl

/-- How many lines begin with a label. -/
def countLabelled (label : String) (ls : List (List Char)) : Nat :=
  ls.countP (label.toList.isPrefixOf ·)

/-- The labels of fields, each with whether a record has the field. -/
def labelsIf (jobName startTime endTime endStatus : Bool) : List (String × Bool) :=
  [("Job Name:", jobName), ("Job ID:", true), ("Start Time:", startTime), ("End Time:", endTime),
    ("End Status:", endStatus)]

def labels (r : JobRecord) : List (String × Bool) :=
  labelsIf r.jobName.isSome r.startTime.isSome r.endTime.isSome r.endStatus.isSome

def sectionHeads : List String := ["Counters:", "Configuration:", "Extensions:", "  "]

/-- The heads of all items. -/
def heads : List String :=
  ["Job Name:   ", "Job ID:     ", "Start Time: ", "End Time:   ", "End Status: "] ++ sectionHeads

/-- Whether an item begins with a label is seen in its head. -/
theorem isPrefixOf_head_append {r : JobRecord} {f : String × Bool} (hf : f ∈ labels r)
    {head : String} (hhead : head ∈ heads) (cs : List Char) :
    f.1.toList.isPrefixOf (head.toList ++ cs) = f.1.toList.isPrefixOf head.toList := by
  have hshort : ∀ label ∈ (labels r).map (·.1), ∀ head ∈ heads,
      head.toList.isPrefixOf label.toList = false := by
    show ∀ label ∈ ["Job Name:", "Job ID:", "Start Time:", "End Time:", "End Status:"], _
    decide +kernel
  rw [Bool.eq_iff_iff, List.isPrefixOf_iff_prefix, List.isPrefixOf_iff_prefix]
  constructor
  · intro h
    refine (List.prefix_or_prefix_of_prefix h (List.prefix_append ..)).resolve_right fun h' => ?_
    rw [← List.isPrefixOf_iff_prefix, hshort _ (List.mem_map_of_mem hf) _ hhead] at h'
    exact nomatch h'
  · exact fun h => h.trans (List.prefix_append ..)

/-- The lines of an item: one that begins with its head, and those that its
text continues with. -/
theorem countLabelled_item {r : JobRecord} {f : String × Bool} (hf : f ∈ labels r) {i : Item}
    (hi : i.head ∈ heads) :
    countLabelled f.1 (pieces '\n' (i.head.toList ++ i.text.toList)) =
      (if f.1.toList.isPrefixOf i.head.toList then 1 else 0) +
        countLabelled f.1 (continuations i.text) := by
  have hfeed : ∀ head ∈ heads, '\n' ∉ head.toList := by decide +kernel
  rw [pieces_append_of_not_mem (hfeed _ hi), continuations]
  cases hp : pieces '\n' i.text.toList with
  | nil => exact absurd hp (pieces_ne_nil _ _)
  | cons p ps =>
      rw [List.modifyHead_cons, countLabelled, List.countP_cons, isPrefixOf_head_append hf hi,
        Nat.add_comm]
      rfl

theorem toList_textOf (l : List Item) :
    (textOf l).toList = (l.map fun i => i.head.toList ++ i.text.toList).flatMap (· ++ ['\n']) := by
  rw [textOf, String.toList_join, List.flatMap_map, List.flatMap_map]
  refine List.flatMap_congr fun i _ => ?_
  simp [Item.toText]

theorem countLabelled_textOf {r : JobRecord} {f : String × Bool} (hf : f ∈ labels r)
    {l : List Item} (hl : ∀ i ∈ l, i.head ∈ heads) :
    countLabelled f.1 (feedLines (textOf l).toList) =
      (l.map (·.head)).countP (fun head => f.1.toList.isPrefixOf head.toList) +
        countLabelled f.1 (l.flatMap fun i => continuations i.text) := by
  rw [toList_textOf, feedLines_flatMap, List.flatMap_map]
  induction l with
  | nil => rfl
  | cons i l ih =>
      have hitem := countLabelled_item hf (hl i (List.mem_cons_self ..))
      have hrest := ih fun i hi => hl i (List.mem_cons_of_mem _ hi)
      simp only [countLabelled] at hitem hrest
      rw [List.flatMap_cons, List.flatMap_cons, List.map_cons, List.countP_cons, countLabelled,
        countLabelled, List.countP_append, List.countP_append, hitem, hrest]
      omega

/-! ## The items of a report -/

theorem head_titled {title : String} (htitle : title ∈ sectionHeads) {texts : List String}
    {i : Item} (h : i ∈ titled title texts) : i.head ∈ sectionHeads := by
  rcases List.mem_cons.mp h with rfl | h
  · exact htitle
  · obtain ⟨text, -, rfl⟩ := List.mem_map.mp h
    simp [Item.indented, sectionHeads]

theorem head_optionalItems {r : JobRecord} {o : ReportOptions} {i : Item}
    (h : i ∈ optionalItems r o) : i.head ∈ sectionHeads := by
  simp only [optionalItems, sectionItems, configurationItems, List.mem_append,
    List.mem_ite_nil_left, List.mem_ite_nil_right] at h
  rcases h with (⟨-, -, h⟩ | ⟨-, -, h⟩) | ⟨-, -, h⟩ <;>
    exact head_titled (by simp [sectionHeads]) h

theorem heads_summaryItems (r : JobRecord) :
    (summaryItems r).map (·.head) = ((labels r).filter (·.2)).map fun f =>
      (Item.labelled f.1 "").head := by
  obtain ⟨jobId, jobName, startTime, endTime, endStatus, counters, configuration, extensions⟩ := r
  cases jobName <;> cases startTime <;> cases endTime <;> cases endStatus <;> rfl

/-- The label of a field is at the head of one item if the record has the
field, and else of none. -/
theorem countP_heads {r : JobRecord} (o : ReportOptions) {f : String × Bool} (hf : f ∈ labels r) :
    ((items r o).map (·.head)).countP (fun head => f.1.toList.isPrefixOf head.toList) =
      if f.2 then 1 else 0 := by
  have hsummary : ∀ a b c d, ∀ f ∈ labelsIf a b c d,
      (((labelsIf a b c d).filter (·.2)).map fun f => (Item.labelled f.1 "").head).countP
        (fun head => f.1.toList.isPrefixOf head.toList) = if f.2 then 1 else 0 := by
    decide +kernel
  have hsections : ∀ label ∈ (labels r).map (·.1), ∀ head ∈ sectionHeads,
      ¬label.toList.isPrefixOf head.toList = true := by
    show ∀ label ∈ (labelsIf false false false false).map (·.1), _
    decide +kernel
  have hoptional : ((optionalItems r o).map (·.head)).countP
      (fun head => f.1.toList.isPrefixOf head.toList) = 0 := by
    refine List.countP_eq_zero.mpr fun head hhead => ?_
    obtain ⟨i, hi, rfl⟩ := List.mem_map.mp hhead
    exact hsections _ (List.mem_map_of_mem hf) _ (head_optionalItems hi)
  rw [items, List.map_append, List.countP_append, hoptional, heads_summaryItems]
  exact hsummary _ _ _ _ f hf

theorem head_items {r : JobRecord} {o : ReportOptions} {i : Item} (h : i ∈ items r o) :
    i.head ∈ heads := by
  rcases List.mem_append.mp h with h | h
  · refine List.mem_append_left _ ?_
    have hheads : ∀ a b c d, ∀ f ∈ labelsIf a b c d,
        (Item.labelled f.1 "").head ∈ ["Job Name:   ", "Job ID:     ", "Start Time: ",
          "End Time:   ", "End Status: "] := by decide +kernel
    have hmem := List.mem_map_of_mem (f := (·.head)) h
    rw [heads_summaryItems] at hmem
    obtain ⟨f, hf, hhead⟩ := List.mem_map.mp hmem
    exact hhead ▸ hheads _ _ _ _ f (List.mem_filter.mp hf).1
  · exact List.mem_append_right _ (head_optionalItems h)

/-! ## Stored texts -/

/-- The texts of a record that its report shows as they are stored. -/
def storedTexts (r : JobRecord) (o : ReportOptions) : List String :=
  r.jobName.toList ++ [r.jobId]
    ++ (if o.counters then counterTexts r else [])
    ++ (if o.configuration then settingTexts r else [])
    ++ (if o.extensions then extensionTexts r else [])

theorem continuations_titled (title : String) (texts : List String) :
    (titled title texts).flatMap (fun i => continuations i.text) = texts.flatMap continuations := by
  rw [titled, List.flatMap_cons, List.flatMap_map]
  rfl

theorem continuations_sectionItems (title : String) (texts : List String) :
    (sectionItems title texts).flatMap (fun i => continuations i.text) =
      texts.flatMap continuations := by
  unfold sectionItems
  split
  · next h => rw [h]; rfl
  · exact continuations_titled title texts

/-- The lines of a configuration that is none are shown one by one. -/
theorem continuations_configurationItems (r : JobRecord) :
    (configurationItems r).flatMap (fun i => continuations i.text) =
      (settingTexts r).flatMap continuations := by
  unfold configurationItems settingTexts rawLines
  cases r.configuration with
  | none => rfl
  | some text =>
      have hraw : ((lines text.toList).map String.ofList).flatMap continuations = [] := by
        refine List.flatMap_eq_nil_iff.mpr fun line hline => ?_
        obtain ⟨cs, hcs, rfl⟩ := List.mem_map.mp hline
        refine continuations_of_not_mem ?_
        rw [String.toList_ofList]
        exact feed_not_mem_of_mem_lines hcs
      rw [if_neg (by simp), continuations_titled, List.flatMap_append, Option.bind_some]
      cases hconf : JobConf.ofText? text with
      | some conf => simp [hconf]
      | none => simpa [hconf] using hraw

theorem continuations_summaryItems (r : JobRecord) :
    (summaryItems r).flatMap (fun i => continuations i.text) =
      (r.jobName.toList ++ [r.jobId]).flatMap continuations := by
  have htime : ∀ t : Option UInt64, ∀ label,
      (t.map fun t => Item.labelled label (Timestamp.format t)).toList.flatMap
        (fun i => continuations i.text) = [] := by
    intro t label
    cases t with
    | none => rfl
    | some t =>
        exact (List.append_nil _).trans
          (continuations_of_not_mem (Timestamp.feed_not_mem_format t))
  have hstatus : (r.endStatus.map fun s => Item.labelled "End Status:" s.name).toList.flatMap
      (fun i => continuations i.text) = [] := by
    cases r.endStatus with
    | none => rfl
    | some s => cases s <;> rfl
  rw [summaryItems, List.flatMap_append, List.flatMap_append, List.flatMap_append,
    List.flatMap_append, htime, htime, hstatus, List.append_nil, List.append_nil, List.append_nil,
    List.flatMap_append]
  cases r.jobName <;> rfl

/-- The lines that items continue with are those of the stored texts. -/
theorem continuations_items (r : JobRecord) (o : ReportOptions) :
    (items r o).flatMap (fun i => continuations i.text) =
      (storedTexts r o).flatMap continuations := by
  have hif : ∀ {l : List Item} {texts : List String},
      l.flatMap (fun i => continuations i.text) = texts.flatMap continuations → ∀ b : Bool,
      (if b then l else []).flatMap (fun i => continuations i.text) =
        (if b then texts else []).flatMap continuations := by
    intro l texts h b
    cases b
    · rfl
    · exact h
  simp only [items, optionalItems, storedTexts, List.flatMap_append, continuations_summaryItems,
    hif (continuations_sectionItems _ _), hif (continuations_configurationItems r),
    List.append_assoc]

/-- **The lines of a report that begin with the label of a field.** There is one
if the record has the field, and those that a stored text continues with behind
a line feed. So each field is shown exactly if it is there, and once, as long as
no stored text continues with a line that begins with its label. -/
theorem labelled_lines_of_report (r : JobRecord) (o : ReportOptions) :
    (∀ f ∈ labels r,
      countLabelled f.1 (feedLines (render r o).toList) =
        (if f.2 then 1 else 0) + countLabelled f.1 ((storedTexts r o).flatMap continuations) ∧
      (countLabelled f.1 (feedLines (render r o).toList) = (if f.2 then 1 else 0) ↔
        ∀ text ∈ storedTexts r o, ∀ line ∈ continuations text, ¬f.1.toList <+: line)) ∧
    ((∀ text ∈ storedTexts r o, '\n' ∉ text.toList) → ∀ f ∈ labels r,
      countLabelled f.1 (feedLines (render r o).toList) = if f.2 then 1 else 0) := by
  have hcount : ∀ f ∈ labels r, countLabelled f.1 (feedLines (render r o).toList) =
      (if f.2 then 1 else 0) +
        countLabelled f.1 ((storedTexts r o).flatMap continuations) := fun f hf => by
    rw [render_eq, countLabelled_textOf hf fun i => head_items, countP_heads o hf,
      continuations_items]
  have hnone : ∀ label, countLabelled label ((storedTexts r o).flatMap continuations) = 0 ↔
      ∀ text ∈ storedTexts r o, ∀ line ∈ continuations text, ¬label.toList <+: line := by
    intro label
    simp only [countLabelled, List.countP_eq_zero, List.mem_flatMap, List.isPrefixOf_iff_prefix]
    exact ⟨fun h text ht line hl => h line ⟨text, ht, hl⟩, fun h line ⟨text, ht, hl⟩ =>
      h text ht line hl⟩
  refine ⟨fun f hf => ⟨hcount f hf, ?_⟩, fun hfeed f hf => ?_⟩
  · rw [hcount f hf, ← hnone]
    omega
  · rw [hcount f hf, (hnone f.1).mpr fun text ht line hline => ?_, Nat.add_zero]
    rw [continuations_of_not_mem (hfeed text ht)] at hline
    exact absurd hline List.not_mem_nil

/-- A record without an end whose extension has two lines. -/
def noted : JobRecord :=
  { JobRecord.new "job-1" with
    jobName := some "sort", extensions := .ofList [("note", "late\nby a day")] }

/-- A line feed does no harm unless a label follows. -/
theorem labelled_lines_of_noted :
    countLabelled "Job Name:" (feedLines (render noted .all).toList) = 1 ∧
      countLabelled "End Time:" (feedLines (render noted .all).toList) = 0 ∧
      ∀ f ∈ labels noted, countLabelled f.1 (feedLines (render noted .summary).toList) =
        if f.2 then 1 else 0 := by
  have hlabels : ∀ f ∈ labels noted, ∀ text ∈ storedTexts noted .all,
      ∀ line ∈ continuations text, ¬f.1.toList <+: line := by decide +kernel
  have hall := (labelled_lines_of_report noted .all).1
  refine ⟨((hall ("Job Name:", true) (by decide +kernel)).2.mpr (hlabels _ (by decide +kernel))),
    ((hall ("End Time:", false) (by decide +kernel)).2.mpr (hlabels _ (by decide +kernel))),
    (labelled_lines_of_report noted .summary).2 (by decide +kernel)⟩

/-- A line feed in the name of a job makes a line of a field that the record
does not have, or a second line of one that it has. -/
theorem name_makes_labelled_lines :
    let ended := { JobRecord.new "job-1" with jobName := some "sort\nEnd Time: never" }
    let doubled := { JobRecord.new "job-1" with jobName := some "sort\nJob ID: job-2" }
    (ended.endTime = none ∧
      countLabelled "End Time:" (feedLines (render ended .summary).toList) = 1) ∧
    countLabelled "Job ID:" (feedLines (render doubled .summary).toList) = 2 := by
  decide +kernel

end Report

end JobLedger

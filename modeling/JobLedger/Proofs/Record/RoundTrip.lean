import JobLedger.Proofs.Json.Codec
import JobLedger.Record.Basic

/-!
# Records read back

A record is read back from its written form with all that it has
(`JobRecord.ofText?_writtenAt`): an absent field is written as `null` and is
absent again. Together with counters and configurations, that is every value
that is stored as JSON (`written_values_read_back`).

Every field is read by its own reader, so the proof is one lemma per reader,
put together by name.
-/

namespace JobLedger

namespace Json

/-- The range of 64 bits is the range that the reader takes. -/
theorem word?_int (n : UInt64) : (Json.int n.toNat).word? = some n := by
  have hlt := n.toNat_lt
  rw [word?, intIn?, if_pos ⟨by omega, by omega⟩, Option.map_some, Int.toNat_natCast,
    UInt64.ofNat_toNat]

/-- A value that may be absent is read back, unless its reader takes `null`
for a value. -/
theorem nullable?_ofOption {α : Type} {f : α → Json} {read : Json → Option α}
    (hread : ∀ a, read (f a) = some a) (hnull : ∀ a, f a ≠ .null) (o : Option α) :
    (ofOption f o).nullable? read = some o := by
  cases o with
  | none => rfl
  | some a =>
      rw [ofOption, nullable?, hread, Option.map_some]
      exact hnull a

theorem plain_ofOption {α : Type} {f : α → Json} (h : ∀ a, (f a).plain = true) (o : Option α) :
    (ofOption f o).plain = true := by
  cases o with
  | none => rfl
  | some a => exact h a

end Json

theorem JobStatus.ofJson?_toJson (s : JobStatus) : ofJson? s.toJson = some s := ofName?_name s

namespace JobRecord

theorem plain_toJson (r : JobRecord) : r.toJson.plain = true := by
  have htext : ∀ o : Option String, (Json.ofOption .text o).plain = true :=
    Json.plain_ofOption fun _ => rfl
  have htime : ∀ o : Option UInt64, (Json.ofOption (fun t => .int t.toNat) o).plain = true :=
    Json.plain_ofOption fun _ => rfl
  have hstatus := Json.plain_ofOption (f := JobStatus.toJson) (fun _ => rfl) r.endStatus
  have hcounters := Json.plain_ofOption Counters.plain_toJson r.counters
  have hextensions : (Json.ofDict .text r.extensions).plain = true :=
    Json.plain_ofDict (fun _ => rfl) r.extensions
  simp [toJson, Json.object, Json.plain, Json.plainMembers, Json.plain_text, htext, htime, hstatus,
    hcounters, hextensions]

theorem ofJson?_toJson (r : JobRecord) : ofJson? r.toJson = some r := by
  have htext : ∀ o : Option String,
      (Json.ofOption .text o).nullable? Json.text? = some o :=
    Json.nullable?_ofOption Json.text?_text fun _ => nofun
  have htime : ∀ o : Option UInt64,
      (Json.ofOption (fun t => .int t.toNat) o).nullable? Json.word? = some o :=
    Json.nullable?_ofOption Json.word?_int fun _ => nofun
  have hstatus := Json.nullable?_ofOption JobStatus.ofJson?_toJson (fun _ => nofun) r.endStatus
  have hcounters := Json.nullable?_ofOption Counters.ofJson?_toJson (fun _ => nofun) r.counters
  have hextensions : (Json.ofDict .text r.extensions).dict? Json.text? = some r.extensions :=
    Json.dict?_ofDict_self Json.text?_text r.extensions
  simp [ofJson?, toJson, fieldNames, Json.object, Json.fields?, Fields.named?, Fields.required,
    Fields.optional, Fields.get?, List.lookup_cons, Json.text?_text, htext, htime, hstatus,
    hcounters, hextensions]

/-- A record is read back from its written form, with any blanks between the
tokens. -/
theorem ofText?_writtenAt {s : Json.Spacing} (hs : s.Blank) (r : JobRecord) :
    ofText? (.ofList (r.toJson.writtenAt s 0)) = some r := by
  rw [ofText?, Json.parse?_writtenAt hs r.plain_toJson, Option.bind_some, ofJson?_toJson]

end JobRecord

/-- What is written as JSON is read back as it was: counters in compact form,
configurations in indented form, and records in either, whatever their texts
contain. -/
theorem written_values_read_back :
    (∀ c : Counters, Counters.ofText? c.toText = some c) ∧
    (∀ c : JobConf, JobConf.ofText? c.toText = some c) ∧
    ∀ r : JobRecord, JobRecord.ofText? r.toText = some r ∧
      JobRecord.ofText? r.toJson.toIndentedText = some r :=
  ⟨Counters.ofText?_toText, JobConf.ofText?_toText, fun r =>
    ⟨JobRecord.ofText?_writtenAt Json.Spacing.blank_none r,
      JobRecord.ofText?_writtenAt Json.Spacing.blank_lines r⟩⟩

end JobLedger

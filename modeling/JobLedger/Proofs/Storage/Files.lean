import JobLedger.Proofs.Json.Codec
import JobLedger.Proofs.Text.Hex
import JobLedger.Storage.Layout
import JobLedger.Storage.RowFile

/-!
# Table files read back

A layout file holds the layout that was written (`ofBytes?_layout`), a row
file the row (`decode_content`), whatever names, keys and values they have.
The name of a row file stands for the key of the row (`key?_name`), except
for the empty key: its file name begins with the point, so it has no ending
and is not taken for a row file.
-/

namespace JobLedger

/-! ## Layout files -/

theorem TableLayout.plain_toJson (l : TableLayout) : l.toJson.plain = true := by
  have hfamilies : Json.plainItems (l.families.map .text) = true := by
    induction l.families with
    | nil => rfl
    | cons f fs ih => exact ih
  simp [toJson, Json.object, Json.plain, Json.plainMembers, hfamilies, Json.plain_text]

theorem TableLayout.ofJson?_toJson (l : TableLayout) : ofJson? l.toJson = some l := by
  have hfamilies : (l.families.map Json.text).mapM Json.text? = some l.families := by
    rw [List.mapM_map]
    exact (Json.mapM_eq_some_map (g := id) (fun _ => rfl) _).trans (congrArg some (List.map_id _))
  simp [ofJson?, toJson, Json.object, Json.fields?, Fields.named?, Fields.required, Fields.orElse,
    Fields.get?, List.lookup_cons, Json.list?, Json.text?_text, hfamilies]

/-- A layout is read back from its file. -/
theorem ofBytes?_layout (l : TableLayout) :
    (Json.ofBytes? (Utf8.encode l.toJson.indented)).bind TableLayout.ofJson? = some l := by
  rw [Json.indented, Json.ofBytes?_writtenAt Json.Spacing.blank_lines l.plain_toJson,
    Option.bind_some, TableLayout.ofJson?_toJson]

namespace RowFile

/-! ## Row files -/

theorem plain_toJson (r : Row) : (toJson r).plain = true := by
  have hcells := Json.plain_ofDict (f := Json.ofDict fun value => .text (Hex.text value))
    (fun d => Json.plain_ofDict (fun _ => rfl) d) r.cells
  simp [toJson, Json.object, Json.plain, Json.plainMembers, hcells, Json.plain_text]

theorem ofJson?_toJson (r : Row) :
    ofJson? (toJson r) =
      some (r.key, r.cells.mapValues fun _ d => d.mapValues fun _ => Hex.text) := by
  have hcells : (Json.ofDict (Json.ofDict fun value => .text (Hex.text value)) r.cells).dict?
      (Json.dict? Json.text?) = some (r.cells.mapValues fun _ d => d.mapValues fun _ => Hex.text) :=
    Json.dict?_ofDict (fun d => Json.dict?_ofDict (fun value => Json.text?_text (Hex.text value)) d)
      r.cells
  simp [ofJson?, toJson, Json.object, Json.fields?, Fields.named?, Fields.required, Fields.get?,
    List.lookup_cons, Json.text?_text, hcells]

theorem decodeFamily_map (key family : String) : ∀ l : List (String × Bytes),
    decodeFamily key family (l.map fun e => (e.1, Hex.text e.2)) = .ok l
  | [] => rfl
  | e :: r => by
      rw [List.map_cons, decodeFamily, Hex.text, String.toList_ofList, Hex.decode?_encode,
        decodeFamily_map key family r]
      rfl

theorem decodeCells_map (key : String) : ∀ l : List (String × Dict String Bytes),
    decodeCells key (l.map fun e => (e.1, e.2.mapValues fun _ => Hex.text)) = .ok l
  | [] => rfl
  | e :: r => by
      have hfamily : decodeFamily key e.1 (e.2.mapValues fun _ => Hex.text).entries
          = .ok e.2.entries := decodeFamily_map key e.1 e.2.entries
      rw [List.map_cons, decodeCells, hfamily, decodeCells_map key r]
      simp [Except.map, Dict.ofList_entries]

/-- A row is read back from its file. -/
theorem decode_content (r : Row) : decode (content r) = .ok r := by
  have hcells : decodeCells r.key
      (r.cells.mapValues fun _ d => d.mapValues fun _ => Hex.text).entries = .ok r.cells.entries :=
    decodeCells_map r.key r.cells.entries
  rw [decode, content, Json.compact,
    Json.ofBytes?_writtenAt Json.Spacing.blank_none (plain_toJson r),
    Option.bind_some, ofJson?_toJson]
  simp [hcells, Except.map, Dict.ofList_entries]

/-! ## Names of row files -/

theorem toList_name (key : String) :
    (name key).toList = Hex.encode (Utf8.bytes key) ++ '.' :: ending.toList := by
  simp [name, Hex.text]

theorem name_injective {key key' : String} (h : name key = name key') : key = key' := by
  have hlist := congrArg String.toList h
  rw [toList_name, toList_name] at hlist
  exact Utf8.bytes_injective (Hex.encode_injective (List.append_cancel_right hlist))

/-- Digits, a point and the ending: no other character is in the name of a
row file. -/
theorem mem_toList_name {key : String} {c : Char} (h : c ∈ (name key).toList) :
    (∃ d < 16, c = Hex.digit d) ∨ c ∈ '.' :: ending.toList := by
  rw [toList_name] at h
  exact (List.mem_append.mp h).imp Hex.exists_digit_of_mem_encode id

theorem cutLast_name (key : String) :
    cutLast '.' (name key).toList = some (Hex.encode (Utf8.bytes key), ending.toList) :=
  cutLast_eq_some_iff.mpr ⟨toList_name key, by decide⟩

theorem encode_eq_nil_iff {key : String} : Hex.encode (Utf8.bytes key) = [] ↔ key = "" := by
  constructor
  · intro h
    exact Utf8.bytes_injective (Hex.encode_injective h)
  · rintro rfl
    rfl

/-- The key of a row file. -/
theorem key?_name (key : String) : key? (name key) = if key = "" then none else some key := by
  rw [key?, Disk.ending?, Disk.stemOf, cutLast_name]
  simp only [encode_eq_nil_iff]
  by_cases h : key = ""
  · simp [h]
  · simp [h, String.toList_ofList, Hex.decode?_encode, Utf8.decode_bytes]

theorem cutLast_append_ending (stem : String) :
    cutLast '.' (stem ++ ".json").toList = some (stem.toList, ending.toList) := by
  refine cutLast_eq_some_iff.mpr ⟨?_, by decide⟩
  rw [String.toList_append]
  rfl

/-- A name stands for a key if it is a text that reads as the bytes of the key,
with the ending behind it. -/
theorem key?_eq_some_iff {file key : String} :
    key? file = some key ↔ ∃ stem : String, stem ≠ "" ∧ file = stem ++ ".json" ∧
      Hex.decode? stem.toList = some (Utf8.bytes key) := by
  constructor
  · intro h
    rw [key?, Disk.ending?, Disk.stemOf] at h
    cases hcut : cutLast '.' file.toList with
    | none =>
        rw [hcut] at h
        cases h
    | some parts =>
        obtain ⟨stem, last⟩ := parts
        rw [hcut] at h
        by_cases hstem : stem = []
        · simp only [hstem, if_true, reduceCtorEq, if_false] at h
        simp only [hstem, if_false, Option.some.injEq, String.toList_ofList] at h
        split at h
        case isFalse => cases h
        next hlast =>
        split at h
        case h_2 => cases h
        next bytes hbytes =>
        split at h
        case h_2 => cases h
        next key' hkey =>
        cases h
        refine ⟨.ofList stem, by simpa using hstem, ?_, ?_⟩
        · refine String.toList_inj.mp ?_
          rw [(cutLast_eq_some_iff.mp hcut).1, String.toList_append, String.toList_ofList,
            ← String.toList_ofList (l := last), hlast]
          rfl
        · rw [String.toList_ofList, hbytes, Utf8.decode_eq_ok_iff.mp hkey]
  · rintro ⟨stem, hne, rfl, hdecode⟩
    have hstem : stem.toList ≠ [] := fun h => hne (String.toList_eq_nil_iff.mp h)
    rw [key?, Disk.ending?, Disk.stemOf, cutLast_append_ending]
    simp only [hstem, if_false, String.ofList_toList, if_true, hdecode, Utf8.decode_bytes]

/-- A name that stands for a key is a text in hexadecimal form and the
ending. -/
theorem toList_of_key? {file key : String} (h : key? file = some key) :
    ∃ stem bytes, file.toList = stem ++ '.' :: ending.toList ∧ Hex.decode? stem = some bytes := by
  obtain ⟨stem, -, rfl, hdecode⟩ := key?_eq_some_iff.mp h
  exact ⟨_, _, (cutLast_eq_some_iff.mp (cutLast_append_ending stem)).1, hdecode⟩

end RowFile

end JobLedger

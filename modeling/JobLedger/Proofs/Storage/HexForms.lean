import JobLedger.Proofs.Storage.FolderScan

/-!
# Names and values in hexadecimal form

A row file is named by its key and holds its values in hexadecimal form. The
names are faithful (`names_in_order_of_keys`): different keys have different
files, and the files are in the order of their keys. A key that continues
another one comes behind it, because the point of the ending is before all
digits.

Reading is exact up to one thing (`hex_forms_read`). What is no hexadecimal
form is refused: as a name it is no row file, and as a value it makes its row
unreadable. But a plus sign may stand for the first digit of a pair, so `+5`
is read as the byte 5 (`plus_sign_read`).
-/

namespace JobLedger.RowFile

/-! ## The order of names -/

theorem point_lt_digit : ∀ c ∈ ("." ++ ending).toList.head?, ∀ d < 16, c < Hex.digit d := by
  have hhead : ("." ++ ending).toList.head? = some '.' := rfl
  rw [hhead]
  rintro c ⟨⟩
  decide

theorem name_lt_name {key key' : String} : name key < name key' ↔ key < key' := by
  rw [name, name, String.append_assoc, String.append_assoc, Hex.text_append_lt_iff point_lt_digit,
    Utf8.bytes_lt_bytes]

theorem name_le_name {key key' : String} : name key ≤ name key' ↔ key ≤ key' :=
  not_congr name_lt_name

theorem bytes_le_bytes {s t : String} : Utf8.bytes s ≤ Utf8.bytes t ↔ s ≤ t :=
  not_congr Utf8.bytes_lt_bytes

/-- A text that continues another one comes behind it. -/
theorem lt_push (s : String) (c : Char) : s < s.push c := by
  have hlt : s.toList ++ [] < s.toList ++ [c] := List.append_left_lt (List.nil_lt_cons c [])
  rw [List.append_nil, ← String.toList_push] at hlt
  exact hlt

/-- Sorting the names of row files sorts the keys. -/
theorem mergeSort_map_name (keys : List String) :
    (keys.map name).mergeSort (fun a b => a ≤ b) = (keys.mergeSort fun a b => a ≤ b).map name :=
  (List.map_mergeSort fun _ _ _ _ => decide_eq_decide.mpr name_le_name.symm).symm

/-- A listing of row files is in the order of their names. -/
theorem rowFiles_pairwise_name (keys : List String) (after : Option String) :
    (Folder.rowFiles (keys.map name) after).Pairwise fun e e' => e.2 ≤ e'.2 := by
  have hname : ∀ e ∈ Folder.rowFiles (keys.map name) after, e.2 = name e.1 := by
    intro e he
    obtain ⟨hfile, hkey, -⟩ := Folder.mem_rowFiles.mp he
    obtain ⟨key, -, hfile⟩ := List.mem_map.mp hfile
    rw [← hfile, key?_name] at hkey
    split at hkey
    · cases hkey
    · rw [← hfile, Option.some.inj hkey]
  have hsorted : (Folder.rowFiles (keys.map name) after).Pairwise fun e e' => e.1 ≤ e'.1 :=
    pairwise_mergeSort _
  refine hsorted.imp_of_mem fun he he' hle => ?_
  rw [hname _ he, hname _ he']
  exact name_le_name.mpr hle

/-- The names of row files are faithful to the keys, byte by byte. -/
theorem names_in_order_of_keys :
    (∀ a b : Bytes, Hex.decode? (Hex.text a).toList = some a ∧
      cutLast '.' (Hex.text a ++ ".json").toList = some ((Hex.text a).toList, "json".toList) ∧
      (Utf8.bytes (Hex.text a) < Utf8.bytes (Hex.text b) ↔ a < b) ∧
      (Utf8.bytes (Hex.text a ++ ".json") < Utf8.bytes (Hex.text b ++ ".json") ↔ a < b)) ∧
    (∀ key key' : String, (name key = name key' ↔ key = key') ∧
      (Utf8.bytes (name key) < Utf8.bytes (name key') ↔ Utf8.bytes key < Utf8.bytes key')) ∧
    (∀ (key : String) (c : Char), Utf8.bytes (name key) < Utf8.bytes (name (key.push c))) ∧
    (∀ keys : List String,
      (keys.map name).mergeSort (fun a b => Utf8.bytes a ≤ Utf8.bytes b) =
        (keys.mergeSort fun a b => Utf8.bytes a ≤ Utf8.bytes b).map name) ∧
    ∀ (keys : List String) (after : Option String),
      (Folder.rowFiles (keys.map name) after).Pairwise fun e e' =>
        Utf8.bytes e.2 ≤ Utf8.bytes e'.2 := by
  refine ⟨fun a b => ⟨?_, ?_, ?_, ?_⟩, fun key key' => ⟨?_, ?_⟩, fun key c => ?_, fun keys => ?_,
    fun keys after => ?_⟩
  · rw [Hex.text, String.toList_ofList, Hex.decode?_encode]
  · exact cutLast_append_ending (Hex.text a)
  · have hempty := Hex.text_append_lt_iff (u := "") (by simp) (a := a) (b := b)
    rwa [String.append_empty, String.append_empty, ← Utf8.bytes_lt_bytes] at hempty
  · rw [Utf8.bytes_lt_bytes]
    have hending : "." ++ ending = ".json" := rfl
    exact hending ▸ Hex.text_append_lt_iff point_lt_digit
  · exact ⟨name_injective, congrArg name⟩
  · rw [Utf8.bytes_lt_bytes, Utf8.bytes_lt_bytes, name_lt_name]
  · rw [Utf8.bytes_lt_bytes, name_lt_name]
    exact lt_push key c
  · simp only [bytes_le_bytes]
    exact mergeSort_map_name keys
  · simp only [bytes_le_bytes]
    exact rowFiles_pairwise_name keys after

/-! ## What is read -/

/-- The value that a cell's text stands for. -/
def valueOf (hex : String) : Bytes := (Hex.decode? hex.toList).getD []

theorem decodeFamily_cases (key family : String) (l : List (String × String)) :
    ((∀ e ∈ l, (Hex.decode? e.2.toList).isSome = true) ∧
      decodeFamily key family l = .ok (l.map fun e => (e.1, valueOf e.2))) ∨
    ∃ e ∈ l, Hex.decode? e.2.toList = none ∧
      decodeFamily key family l = .error (.cellNotHex key family e.1) := by
  induction l with
  | nil => exact .inl ⟨by simp, rfl⟩
  | cons e r ih =>
      rw [decodeFamily]
      cases he : Hex.decode? e.2.toList with
      | none => exact .inr ⟨e, List.mem_cons_self .., he, rfl⟩
      | some value =>
          rcases ih with ⟨hr, hdecode⟩ | ⟨e', he', hnone, hdecode⟩
          · refine .inl ⟨List.forall_mem_cons.mpr ⟨by rw [he]; rfl, hr⟩, ?_⟩
            simp [hdecode, Except.map, valueOf, he]
          · refine .inr ⟨e', List.mem_cons_of_mem _ he', hnone, ?_⟩
            simp [hdecode, Except.map]

theorem decodeCells_cases (key : String) (l : List (String × Dict String String)) :
    ((∀ e ∈ l, ∀ v ∈ e.2.entries, (Hex.decode? v.2.toList).isSome = true) ∧
      decodeCells key l = .ok (l.map fun e => (e.1, e.2.mapValues fun _ => valueOf))) ∨
    ∃ e ∈ l, ∃ v ∈ e.2.entries, Hex.decode? v.2.toList = none ∧
      decodeCells key l = .error (.cellNotHex key e.1 v.1) := by
  induction l with
  | nil => exact .inl ⟨by simp, rfl⟩
  | cons e r ih =>
      rw [decodeCells]
      rcases decodeFamily_cases key e.1 e.2.entries with ⟨he, hfamily⟩ | ⟨v, hv, hnone, hfamily⟩
      · rcases ih with ⟨hr, hdecode⟩ | ⟨e', he', v, hv, hnone, hdecode⟩
        · refine .inl ⟨List.forall_mem_cons.mpr ⟨he, hr⟩, ?_⟩
          rw [hfamily, hdecode]
          simp [Except.map, Dict.ofList_map fun (_ : String) => valueOf]
        · refine .inr ⟨e', List.mem_cons_of_mem _ he', v, hv, hnone, ?_⟩
          rw [hfamily, hdecode]
          rfl
      · exact .inr ⟨e, List.mem_cons_self .., v, hv, hnone, by rw [hfamily]⟩

/-- A row file is read value by value, or refused for one of its cells. -/
theorem decode_cases {content : Bytes} {key : String} {cells : Dict String (Dict String String)}
    (h : (Json.ofBytes? content).bind ofJson? = some (key, cells)) :
    ((∀ family d, cells.get? family = some d → ∀ qualifier hex, d.get? qualifier = some hex →
        (Hex.decode? hex.toList).isSome = true) ∧
      decode content = .ok ⟨key, cells.mapValues fun _ d => d.mapValues fun _ => valueOf⟩) ∨
    ∃ family d qualifier hex, cells.get? family = some d ∧ d.get? qualifier = some hex ∧
      Hex.decode? hex.toList = none ∧
      decode content = .error (.cellNotHex key family qualifier) := by
  have hdecode : decode content =
      (decodeCells key cells.entries).map fun cells => ⟨key, .ofList cells⟩ := by rw [decode, h]
  rw [hdecode]
  rcases decodeCells_cases key cells.entries with
    ⟨hread, hcells⟩ | ⟨e, he, v, hv, hnone, hcells⟩
  · refine .inl ⟨fun family d hd qualifier hex hhex => ?_, ?_⟩
    · exact hread _ (Dict.get?_eq_some_iff.mp hd) _ (Dict.get?_eq_some_iff.mp hhex)
    · have hvalues :
          Dict.ofList (cells.entries.map fun e => (e.1, e.2.mapValues fun _ => valueOf)) =
          cells.mapValues fun _ d => d.mapValues fun _ => valueOf :=
        Dict.ofList_map (fun _ d => d.mapValues fun _ => valueOf) cells
      rw [hcells, Except.map, hvalues]
  · refine .inr ⟨e.1, e.2, v.1, v.2, Dict.get?_eq_some_iff.mpr he, Dict.get?_eq_some_iff.mpr hv,
      hnone, ?_⟩
    rw [hcells]
    rfl

/-- A text with a plus sign is no hexadecimal form, and without one the reading is
exact. -/
theorem reads_digits_iff (s : String) :
    (∀ bs, Hex.decode? s.toList = some bs ↔ (Utf8.bytes s).length % 2 = 0 ∧
      (∀ c ∈ s.toList, Hex.IsDigit c) ∧ Hex.text bs = s.toLower) ↔
    ('+' ∈ s.toList → Hex.decode? s.toList = none) := by
  by_cases hplus : '+' ∈ s.toList
  · have hnone : ∀ bs, ¬((Utf8.bytes s).length % 2 = 0 ∧
        (∀ c ∈ s.toList, Hex.IsDigit c) ∧ Hex.text bs = s.toLower) :=
      fun bs h => Hex.not_isDigit_plus (h.2.1 _ hplus)
    rw [forall_prop_of_true hplus, Option.eq_none_iff_forall_ne_some]
    exact forall_congr' fun bs => iff_false_right (hnone bs)
  · exact iff_of_true (fun _ => Hex.decode?_of_no_plus hplus) fun h => absurd h hplus

/-- Texts of digits are read as they are, and a plus sign in front of a digit is read as
a zero. Nothing else is read, neither as the name of a row file nor as the value
of a cell. So what is read of a text is its hexadecimal form exactly if it is not
one of those with a plus sign that are read. -/
theorem hex_forms_read (s : String) :
    (∀ bs, Hex.decode? s.toList = some bs ↔ (Utf8.bytes s).length % 2 = 0 ∧
      (∀ i c, s.toList[i]? = some c → Hex.MayStand i c) ∧ Hex.text bs = s.map Hex.lowered) ∧
    ((∀ bs, Hex.decode? s.toList = some bs ↔ (Utf8.bytes s).length % 2 = 0 ∧
        (∀ c ∈ s.toList, Hex.IsDigit c) ∧ Hex.text bs = s.toLower) ↔
      ('+' ∈ s.toList → Hex.decode? s.toList = none)) ∧
    Hex.decodeSlices? s.toList = Hex.decode? s.toList ∧
    (∀ file key, key? file = some key ↔ ∃ stem : String, stem ≠ "" ∧ file = stem ++ ".json" ∧
      Hex.decode? stem.toList = some (Utf8.bytes key)) ∧
    ∀ content key cells, (Json.ofBytes? content).bind ofJson? = some (key, cells) →
      ((∀ family d, cells.get? family = some d → ∀ qualifier hex, d.get? qualifier = some hex →
          (Hex.decode? hex.toList).isSome = true) ∧
        decode content = .ok ⟨key, cells.mapValues fun _ d => d.mapValues fun _ => valueOf⟩) ∨
      ∃ family d qualifier hex, cells.get? family = some d ∧ d.get? qualifier = some hex ∧
        Hex.decode? hex.toList = none ∧
        decode content = .error (.cellNotHex key family qualifier) :=
  ⟨fun _ => Hex.decode?_toList_eq_some_iff, reads_digits_iff s, Hex.decodeSlices?_eq s.toList,
    fun _ _ => key?_eq_some_iff, fun _ _ _ => decode_cases⟩

/-- The file of a row with one cell. -/
def oneCell (hex : String) : Bytes :=
  Utf8.bytes ("\x7b\"key\":\"a\",\"cells\":\x7b\"info\":\x7b\"v\":\"" ++ hex ++ "\"\x7d\x7d\x7d")

/-- What is written in capital letters is read, and what is no hexadecimal form is
reported. -/
theorem capitals_read_and_letters_refused :
    ('+' ∉ "4A".toList ∧ Hex.decode? "4A".toList = some [0x4a]) ∧
      ∃ cells, (Json.ofBytes? (oneCell "zz")).bind ofJson? = some ("a", cells) ∧
        decode (oneCell "zz") = .error (.cellNotHex "a" "info" "v") := by
  have hplus : '+' ∉ "4A".toList := by decide
  have hdigits : ∀ c ∈ ['4', 'A'], Hex.IsDigit c := by simp [Hex.IsDigit]
  have hcells : (Json.ofBytes? (oneCell "zz")).bind ofJson? =
      some ("a", .ofList [("info", .ofList [("v", "zz")])]) := by decide +kernel
  refine ⟨⟨hplus, ?_⟩, _, hcells, ?_⟩
  · obtain ⟨-, hreads, -⟩ := hex_forms_read "4A"
    exact (hreads.mpr (fun h => absurd h hplus) [0x4a]).mpr ⟨by decide, hdigits, by decide +kernel⟩
  · obtain ⟨-, -, -, -, hrow⟩ := hex_forms_read ""
    rcases hrow _ _ _ hcells with
      ⟨hread, -⟩ | ⟨family, d, qualifier, hex, hd, hq, -, h⟩
    · exact absurd (hread "info" (.ofList [("v", "zz")]) rfl "v" "zz" rfl) (by decide)
    · -- There is only one cell that can be meant.
      have hfamily : (family, d) ∈ [("info", Dict.ofList [("v", "zz")])] :=
        Dict.get?_eq_some_iff.mp hd
      obtain ⟨rfl, rfl⟩ := Prod.mk.inj (List.mem_singleton.mp hfamily)
      have hcell : (qualifier, hex) ∈ [("v", "zz")] := Dict.get?_eq_some_iff.mp hq
      obtain ⟨rfl, rfl⟩ := Prod.mk.inj (List.mem_singleton.mp hcell)
      exact h

/-- A text with a plus sign is no hexadecimal form, but it is read: as the name of a
row file, which then stands for the same key as another one, and as the value of a
cell. -/
theorem plus_sign_read :
    (Hex.decode? "+5".toList = some [5] ∧ ¬Hex.IsDigit '+' ∧ Hex.text [5] ≠ "+5".toLower) ∧
      (key? "+5.json" = some "\x05" ∧ key? "05.json" = some "\x05") ∧
      decode (oneCell "+5") = .ok ⟨"a", .ofList [("info", .ofList [("v", [5])])]⟩ := by
  decide +kernel

end JobLedger.RowFile

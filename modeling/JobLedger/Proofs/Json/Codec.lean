import JobLedger.Proofs.Dict
import JobLedger.Proofs.Json.RoundTrip
import JobLedger.Record.Conf
import JobLedger.Record.Counters

/-!
# Stored maps read back

Counters and configurations are stored as JSON objects and read back as
they were (`Counters.ofText?_toText`, `JobConf.ofText?_toText`), whatever
their names and texts contain. Counters are read from other objects too, as
long as all values are numbers of 64 bits (`Counters.ofJson?_eq_some_iff`).
-/

namespace JobLedger

namespace Json

theorem text?_text (s : String) : (text s).text? = some s := rfl

theorem plain_text (s : String) : (text s).plain = true := rfl

theorem mapM_eq_some_map {α β : Type} {f : α → Option β} {g : α → β} (h : ∀ a, f a = some (g a)) :
    ∀ l : List α, l.mapM f = some (l.map g)
  | [] => rfl
  | a :: r => by
      rw [List.mapM_cons, h, mapM_eq_some_map h r]
      rfl

/-- A dictionary is read back from its object, each value as what the
reader makes of it. -/
theorem dict?_ofDict {α β : Type} {f : α → Json} {read : Json → Option β} {g : α → β}
    (h : ∀ a, read (f a) = some (g a)) (d : Dict String α) :
    (ofDict f d).dict? read = some (d.mapValues fun _ a => g a) := by
  rw [ofDict, object, dict?, List.mapM_map, List.mapM_map,
    mapM_eq_some_map (g := fun e => (e.1, g e.2)) (fun e => by simp [h]), Option.map_some,
    Dict.ofList_map (fun _ a => g a)]

theorem dict?_ofDict_self {α : Type} {f : α → Json} {read : Json → Option α}
    (h : ∀ a, read (f a) = some a) (d : Dict String α) : (ofDict f d).dict? read = some d := by
  rw [dict?_ofDict (g := id) h]
  exact congrArg some (Dict.ext (List.map_id _))

theorem plain_ofDict {α : Type} {f : α → Json} (h : ∀ a, (f a).plain = true) (d : Dict String α) :
    (ofDict f d).plain = true := by
  rw [ofDict, object, plain]
  generalize d.entries = l
  induction l with
  | nil => rfl
  | cons e r ih => simpa [plainMembers, h] using ih

/-- The range of 64 bits is the range that the reader takes. -/
theorem signedWord?_int (n : Int64) : (Json.int n.toInt).signedWord? = some n := by
  have hle := n.toInt_le
  have hge := n.le_toInt
  rw [signedWord?, intIn?, if_pos ⟨hge, hle⟩, Option.map_some, Int64.ofInt_toInt]

/-- A list is read item by item, each item being one of the values `x` with
the property `P`, written as `w x` and read as `g x`. -/
theorem mapM_eq_some_iff {α β γ : Type} {f : α → Option β} {P : γ → Prop} {w : γ → α} {g : γ → β}
    (hf : ∀ a b, f a = some b ↔ ∃ x, P x ∧ a = w x ∧ b = g x) {l : List α} {r : List β} :
    l.mapM f = some r ↔ ∃ xs : List γ, (∀ x ∈ xs, P x) ∧ l = xs.map w ∧ r = xs.map g := by
  induction l generalizing r with
  | nil =>
      constructor
      · intro h
        exact ⟨[], nofun, rfl, (Option.some.inj h).symm⟩
      · rintro ⟨xs, -, hl, rfl⟩
        rw [List.map_eq_nil_iff.mp hl.symm]
        rfl
  | cons a l ih =>
      have hcons : (a :: l).mapM f = some r ↔
          ∃ b bs, f a = some b ∧ l.mapM f = some bs ∧ r = b :: bs := by
        rw [List.mapM_cons]
        cases f a <;> cases l.mapM f <;> simp [eq_comm]
      rw [hcons]
      constructor
      · rintro ⟨b, bs, ha, hl, rfl⟩
        obtain ⟨x, hx, rfl, rfl⟩ := (hf a b).mp ha
        obtain ⟨xs, hxs, rfl, rfl⟩ := ih.mp hl
        exact ⟨x :: xs, List.forall_mem_cons.mpr ⟨hx, hxs⟩, rfl, rfl⟩
      · rintro ⟨xs, hxs, hl, rfl⟩
        obtain ⟨x, xs, rfl, rfl, rfl⟩ := List.map_eq_cons_iff.mp hl.symm
        obtain ⟨hx, hxs⟩ := List.forall_mem_cons.mp hxs
        exact ⟨g x, xs.map g, (hf _ _).mpr ⟨x, hx, rfl, rfl⟩, ih.mpr ⟨xs, hxs, rfl, rfl⟩, rfl⟩

theorem signedWord?_eq_some_iff {j : Json} {n : Int64} :
    j.signedWord? = some n ↔
      ∃ k : Int, (Int64.minValue.toInt ≤ k ∧ k ≤ Int64.maxValue.toInt) ∧ j = .int k ∧
        n = Int64.ofInt k := by
  have hmin : Int64.minValue.toInt = -9223372036854775808 := rfl
  have hmax : Int64.maxValue.toInt = 9223372036854775807 := rfl
  rw [signedWord?, Option.map_eq_some_iff]
  unfold intIn?
  constructor
  · rintro ⟨k, hk, rfl⟩
    split at hk
    · split at hk
      · obtain rfl := Option.some.inj hk
        exact ⟨_, by omega, rfl, rfl⟩
      · cases hk
    · cases hk
  · rintro ⟨k, hrange, rfl, rfl⟩
    exact ⟨k, if_pos (by omega), rfl⟩

end Json

namespace Counters

theorem plain_toJson (c : Counters) : c.toJson.plain = true :=
  Json.plain_ofDict (fun _ => rfl) c.values

theorem ofJson?_toJson (c : Counters) : ofJson? c.toJson = some c := by
  rw [ofJson?, toJson, Json.dict?_ofDict_self Json.signedWord?_int]
  rfl

/-- Counters are read back from their stored text. -/
theorem ofText?_toText (c : Counters) : ofText? c.toText = some c := by
  rw [ofText?, toText, Json.toText, Json.compact,
    Json.parse?_writtenAt Json.Spacing.blank_none c.plain_toJson, Option.bind_some, ofJson?_toJson]

/-- Counters are read from an object whose values are numbers of 64 bits with
a sign; of two members of one name the later one counts. -/
theorem ofJson?_eq_some_iff {j : Json} {c : Counters} :
    ofJson? j = some c ↔ ∃ members : List (String × Int),
      (∀ m ∈ members, Int64.minValue.toInt ≤ m.2 ∧ m.2 ≤ Int64.maxValue.toInt) ∧
      j = .object (members.map fun m => (m.1, .int m.2)) ∧
      c = .ofList (members.map fun m => (m.1, Int64.ofInt m.2)) := by
  have hmember : ∀ (a : Option String × Json) (b : String × Int64),
      (do
        let k ← a.1
        let v ← a.2.signedWord?
        return (k, v)) = some b ↔
        ∃ m : String × Int, (Int64.minValue.toInt ≤ m.2 ∧ m.2 ≤ Int64.maxValue.toInt) ∧
          a = (some m.1, .int m.2) ∧ b = (m.1, Int64.ofInt m.2) := by
    rintro ⟨k, v⟩ b
    simp only [Option.bind_eq_bind, Option.bind_eq_some_iff, Option.pure_def, Option.some.injEq,
      Json.signedWord?_eq_some_iff]
    constructor
    · rintro ⟨k, rfl, n, ⟨n, hn, rfl, rfl⟩, rfl⟩
      exact ⟨(k, n), hn, rfl, rfl⟩
    · rintro ⟨⟨k', n⟩, hn, heq, rfl⟩
      cases heq
      exact ⟨k', rfl, _, ⟨n, hn, rfl, rfl⟩, rfl⟩
  rw [ofJson?, Option.map_eq_some_iff]
  constructor
  · rintro ⟨d, hd, rfl⟩
    unfold Json.dict? at hd
    split at hd
    · obtain ⟨l, hl, rfl⟩ := Option.map_eq_some_iff.mp hd
      obtain ⟨members, hmembers, rfl, rfl⟩ := (Json.mapM_eq_some_iff hmember).mp hl
      exact ⟨members, hmembers, by rw [Json.object, List.map_map]; rfl, rfl⟩
    · cases hd
  · rintro ⟨members, hmembers, rfl, rfl⟩
    refine ⟨.ofList (members.map fun m => (m.1, Int64.ofInt m.2)), ?_, rfl⟩
    have hread := (Json.mapM_eq_some_iff hmember).mpr ⟨members, hmembers, rfl, rfl⟩
    rw [Json.object, Json.dict?, List.map_map]
    exact congrArg (Option.map Dict.ofList) hread

end Counters

namespace JobConf

theorem plain_toJson (c : JobConf) : c.toJson.plain = true :=
  Json.plain_ofDict (fun _ => rfl) c.values

theorem ofJson?_toJson (c : JobConf) : ofJson? c.toJson = some c := by
  rw [ofJson?, toJson, Json.dict?_ofDict_self Json.text?_text]
  rfl

/-- A configuration is read back from its stored text. -/
theorem ofText?_toText (c : JobConf) : ofText? c.toText = some c := by
  rw [ofText?, toText, Json.toIndentedText, Json.indented,
    Json.parse?_writtenAt Json.Spacing.blank_lines c.plain_toJson, Option.bind_some,
    ofJson?_toJson]

end JobConf

end JobLedger

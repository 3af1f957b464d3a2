import JobLedger.Proofs.History.RecordRow
import JobLedger.Proofs.History.Store
import JobLedger.Proofs.Text.Utf8
import Mathlib.Data.List.Induction

/-!
# What an enumeration yields

An enumeration takes its rows page by page from a table that may change in
between. `enumeration_of_history` says what can be relied on: as long as
the table stays reachable, the keys of the items increase, every row that
was there at the beginning is met exactly once, and each item was the
content of its row at some moment. Whatever happens, the end is final.

The invariant is `Underway`: the rows yielded so far and the rows still on
the page are in key order and end with the cursor's last key, and a row of
the beginning is among them or behind that key. A table that does not
change is easier: the items to come are the rows of `remaining`.
-/

namespace JobLedger

/-! ## Runs -/

/-- What may happen while an enumeration is in progress. -/
inductive EnumerationEvent
  /-- The next item is asked for. -/
  | next
  | change (c : Memory.Change)

/-- An enumeration and the instance that it reads. -/
structure Enumeration where
  cursor : HistoryCursor Unit
  memory : Memory

namespace Enumeration

def start (h : HistoryStore Unit) (m : Memory) : Enumeration := ⟨.start h, m⟩

/-- The answer to the question for the next item. -/
def answer (s : Enumeration) : Option (Except HistoryError JobRecord) := (s.cursor.next s.memory).1

def step (s : Enumeration) : EnumerationEvent → Enumeration
  | .next => { s with cursor := (s.cursor.next s.memory).2 }
  | .change c => { s with memory := s.memory.change c }

def after (s : Enumeration) (events : List EnumerationEvent) : Enumeration := events.foldl step s

/-- The answers given during events, in order. -/
def answers (s : Enumeration) :
    List EnumerationEvent → List (Option (Except HistoryError JobRecord))
  | [] => []
  | .next :: es => s.answer :: (s.step .next).answers es
  | .change c :: es => (s.step (.change c)).answers es

/-- The items yielded during events, in order. -/
def yielded (s : Enumeration) (events : List EnumerationEvent) :
    List (Except HistoryError JobRecord) :=
  (s.answers events).filterMap id

theorem after_append (s : Enumeration) (es es' : List EnumerationEvent) :
    s.after (es ++ es') = (s.after es).after es' := List.foldl_append

theorem answers_append (s : Enumeration) (es es' : List EnumerationEvent) :
    s.answers (es ++ es') = s.answers es ++ (s.after es).answers es' := by
  induction es generalizing s with
  | nil => rfl
  | cons e es ih =>
      cases e with
      | next => exact congrArg (s.answer :: ·) (ih _)
      | change c => exact ih _

theorem yielded_append (s : Enumeration) (es es' : List EnumerationEvent) :
    s.yielded (es ++ es') = s.yielded es ++ (s.after es).yielded es' := by
  rw [yielded, answers_append, List.filterMap_append]
  rfl

end Enumeration

/-- The key of the row behind an item; a failed scan has none. -/
def itemKey : Except HistoryError JobRecord → Option String
  | .ok rec => some rec.jobId
  | .error (.corrupt jobId _) => some jobId
  | .error _ => none

theorem itemKey_decode (r : Row) : itemKey (RecordRow.decode r) = some r.key := by
  rw [RecordRow.decode]
  cases h : RecordRow.read r with
  | error fault => rfl
  | ok rec => exact congrArg some (RecordRow.jobId_of_read h)

/-- An item that reports a failed scan. -/
def IsScanFailure (item : Except HistoryError JobRecord) : Prop :=
  ∃ e : StoreError, item = .error (.ofStore e)

theorem not_isScanFailure_decode (r : Row) : ¬IsScanFailure (RecordRow.decode r) := by
  rintro ⟨e, he⟩
  have hkey := itemKey_decode r
  rw [he, HistoryError.ofStore] at hkey
  split at hkey <;> exact nomatch hkey

/-! ## One step -/

/-- Everything that asking for the next item can do. -/
theorem HistoryCursor.next_cases {ι σ : Type} [Backend ι σ] (c : HistoryCursor ι) (s : σ) :
    (c.finished = true ∧ c.next s = (none, c)) ∨
      (∃ r page, c.page = r :: page ∧ c.finished = false ∧
        c.next s = (some (RecordRow.decode r), { c with page })) ∨
      (∃ e, c.page = [] ∧ c.finished = false ∧
        Backend.scan c.store.inst c.store.table c.lastKey c.store.scanBatch s = .error e ∧
        c.next s = (some (.error (.ofStore e)), c.finish)) ∨
      (c.page = [] ∧ c.finished = false ∧
        Backend.scan c.store.inst c.store.table c.lastKey c.store.scanBatch s = .ok [] ∧
        c.next s = (none, c.finish)) ∨
      (∃ r page, c.page = [] ∧ c.finished = false ∧
        Backend.scan c.store.inst c.store.table c.lastKey c.store.scanBatch s = .ok (r :: page) ∧
        c.next s = (some (RecordRow.decode r),
          { c with page, lastKey := ((r :: page).getLast?).map (·.key) })) := by
  cases hf : c.finished with
  | true => exact .inl ⟨rfl, by rw [next, if_pos hf]⟩
  | false =>
      refine .inr ?_
      cases hp : c.page with
      | cons r page => exact .inl ⟨r, page, rfl, rfl, by simp [next, hf, hp]⟩
      | nil =>
          refine .inr ?_
          cases hs : Backend.scan c.store.inst c.store.table c.lastKey c.store.scanBatch s with
          | error e => exact .inl ⟨e, rfl, rfl, rfl, by simp [next, hf, hp, hs]⟩
          | ok rows =>
              refine .inr ?_
              cases rows with
              | nil => exact .inl ⟨rfl, rfl, rfl, by simp [next, hf, hp, hs]⟩
              | cons r page => exact .inr ⟨r, page, rfl, rfl, rfl, by simp [next, hf, hp, hs]⟩

/-! ## The end is final -/

theorem next_of_finished {c : HistoryCursor Unit} (h : c.finished = true) (m : Memory) :
    c.next m = (none, c) := by
  rw [HistoryCursor.next, if_pos h]

/-- Nothing and a failed scan are last answers. -/
theorem finished_of_answer {s : Enumeration}
    (h : ∀ item, s.answer = some item → IsScanFailure item) :
    (s.step .next).cursor.finished = true := by
  rw [Enumeration.answer] at h
  rw [Enumeration.step]
  rcases s.cursor.next_cases s.memory with ⟨hf, hn⟩ | ⟨r, page, -, -, hn⟩ | ⟨e, -, -, -, hn⟩ |
    ⟨-, -, -, hn⟩ | ⟨r, page, -, -, -, hn⟩ <;> rw [hn] at h ⊢
  · exact hf
  · exact absurd (h _ rfl) (not_isScanFailure_decode r)
  · rfl
  · rfl
  · exact absurd (h _ rfl) (not_isScanFailure_decode r)

theorem answers_of_finished {s : Enumeration} (h : s.cursor.finished = true)
    (events : List EnumerationEvent) : ∀ a ∈ s.answers events, a = none := by
  induction events generalizing s with
  | nil => simp [Enumeration.answers]
  | cons e es ih =>
      cases e with
      | next =>
          have hanswer : s.answer = none := congrArg Prod.fst (next_of_finished h s.memory)
          have hstep : (s.step .next).cursor = s.cursor :=
            congrArg Prod.snd (next_of_finished h s.memory)
          exact List.forall_mem_cons.mpr ⟨hanswer, ih (hstep ▸ h)⟩
      | change c => exact ih h

/-! ## A table that changes -/

/-- The event is no outage and does not delete the table. -/
def EnumerationEvent.Spares (tableName : String) : EnumerationEvent → Prop
  | .next => True
  | .change c => c.Spares tableName

/-- The row was in the table at some moment of a run. -/
def Enumeration.Held (s : Enumeration) (tableName : String) (events : List EnumerationEvent)
    (r : Row) : Prop :=
  ∃ es t, es <+: events ∧ (s.after es).memory.tables.get? tableName = some t ∧
    t.rows.get? r.key = some r

/-- An enumeration that has yielded the rows `seen` of a table that had the
rows of `t₀` at the beginning. -/
structure Underway (h : HistoryStore Unit) (t₀ : MemoryTable) (held : Row → Prop)
    (s : Enumeration) (seen : List Row) : Prop where
  store : s.cursor.store = h
  online : s.memory.online = true
  keyed : s.memory.Keyed
  present : ∃ t, s.memory.tables.get? h.tableName = some t ∧
    ∀ key, t₀.rows.contains key → t.rows.contains key
  ordered : (seen ++ s.cursor.page).Pairwise fun r r' => r.key < r'.key
  lastKey : s.cursor.lastKey = ((seen ++ s.cursor.page).getLast?).map (·.key)
  held : ∀ r ∈ s.cursor.page, held r
  /-- A row of the beginning has been met or is yet to be scanned. -/
  covered : ∀ key, t₀.rows.contains key →
    (∃ r ∈ seen ++ s.cursor.page, r.key = key) ∨ ∀ last ∈ s.cursor.lastKey, last < key
  finished : s.cursor.finished = true → ∀ key, t₀.rows.contains key → ∃ r ∈ seen, r.key = key

theorem Underway.mono {h : HistoryStore Unit} {t₀ : MemoryTable} {held held' : Row → Prop}
    {s : Enumeration} {seen : List Row} (hu : Underway h t₀ held s seen)
    (hh : ∀ r, held r → held' r) : Underway h t₀ held' s seen :=
  { hu with held := fun r hr => hh r (hu.held r hr) }

theorem underway_start {h : HistoryStore Unit} {m : Memory} {t₀ : MemoryTable} (hm : m.Keyed)
    (hon : m.online = true) (ht : m.tables.get? h.tableName = some t₀) (held : Row → Prop) :
    Underway h t₀ held (.start h m) [] where
  store := rfl
  online := hon
  keyed := hm
  present := ⟨t₀, ht, fun _ => id⟩
  ordered := .nil
  lastKey := rfl
  held := nofun
  covered := fun _ _ => .inr nofun
  finished := nofun

/-- A change to the instance that spares the table. -/
theorem Underway.change {h : HistoryStore Unit} {t₀ : MemoryTable} {held : Row → Prop}
    {s : Enumeration} {seen : List Row} (hu : Underway h t₀ held s seen) {c : Memory.Change}
    (hc : c.Spares h.tableName) : Underway h t₀ held (s.step (.change c)) seen := by
  obtain ⟨t, ht, hkept⟩ := hu.present
  obtain ⟨hon, t', ht', hkept'⟩ := Memory.change_of_spares hc hu.online ht
  exact { hu with
    online := hon
    keyed := hu.keyed.change c
    present := ⟨t', ht', fun key hkey => hkept' key (hkept key hkey)⟩ }

/-- The first row of the page is yielded. -/
theorem Underway.pop {h : HistoryStore Unit} {t₀ : MemoryTable} {held : Row → Prop}
    {s : Enumeration} {seen : List Row} (hu : Underway h t₀ held s seen) {r : Row}
    {page : List Row} (hp : s.cursor.page = r :: page) :
    Underway h t₀ held { s with cursor := { s.cursor with page } } (seen ++ [r]) := by
  have hmove : seen ++ s.cursor.page = (seen ++ [r]) ++ page := by rw [hp, List.append_assoc]; rfl
  exact { hu with
    ordered := hmove ▸ hu.ordered
    lastKey := hmove ▸ hu.lastKey
    held := fun r' hr' => hu.held r' (hp ▸ List.mem_cons_of_mem _ hr')
    covered := hmove ▸ hu.covered
    finished := fun hf key hkey =>
      (hu.finished hf key hkey).imp fun _ h => ⟨List.mem_append_left _ h.1, h.2⟩ }

/-- A scan finds nothing more. -/
theorem Underway.exhaust {h : HistoryStore Unit} {t₀ t : MemoryTable} {held : Row → Prop}
    {s : Enumeration} {seen : List Row} (hu : Underway h t₀ held s seen) (ht : t.Keyed)
    (hkept : ∀ key, t₀.rows.contains key → t.rows.contains key) (hp : s.cursor.page = [])
    (hbehind : t.behind s.cursor.lastKey = []) :
    Underway h t₀ held { s with cursor := s.cursor.finish } seen := by
  refine { hu with finished := fun _ key hkey => ?_ }
  rcases hu.covered key hkey with hmet | hlast
  · rwa [hp, List.append_nil] at hmet
  · obtain ⟨r, hr⟩ := Option.isSome_iff_exists.mp (hkept key hkey)
    obtain rfl := ht hr
    exact absurd (hbehind ▸ ht.mem_behind.mpr ⟨hr, hlast⟩) List.not_mem_nil

/-- A scan fetches the next page. -/
theorem Underway.fetch {h : HistoryStore Unit} {t₀ t : MemoryTable} {held : Row → Prop}
    {s : Enumeration} {seen : List Row} (hu : Underway h t₀ held s seen) (ht : t.Keyed)
    (hkept : ∀ key, t₀.rows.contains key → t.rows.contains key)
    (hnow : ∀ r, t.rows.get? r.key = some r → held r) (hf : s.cursor.finished = false)
    (hp : s.cursor.page = []) {limit : Nat} {r : Row} {page : List Row}
    (hrows : (t.behind s.cursor.lastKey).take limit = r :: page) :
    Underway h t₀ held
      { s with
        cursor := { s.cursor with page := r :: page, lastKey := (r :: page).getLast?.map (·.key) } }
      seen := by
  have hfetched : ∀ r' ∈ r :: page, t.rows.get? r'.key = some r' ∧
      ∀ last ∈ s.cursor.lastKey, last < r'.key := fun r' hr' =>
    ht.mem_behind.mp (List.mem_of_mem_take (hrows ▸ hr'))
  have hpage : (r :: page).Pairwise fun r r' => r.key < r'.key :=
    hrows ▸ (ht.behind_sorted _).sublist (List.take_sublist ..)
  have hseen := hu.ordered
  have hlast := hu.lastKey
  have hcovered := hu.covered
  rw [hp, List.append_nil] at hseen hlast hcovered
  -- The rows seen end with the last key, and the scan began behind it.
  have hbetween : ∀ r₀ ∈ seen, ∀ r' ∈ r :: page, r₀.key < r'.key := by
    intro r₀ hr₀ r' hr'
    have hl := List.getLast?_eq_some_getLast (List.ne_nil_of_mem hr₀)
    have hlt := (hfetched r' hr').2 _ (by rw [hlast, hl]; rfl)
    rcases Row.eq_or_lt_of_getLast? hseen hl hr₀ with heq | hlt'
    · exact heq ▸ hlt
    · exact KeyOrder.trans hlt' hlt
  exact { hu with
    ordered := List.pairwise_append.mpr ⟨hseen, hpage, hbetween⟩
    lastKey := by rw [List.getLast?_append_of_ne_nil _ (by simp)]
    held := fun r' hr' => hnow r' (hfetched r' hr').1
    covered := fun key hkey => by
      rcases hcovered key hkey with ⟨r', hr', hkey'⟩ | hlast'
      · exact .inl ⟨r', List.mem_append_left _ hr', hkey'⟩
      · obtain ⟨r', hr'⟩ := Option.isSome_iff_exists.mp (hkept key hkey)
        obtain rfl := ht hr'
        -- The row is on the page, or it did not fit and is behind the page.
        have hmem := ht.mem_behind.mpr ⟨hr', hlast'⟩
        rw [← List.take_append_drop limit (t.behind _)] at hmem
        rcases List.mem_append.mp hmem with hmem | hmem
        · exact .inl ⟨r', List.mem_append_right _ (hrows ▸ hmem), rfl⟩
        · refine .inr fun last hl => ?_
          have hl' : ((r :: page).getLast?).map (·.key) = some last := hl
          obtain ⟨r₁, hr₁, rfl⟩ := Option.map_eq_some_iff.mp hl'
          exact ht.page_lt (hrows ▸ List.mem_of_getLast? hr₁) hmem
    finished := fun hf' => absurd (hf'.symm.trans hf) (by decide) }

/-- The next item: either every row of the beginning has been met, or the
item is a row that the table held. -/
theorem Underway.next {h : HistoryStore Unit} {t₀ : MemoryTable} {held : Row → Prop}
    {s : Enumeration} {seen : List Row} (hu : Underway h t₀ held s seen)
    (hbatch : 0 < h.scanBatch)
    (hnow : ∀ t r, s.memory.tables.get? h.tableName = some t →
      t.rows.get? r.key = some r → held r) :
    (s.answer = none ∧ (s.step .next).cursor.finished = true ∧
        Underway h t₀ held (s.step .next) seen) ∨
      ∃ r, held r ∧ s.answer = some (RecordRow.decode r) ∧
        Underway h t₀ held (s.step .next) (seen ++ [r]) := by
  obtain ⟨t, ht, hkept⟩ := hu.present
  have hkeyed := hu.keyed ht
  have hscan : Backend.scan s.cursor.store.inst s.cursor.store.table s.cursor.lastKey
      s.cursor.store.scanBatch s.memory = .ok ((t.behind s.cursor.lastKey).take h.scanBatch) := by
    rw [hu.store]
    exact Memory.scan_of_online hu.online ht _ _
  rw [Enumeration.answer, Enumeration.step]
  rcases s.cursor.next_cases s.memory with ⟨hf, hn⟩ | ⟨r, page, hp, -, hn⟩ | ⟨e, -, -, he, -⟩ |
    ⟨hp, -, hs, hn⟩ | ⟨r, page, hp, hf, hs, hn⟩
  · rw [hn]
    exact .inl ⟨rfl, hf, hu⟩
  · rw [hn]
    exact .inr ⟨r, hu.held r (hp ▸ List.mem_cons_self ..), rfl, hu.pop hp⟩
  · exact nomatch hscan.symm.trans he
  · rw [hn]
    have hbehind : t.behind s.cursor.lastKey = [] :=
      (List.take_eq_nil_iff.mp (Except.ok.inj (hscan.symm.trans hs))).resolve_left (by omega)
    exact .inl ⟨rfl, rfl, hu.exhaust hkeyed hkept hp hbehind⟩
  · rw [hn]
    have hfetch := hu.fetch hkeyed hkept (fun r => hnow t r ht) hf hp
      (Except.ok.inj (hscan.symm.trans hs))
    exact .inr ⟨r, hfetch.held r (List.mem_cons_self ..), rfl, hfetch.pop rfl⟩

/-! ### Whole runs -/

theorem Enumeration.Held.mono {s : Enumeration} {tableName : String}
    {es es' : List EnumerationEvent} (hes : es <+: es') {r : Row} (h : s.Held tableName es r) :
    s.Held tableName es' r :=
  h.imp fun _ h => h.imp fun _ h => ⟨h.1.trans hes, h.2⟩

/-- What a whole run preserves. -/
theorem underway_after {h : HistoryStore Unit} {m : Memory} {t₀ : MemoryTable}
    (hbatch : 0 < h.scanBatch) (hm : m.Keyed) (hon : m.online = true)
    (ht : m.tables.get? h.tableName = some t₀) {events : List EnumerationEvent}
    (hevents : ∀ e ∈ events, e.Spares h.tableName) :
    ∃ seen, (Enumeration.start h m).yielded events = seen.map RecordRow.decode ∧
      (none ∈ (Enumeration.start h m).answers events →
        ((Enumeration.start h m).after events).cursor.finished = true) ∧
      Underway h t₀ ((Enumeration.start h m).Held h.tableName events)
        ((Enumeration.start h m).after events) seen := by
  induction events using List.reverseRecOn with
  | nil => exact ⟨[], rfl, by simp [Enumeration.answers], underway_start hm hon ht _⟩
  | append_singleton es e ih =>
      obtain ⟨seen, hyielded, hend, hu⟩ :=
        ih fun e he => hevents e (List.mem_append_left _ he)
      have hu' := hu.mono fun r hr => hr.mono (List.prefix_append es [e])
      have hspares := hevents e (List.mem_append_right _ (List.mem_singleton_self e))
      rw [Enumeration.yielded_append, Enumeration.answers_append, Enumeration.after_append,
        hyielded]
      cases e with
      | change c =>
          refine ⟨seen, by simp [Enumeration.yielded, Enumeration.answers], fun hnone => ?_,
            hu'.change hspares⟩
          exact hend (by simpa [Enumeration.answers] using hnone)
      | next =>
          have hnow : ∀ t r,
              ((Enumeration.start h m).after es).memory.tables.get? h.tableName = some t →
              t.rows.get? r.key = some r →
              (Enumeration.start h m).Held h.tableName (es ++ [.next]) r :=
            fun t r ht hr => ⟨es, t, List.prefix_append es _, ht, hr⟩
          rcases hu'.next hbatch hnow with ⟨hanswer, hfinished, hnext⟩ | ⟨r, -, hanswer, hnext⟩
          · refine ⟨seen, ?_, fun _ => hfinished, hnext⟩
            simp [Enumeration.yielded, Enumeration.answers, hanswer]
          · refine ⟨seen ++ [r], ?_, fun hnone => ?_, hnext⟩
            · simp [Enumeration.yielded, Enumeration.answers, hanswer]
            · -- Had the end come before, this answer would be nothing too.
              have hbefore : none ∈ (Enumeration.start h m).answers es := by
                simpa [Enumeration.answers, hanswer] using hnone
              have hnext' := next_of_finished (hend hbefore)
                ((Enumeration.start h m).after es).memory
              rw [Enumeration.answer, hnext'] at hanswer
              exact nomatch hanswer

/-- What can be relied on in an enumeration of a table that had the rows of
`t` at the beginning. -/
structure Enumeration.Faithful (h : HistoryStore Unit) (m : Memory) (t : MemoryTable)
    (events : List EnumerationEvent) : Prop where
  /-- The keys of the items increase in the order of their encodings. -/
  increasing : ∃ keys : List String,
    ((start h m).yielded events).map itemKey = keys.map some ∧
      (keys.map Utf8.bytes).Pairwise (· < ·)
  /-- At the end every row of the beginning has been met exactly once. -/
  complete : none ∈ (start h m).answers events → ∀ key, t.rows.contains key →
    (((start h m).yielded events).map itemKey).count (some key) = 1
  /-- Each item was the content of its row at some moment. -/
  current : ∀ es es' item, events = es ++ .next :: es' → ((start h m).after es).answer = some item →
    ∃ r, (start h m).Held h.tableName es r ∧ item = RecordRow.decode r

theorem faithful {h : HistoryStore Unit} {m : Memory} {t : MemoryTable} (hbatch : 0 < h.scanBatch)
    (hm : m.Keyed) (hon : m.online = true) (ht : m.tables.get? h.tableName = some t)
    {events : List EnumerationEvent} (hevents : ∀ e ∈ events, e.Spares h.tableName) :
    Enumeration.Faithful h m t events := by
  obtain ⟨seen, hyielded, hend, hu⟩ := underway_after hbatch hm hon ht hevents
  have hkeys : ((Enumeration.start h m).yielded events).map itemKey
      = (seen.map (·.key)).map some := by
    rw [hyielded, List.map_map, List.map_map]
    exact List.map_congr_left fun r _ => itemKey_decode r
  have hsorted : (seen.map (·.key)).Pairwise (· < ·) :=
    List.pairwise_map.mpr (List.pairwise_append.mp hu.ordered).1
  refine ⟨⟨seen.map (·.key), hkeys, ?_⟩, fun hnone key hkey => ?_, ?_⟩
  · exact List.pairwise_map.mpr (hsorted.imp Utf8.bytes_lt_bytes.mpr)
  · obtain ⟨r, hr, rfl⟩ := hu.finished (hend hnone) key hkey
    have hnodup : (seen.map (·.key)).Nodup :=
      hsorted.imp fun {a b} hlt (heq : a = b) => KeyOrder.irrefl b (heq ▸ hlt)
    rw [hkeys]
    exact List.count_eq_one_of_mem (hnodup.map (Option.some_injective _))
      (List.mem_map_of_mem (List.mem_map_of_mem hr))
  · rintro es es' item rfl hitem
    obtain ⟨seen, -, -, hu⟩ := underway_after hbatch hm hon ht
      fun e he => hevents e (List.mem_append_left _ he)
    rcases hu.next hbatch fun t r ht hr => ⟨es, t, List.prefix_rfl, ht, hr⟩ with
      ⟨hanswer, -, -⟩ | ⟨r, hheld, hanswer, -⟩
    · exact nomatch hanswer.symm.trans hitem
    · exact ⟨r, hheld, Option.some.inj (hitem.symm.trans hanswer)⟩

/-! ## A table that does not change -/

section

variable {ι σ : Type} [Backend ι σ]

/-- The rows that an enumeration of an unchanged table is yet to yield. -/
def HistoryCursor.remaining (c : HistoryCursor ι) (t : MemoryTable) : List Row :=
  if c.finished then [] else c.page ++ t.behind c.lastKey

/-- In this state, the scans of a store list the rows of a table. -/
def HistoryStore.Lists (h : HistoryStore ι) (s : σ) (t : MemoryTable) : Prop :=
  ∀ after limit, Backend.scan h.inst h.table after limit s = .ok ((t.behind after).take limit)

/-- One step takes the first of the remaining rows. -/
theorem next_remaining {c : HistoryCursor ι} {s : σ} {t : MemoryTable} (hkeyed : t.Keyed)
    (hlists : c.store.Lists s t) (hbatch : 0 < c.store.scanBatch) :
    (c.next s).2.store = c.store ∧
      match c.remaining t with
      | [] => (c.next s).1 = none ∧ (c.next s).2.remaining t = []
      | r :: rest =>
          (c.next s).1 = some (RecordRow.decode r) ∧ (c.next s).2.remaining t = rest := by
  have hscan := hlists c.lastKey c.store.scanBatch
  rcases c.next_cases s with ⟨hf, hn⟩ | ⟨r, page, hp, hf, hn⟩ | ⟨e, -, -, he, -⟩ |
    ⟨hp, hf, hs, hn⟩ | ⟨r, page, hp, hf, hs, hn⟩
  · rw [hn]
    simp [HistoryCursor.remaining, hf]
  · rw [hn]
    simp [HistoryCursor.remaining, hp, hf]
  · exact nomatch hscan.symm.trans he
  · have hbehind : t.behind c.lastKey = [] :=
      (List.take_eq_nil_iff.mp (Except.ok.inj (hscan.symm.trans hs))).resolve_left (by omega)
    rw [hn]
    simp [HistoryCursor.remaining, hp, hf, hbehind, HistoryCursor.finish]
  · have hrows := Except.ok.inj (hscan.symm.trans hs)
    obtain ⟨last, hlast⟩ : ∃ last, (r :: page).getLast? = some last :=
      ⟨_, List.getLast?_eq_some_getLast (List.cons_ne_nil r page)⟩
    -- What did not fit on the new page is what comes behind its last row.
    have hbehind : t.behind (some last.key) = (t.behind c.lastKey).drop c.store.scanBatch :=
      hkeyed.behind_getLast_take (by rw [hrows, hlast])
    have hremaining : c.remaining t = r :: (page ++ t.behind (some last.key)) := by
      rw [hbehind, ← List.cons_append, ← hrows, List.take_append_drop, HistoryCursor.remaining, hf,
        hp]
      rfl
    rw [hn, hremaining, hlast]
    simp [HistoryCursor.remaining, hf]

/-- The items to come are the remaining rows. -/
theorem collect_eq {c : HistoryCursor ι} {s : σ} {t : MemoryTable} (hkeyed : t.Keyed)
    (hlists : c.store.Lists s t) (hbatch : 0 < c.store.scanBatch) (limit : Nat) :
    c.collect limit s = ((c.remaining t).map RecordRow.decode).take limit := by
  induction limit generalizing c with
  | zero => rfl
  | succ limit ih =>
      obtain ⟨hstore, hnext⟩ := next_remaining hkeyed hlists hbatch
      have ih' := ih (c := (c.next s).2) (hstore ▸ hlists) (hstore ▸ hbatch)
      rw [HistoryCursor.collect]
      cases hr : c.remaining t with
      | nil =>
          rw [hr] at hnext
          rw [show c.next s = (none, (c.next s).2) from Prod.ext hnext.1 rfl]
          rfl
      | cons r rest =>
          rw [hr] at hnext
          rw [show c.next s = (some (RecordRow.decode r), (c.next s).2) from Prod.ext hnext.1 rfl,
            List.map_cons, List.take_succ_cons, ← hnext.2, ← ih']

end

/-- The answers are the remaining rows in order, and then nothing. -/
theorem answers_eq {s : Enumeration} {t : MemoryTable} (hkeyed : t.Keyed)
    (hlists : s.cursor.store.Lists s.memory t) (hbatch : 0 < s.cursor.store.scanBatch) (n : Nat) :
    s.answers (List.replicate n .next) =
      (List.range n).map fun i => ((s.cursor.remaining t)[i]?).map RecordRow.decode := by
  induction n generalizing s with
  | zero => rfl
  | succ n ih =>
      obtain ⟨hstore, hnext⟩ := next_remaining hkeyed hlists hbatch
      have ih' := ih (s := s.step .next) (hstore ▸ hlists) (hstore ▸ hbatch)
      rw [List.replicate_succ, Enumeration.answers, ih', List.range_succ_eq_map, List.map_cons,
        List.map_map, Enumeration.answer, Enumeration.step]
      cases hr : s.cursor.remaining t with
      | nil =>
          rw [hr] at hnext
          rw [hnext.1, hnext.2]
          exact congrArg (none :: ·) (List.map_congr_left fun i _ => by simp)
      | cons r rest =>
          rw [hr] at hnext
          rw [hnext.1, hnext.2]
          exact congrArg (_ :: ·) (List.map_congr_left fun i _ => by simp)

theorem memory_after_replicate_next (s : Enumeration) (k : Nat) :
    (s.after (List.replicate k .next)).memory = s.memory := by
  induction k generalizing s with
  | zero => rfl
  | succ k ih => exact ih (s.step .next)

/-! ## Enumerations of a history -/

/-- An enumeration of a history table, with pages of any size. As long as
there is no outage and the table is not deleted, its items come in key
order, each row of the beginning is met exactly once before the end, and
each item was the content of its row. If nothing changes, the items are all
rows in order, and so they are the next time. In every case nothing comes
after the end or a failed scan. -/
theorem enumeration_of_history {m₁ : Memory} {config : HistoryConfig} {h : HistoryStore Unit}
    (hopen : HistoryStore.openTable () config m₁ = .ok h) (uri : String)
    (before : List Memory.Change) :
    let m := (Memory.new uri).run before
    (∀ t, m.online = true → m.tables.get? h.tableName = some t →
      (∀ events, (∀ e ∈ events, e.Spares h.tableName) → Enumeration.Faithful h m t events) ∧
      (∀ n, h.records n m = (t.rows.values.map RecordRow.decode).take n) ∧
      (∀ k n, (Enumeration.start h
            ((Enumeration.start h m).after (List.replicate k .next)).memory).answers
            (List.replicate n .next) =
          (List.range n).map fun i => (t.rows.values[i]?).map RecordRow.decode)) ∧
    (∀ es es', (∀ item, ((Enumeration.start h m).after es).answer = some item →
        IsScanFailure item) →
      ∀ a ∈ ((Enumeration.start h m).after (es ++ [.next])).answers es', a = none) := by
  intro m
  have hbatch := HistoryStore.scanBatch_pos_of_openTable hopen
  have hm : m.Keyed := Memory.keyed_run (Memory.keyed_new uri) before
  have hlists : ∀ {t}, m.online = true → m.tables.get? h.tableName = some t → h.Lists m t :=
    fun hon ht => Memory.scan_of_online hon ht
  refine ⟨fun t hon ht => ⟨fun events hevents => ?_, fun n => ?_, fun k n => ?_⟩,
    fun es es' hend => ?_⟩
  · exact faithful hbatch hm hon ht hevents
  · exact collect_eq (c := .start h) (hm ht) (hlists hon ht) hbatch n
  · rw [memory_after_replicate_next]
    exact answers_eq (s := .start h m) (hm ht) (hlists hon ht) hbatch n
  · rw [Enumeration.after_append]
    exact answers_of_finished (finished_of_answer hend) es'

/-- Two rows, a page of one row at a time and a third row written behind the
cursor: the two rows are met once each. -/
theorem enumeration_of_two_rows :
    ∃ h t m, HistoryStore.openTable () { HistoryConfig.default with scanBatch := 0 } m = .ok h ∧
      m = (Memory.new "memory://").run [.create (Columns.layout "job_history"),
        .put h.table "job-1" [], .put h.table "job-2" []] ∧
      t.rows.keys = ["job-1", "job-2"] ∧
      Enumeration.Faithful h m t
        [.next, .change (.put h.table "job-0" []), .next, .next] ∧
      none ∈ (Enumeration.start h m).answers
        [.next, .change (.put h.table "job-0" []), .next, .next] := by
  let table : TableHandle := ⟨"job_history", Columns.layout "job_history"⟩
  let before : List Memory.Change := [.create (Columns.layout "job_history"),
    .put table "job-1" [], .put table "job-2" []]
  let t := (⟨Columns.layout "job_history", ∅⟩ : MemoryTable).write "job-1" [] |>.write "job-2" []
  have ht : ((Memory.new "memory://").run before).tables.get? "job_history" = some t := by
    decide +kernel
  have hon : ((Memory.new "memory://").run before).online = true := by decide +kernel
  have hopen : HistoryStore.openTable () { HistoryConfig.default with scanBatch := 0 } _ = _ :=
    HistoryStore.openTable_of_online hon ht
  have hall := enumeration_of_history hopen "memory://" before
  have hfaithful := (hall.1 t hon ht).1 [.next, .change (.put table "job-0" []), .next, .next]
    (by simp [EnumerationEvent.Spares, Memory.Change.Spares])
  exact ⟨_, t, _, hopen, rfl, by decide +kernel, hfaithful, by decide +kernel⟩

end JobLedger

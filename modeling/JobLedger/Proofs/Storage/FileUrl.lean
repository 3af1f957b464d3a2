import JobLedger.Proofs.Text.Blank
import JobLedger.Proofs.Text.Cut
import JobLedger.Proofs.Text.Utf8
import JobLedger.Storage.Address

/-!
# Paths in file addresses

`FileUrl.path?` takes apart what a `file://` address was put together from. Of a
path without the characters that mean something in a URL (`Plain`) and without a
segment that goes up, it leaves what counts: the address of an absolute path
leads to this path without its single dots and without slashes in front
(`path?_of_plain`), so over the same names (`filter_settled`), and if there are
none, to the path itself (`settledPath_eq_self`).

The first segment of a relative path stands where a URL has its host. Unless it
is a name of the machine itself or a drive is on the way, the address is refused
(`path?_of_relative`).
-/

namespace JobLedger.FileUrl

/-! ## Plain paths -/

/-- The characters that are not taken as they are in the path of an address. -/
def marks : List Char := ['?', '#', '%', '\\', '\t', '\n', '\r']

/-- A text that a URL takes as it is. -/
def Plain (cs : List Char) : Prop := ∀ c ∈ cs, c ∉ marks

instance (cs : List Char) : Decidable (Plain cs) := List.decidableBAll (· ∉ marks) cs

theorem Plain.of_subset {cs ds : List Char} (h : Plain ds) (hcs : ∀ c ∈ cs, c ∈ ds) : Plain cs :=
  fun c hc => h c (hcs c hc)

theorem Plain.not_isDropped {cs : List Char} (h : Plain cs) {c : Char} (hc : c ∈ cs) :
    isDropped c = false := by
  have hmark := h c hc
  simp only [marks, List.mem_cons, List.not_mem_nil, or_false, not_or] at hmark
  simp [isDropped, hmark]

theorem Plain.kept_eq {cs : List Char} (h : Plain cs) : kept cs = cs :=
  List.filter_eq_self.mpr fun c hc => by simp [h.not_isDropped hc]

theorem Plain.percentDecode_eq {cs : List Char} (h : Plain cs) :
    percentDecode cs = Utf8.encode cs := by
  induction cs with
  | nil => rfl
  | cons c r ih =>
      have hc : c ≠ '%' := fun heq => h c (List.mem_cons_self ..) (by simp [heq, marks])
      rw [percentDecode, ih (h.of_subset fun c hc => List.mem_cons_of_mem _ hc)]
      · rfl
      · intro a b r' heq
        exact absurd heq hc

/-- A character that is no letter is the lower case of itself only. -/
theorem eq_of_toLower_eq {c x : Char} (hx : x.isAlpha = false) (h : c.toLower = x) : c = x := by
  delta Char.toLower at h
  split at h
  · next hc =>
    -- The lower case of a capital is a letter.
    have hletter : ¬(97 ≤ x.val ∧ x.val ≤ 122) := fun hle =>
      Bool.eq_false_iff.mp (Bool.or_eq_false_iff.mp hx).2
        (Bool.and_eq_true_iff.mpr ⟨decide_eq_true hle.1, decide_eq_true hle.2⟩)
    have hval : x.val = c.val + 32 := by rw [← h]; rfl
    have hcapital : 65 ≤ c.val ∧ c.val ≤ 90 := hc
    rw [hval] at hletter
    grind
  · exact h

/-- A plain segment has no spelling of a dot but a dot. -/
theorem eq_of_map_toLower {s : List Char} {dots : List Char} (hdots : ∀ x ∈ dots, x = '.')
    (h : s.map Char.toLower = dots) : s = dots := by
  have hs : ∀ c ∈ s, c.toLower = c := fun c hc => by
    have hdot : c.toLower = '.' := hdots _ (h ▸ List.mem_map_of_mem hc)
    rw [hdot, eq_of_toLower_eq (by decide) hdot]
  rw [← h, List.map_congr_left hs, List.map_id']

theorem Plain.percent_not_mem {s : List Char} (h : Plain s) : '%' ∉ s.map Char.toLower := by
  intro hmem
  obtain ⟨c, hc, hlower⟩ := List.mem_map.mp hmem
  obtain rfl := eq_of_toLower_eq (by decide) hlower
  exact h _ hc (by simp [marks])

theorem ofList_eq_iff {cs : List Char} {text : String} :
    String.ofList cs = text ↔ cs = text.toList := by
  constructor
  · rintro rfl
    exact String.toList_ofList.symm
  · rintro rfl
    exact String.ofList_toList

theorem Plain.isUp_iff {s : List Char} (h : Plain s) : isUp s = true ↔ s = ['.', '.'] := by
  simp only [isUp, List.mem_cons, List.not_mem_nil, or_false, decide_eq_true_eq, ofList_eq_iff]
  constructor
  · rintro (hs | hs | hs | hs)
    · exact eq_of_map_toLower (by simp) hs
    all_goals exact absurd (hs ▸ by simp) h.percent_not_mem
  · rintro rfl
    exact .inl rfl

theorem Plain.isStay_iff {s : List Char} (h : Plain s) : isStay s = true ↔ s = ['.'] := by
  simp only [isStay, List.mem_cons, List.not_mem_nil, or_false, decide_eq_true_eq, ofList_eq_iff]
  constructor
  · rintro (hs | hs)
    · exact eq_of_map_toLower (by simp) hs
    · exact absurd (hs ▸ by simp) h.percent_not_mem
  · rintro rfl
    exact .inl rfl

theorem Plain.cutBehindDrive_eq {s : List Char} (h : Plain s) : cutBehindDrive s = none := by
  have hdrop : ∀ r : List Char, (∀ c ∈ r, c ∈ s) → r.dropWhile isDropped = r := by
    intro r hr
    cases r with
    | nil => rfl
    | cons c r => exact List.dropWhile_cons_of_neg (by simp [h.not_isDropped (hr c (by simp))])
  rw [cutBehindDrive, hdrop s fun _ => id]
  cases s with
  | nil => rfl
  | cons a r =>
      simp only [hdrop r fun c hc => List.mem_cons_of_mem _ hc]
      split
      · next c r' =>
        simp [h.not_isDropped (c := c) (by simp)]
      · rfl

/-- What a route keeps of plain segments. A dot at the end leaves a slash. -/
def settled : List (List Char) → List (List Char)
  | [] => []
  | [s] => if s = ['.'] then [[]] else [s]
  | s :: s' :: r => if s = ['.'] then settled (s' :: r) else s :: settled (s' :: r)

theorem Route.step_plain {segments : Segments} {s : List Char} (h : Plain s) (hup : s ≠ ['.', '.'])
    (closed : Bool) :
    (Route.mk segments false).step s closed =
      ⟨(if s = ['.'] then if closed then [] else [[]] else [s]) ++ segments, false⟩ := by
  have hup' : ¬isUp s = true := mt h.isUp_iff.mp hup
  rw [Route.step, h.kept_eq, if_neg hup']
  by_cases hstay : s = ['.']
  · rw [if_pos (h.isStay_iff.mpr hstay), if_pos hstay]
  · rw [if_neg (mt h.isStay_iff.mp hstay), if_neg hstay]
    split
    · next hnil =>
      simp only at hnil
      rw [hnil, Route.first, h.cutBehindDrive_eq, h.kept_eq]
      rfl
    · rfl

theorem Route.follow_plain {ss : List (List Char)} (h : ∀ s ∈ ss, Plain s ∧ s ≠ ['.', '.'])
    (segments : Segments) :
    (Route.mk segments false).follow ss = ⟨(settled ss).reverse ++ segments, false⟩ := by
  induction ss generalizing segments with
  | nil => rfl
  | cons s r ih =>
      obtain ⟨⟨hs, hup⟩, hr⟩ := List.forall_mem_cons.mp h
      cases r with
      | nil =>
          rw [Route.follow, Route.step_plain hs hup, settled]
          split <;> rfl
      | cons s' r =>
          rw [Route.follow, Route.step_plain hs hup, ih hr, settled]
          · split
            · rfl
            · simp
          · simp

/-! ## Addresses of plain paths -/

/-- What is behind the scheme is read as it is, unless it ends like no URL. -/
theorem behind?_scheme {cs : List Char} (hne : cs ≠ [])
    (hedge : ∀ c ∈ cs.getLast?, ¬isEdge c = true) :
    behind? "file://".toList
      (((("file://".toList ++ cs).dropWhile isEdge).reverse.dropWhile isEdge).reverse) =
        some cs := by
  have hfront : ("file://".toList ++ cs).dropWhile isEdge = "file://".toList ++ cs := rfl
  have hback : ("file://".toList ++ cs).reverse.dropWhile isEdge =
      ("file://".toList ++ cs).reverse := by
    obtain ⟨init, c, rfl⟩ := List.eq_nil_or_concat cs |>.resolve_left hne
    have hc : ¬isEdge c = true := hedge c (by simp)
    simp [hc]
  rw [hfront, hback, List.reverse_reverse]
  rfl

theorem Plain.takeWhile_eq {cs : List Char} (h : Plain cs) :
    cs.takeWhile (fun c => c ≠ '?' && c ≠ '#') = cs := by
  rw [List.takeWhile_eq_self_iff]
  intro c hc
  have hmark := h c hc
  simp only [marks, List.mem_cons, not_or] at hmark
  simp [hmark]

/-- Backslashes count as slashes, but there are none. -/
theorem Plain.written_cons {r : List Char} (h : Plain ('/' :: r)) :
    written ('/' :: r) = pieces '/' r := by
  have hmap : ('/' :: r).map (fun c => if c = '\\' then '/' else c) = '/' :: r := by
    refine (List.map_congr_left fun c hc => if_neg ?_).trans (List.map_id' _)
    rintro rfl
    exact h _ hc (by simp [marks])
  rw [written, hmap, pieces, if_pos rfl]
  rfl

/-- Only behind a drive is there a slash more. -/
theorem closeDrive_encode (cs : List Char) :
    ∃ slash ∈ [[], ['/']], closeDrive (Utf8.encode cs) = Utf8.encode (cs ++ slash) ∧
      (slash ≠ [] → cs.getLast? = some ':' ∨ cs.getLast? = some '|') := by
  have hsame : Utf8.encode cs = Utf8.encode (cs ++ []) := by rw [List.append_nil]
  have hslash : Utf8.encode cs ++ [0x2f] = Utf8.encode (cs ++ ['/']) := by
    rw [Utf8.encode, Utf8.encode, List.flatMap_append]
    rfl
  unfold closeDrive
  split
  · next b a x r hbs =>
    have hlast : (Utf8.encode cs).getLast? = some b := by rw [← List.head?_reverse, hbs]; rfl
    split
    · next hdrive =>
      refine ⟨['/'], by simp, hslash, fun _ => ?_⟩
      rcases hdrive.2 with rfl | rfl
      · exact .inl (Utf8.getLast?_of_encode (n := 0x3a) (by decide) hlast)
      · exact .inr (Utf8.getLast?_of_encode (n := 0x7c) (by decide) hlast)
    · exact ⟨[], by simp, hsame, fun h => absurd rfl h⟩
  · exact ⟨[], by simp, hsame, fun h => absurd rfl h⟩

theorem mem_settled {s : List Char} {ss : List (List Char)} (h : s ∈ settled ss) :
    s ∈ ss ∨ s = [] := by
  induction ss with
  | nil => exact .inl h
  | cons s' r ih =>
      cases r with
      | nil =>
          rw [settled] at h
          split at h
          · exact .inr (List.mem_singleton.mp h)
          · exact .inl h
      | cons s'' r =>
          rw [settled] at h
          split at h
          · exact (ih h).imp_left (List.mem_cons_of_mem _)
          · rcases List.mem_cons.mp h with rfl | h
            · exact .inl (List.mem_cons_self ..)
            · exact (ih h).imp_left (List.mem_cons_of_mem _)

theorem mem_dropEmpty {s : List Char} {ss : List (List Char)} (h : s ∈ dropEmpty ss) : s ∈ ss := by
  fun_induction dropEmpty ss with
  | case1 s' r ih => exact List.mem_cons_of_mem _ (ih h)
  | case2 => exact h

theorem mem_of_mem_pieces {c : Char} {s cs : List Char} (hs : s ∈ pieces '/' cs) (hc : c ∈ s) :
    c ∈ cs := by
  rw [← joinPieces_pieces '/' cs]
  exact mem_joinPieces_of_mem hc hs

/-- The path that a URL makes of a plain absolute one, from what is behind the
leading slash. -/
def settledPath (r : List Char) : List Char :=
  '/' :: joinPieces '/' (dropEmpty (settled (pieces '/' r)))

theorem mem_settledPath {r : List Char} {c : Char} (h : c ∈ settledPath r) : c = '/' ∨ c ∈ r := by
  rcases List.mem_cons.mp h with h | h
  · exact .inl h
  rcases mem_joinPieces h with h | ⟨s, hs, hc⟩
  · exact .inl h
  · rcases mem_settled (mem_dropEmpty hs) with hs | rfl
    · exact .inr (mem_of_mem_pieces hs hc)
    · exact absurd hc List.not_mem_nil

/-- The address of a plain absolute path leads to this path, less what does not
count in it. -/
theorem path?_of_plain {r : List Char} (h : Plain ('/' :: r)) (hup : ['.', '.'] ∉ pieces '/' r)
    (hedge : ∀ c ∈ ('/' :: r).getLast?, ¬isEdge c = true) :
    ∃ slash ∈ [[], ['/']], path? (.ofList ("file://".toList ++ '/' :: r)) =
        .ok (.ofList (settledPath r ++ slash)) ∧
      (slash ≠ [] → (settledPath r).getLast? = some ':' ∨ (settledPath r).getLast? = some '|') := by
  have hr : Plain r := h.of_subset fun c => List.mem_cons_of_mem _
  have hsegments : ∀ s ∈ pieces '/' r, Plain s ∧ s ≠ ['.', '.'] := fun s hs =>
    ⟨hr.of_subset fun c => mem_of_mem_pieces hs, fun heq => hup (heq ▸ hs)⟩
  have hplain : Plain (settledPath r) := fun c hc => by
    rcases mem_settledPath hc with rfl | hc
    · decide
    · exact hr c hc
  have hroute : Route.follow ⟨[], false⟩ (written ('/' :: r)) =
      ⟨(settled (pieces '/' r)).reverse, false⟩ := by
    rw [h.written_cons, Route.follow_plain hsegments, List.append_nil]
  have htext : (Route.mk (settled (pieces '/' r)).reverse false).text = settledPath r := by
    rw [Route.text, List.reverse_reverse]
    rfl
  obtain ⟨slash, hslash, hclose, hdrive⟩ := closeDrive_encode (settledPath r)
  have hhost : host? [] = some .local := rfl
  have hfront : ('/' :: r).takeWhile (fun c => !isSlash c) = [] := rfl
  have hkept : kept [] = [] := rfl
  have hdecode : Utf8.decodeWith [Char.ofNat 0xFFFD]
      (closeDrive (percentDecode (settledPath r))) = settledPath r ++ slash := by
    rw [hplain.percentDecode_eq, hclose, Utf8.decodeWith_encode]
  refine ⟨slash, hslash, ?_, hdrive⟩
  have hlocal : decide (Host.local = Host.other) = false := rfl
  simp only [path?, String.toList_ofList, behind?_scheme (List.cons_ne_nil _ _) hedge,
    h.takeWhile_eq, hfront, hkept, ite_self, List.length_nil, List.drop_zero, hhost, hlocal, hroute,
    htext, hdecode]
  rfl

/-! ### Names on the way -/

theorem settled_ne_nil {ss : List (List Char)} (h : ss ≠ []) : settled ss ≠ [] := by
  fun_induction settled ss with
  | case1 => exact absurd rfl h
  | case2 => exact List.cons_ne_nil _ _
  | case3 => exact List.cons_ne_nil _ _
  | case4 s' r ih => exact ih (List.cons_ne_nil _ _)
  | case5 => exact List.cons_ne_nil _ _

theorem dropEmpty_ne_nil {ss : List (List Char)} (h : ss ≠ []) : dropEmpty ss ≠ [] := by
  fun_induction dropEmpty ss with
  | case1 s r ih => exact ih (List.cons_ne_nil _ _)
  | case2 => exact h

theorem joinPieces_cons {s : List Char} {ss : List (List Char)} (h : ss ≠ []) :
    joinPieces '/' (s :: ss) = s ++ '/' :: joinPieces '/' ss := by
  cases ss with
  | nil => exact absurd rfl h
  | cons s' r => rfl

theorem joinPieces_settled (ss : List (List Char)) :
    (joinPieces '/' (settled ss)).Sublist (joinPieces '/' ss) := by
  fun_induction settled ss with
  | case1 => exact .slnil
  | case2 => exact List.nil_sublist _
  | case3 => exact List.Sublist.refl _
  | case4 s' r ih =>
      rw [joinPieces_cons (List.cons_ne_nil s' r)]
      exact (ih.cons _).trans (List.sublist_append_right _ _)
  | case5 s s' r hs ih =>
      rw [joinPieces_cons (settled_ne_nil (List.cons_ne_nil s' r)),
        joinPieces_cons (List.cons_ne_nil s' r)]
      exact (List.Sublist.refl s).append (ih.cons_cons _)

theorem joinPieces_dropEmpty (ss : List (List Char)) :
    (joinPieces '/' (dropEmpty ss)).Sublist (joinPieces '/' ss) := by
  fun_induction dropEmpty ss with
  | case1 s r ih => exact ih.cons _
  | case2 => exact List.Sublist.refl _

theorem settledPath_sublist (r : List Char) : (settledPath r).Sublist ('/' :: r) := by
  have h := (joinPieces_dropEmpty _).trans (joinPieces_settled (pieces '/' r))
  rw [joinPieces_pieces] at h
  exact h.cons_cons _

/-- A segment that leads on. -/
def leadsOn (s : List Char) : Bool := s ≠ [] ∧ s ≠ ['.']

theorem filter_settled (ss : List (List Char)) :
    (settled ss).filter leadsOn = ss.filter leadsOn := by
  fun_induction settled ss with
  | case1 => rfl
  | case2 => rfl
  | case3 => rfl
  | case4 s' r ih => exact ih
  | case5 s s' r hs ih => rw [List.filter_cons, ih, ← List.filter_cons]

theorem filter_dropEmpty (ss : List (List Char)) :
    (dropEmpty ss).filter leadsOn = ss.filter leadsOn := by
  fun_induction dropEmpty ss with
  | case1 s r ih => exact ih
  | case2 => rfl

theorem pieces_settledPath (r : List Char) :
    pieces '/' (settledPath r) = [] :: dropEmpty (settled (pieces '/' r)) := by
  rw [settledPath, pieces, if_pos rfl, pieces_joinPieces]
  · exact dropEmpty_ne_nil (settled_ne_nil (pieces_ne_nil _ _))
  · intro s hs
    rcases mem_settled (mem_dropEmpty hs) with hs | rfl
    · exact not_mem_of_mem_pieces hs
    · exact List.not_mem_nil

/-- A path without single dots and doubled slashes in front stays as it is. -/
theorem settledPath_eq_self {r : List Char} (hstay : ['.'] ∉ pieces '/' r)
    (hfront : r.head? ≠ some '/') : settledPath r = '/' :: r := by
  have hsettled : ∀ ss : List (List Char), ['.'] ∉ ss → settled ss = ss := by
    intro ss hss
    fun_induction settled ss with
    | case1 => rfl
    | case2 => exact absurd (List.mem_singleton_self _) hss
    | case3 => rfl
    | case4 s' r ih => exact absurd (List.mem_cons_self ..) hss
    | case5 s s' r hs ih => rw [ih (List.not_mem_of_not_mem_cons hss)]
  have hempty : dropEmpty (pieces '/' r) = pieces '/' r := by
    cases r with
    | nil => rfl
    | cons c r =>
        have hc : c ≠ '/' := fun heq => hfront (by rw [heq]; rfl)
        rw [pieces, if_neg hc]
        split <;> rfl
  rw [settledPath, hsettled _ hstay, hempty, joinPieces_pieces]

/-! ## Other machines -/

theorem Route.isForeign_step (p : Route) {s : List Char} (h : isDrive (kept s) = false)
    (closed : Bool) : (p.step s closed).isForeign = p.isForeign := by
  unfold Route.step
  dsimp only
  split
  · rfl
  · split
    · rfl
    · split
      · rw [Route.first]
        split
        · rfl
        · simp [h]
      · rfl

/-- A host keeps a path on another machine, unless a segment is a drive. -/
theorem Route.isForeign_follow {ss : List (List Char)} (h : ∀ s ∈ ss, isDrive (kept s) = false)
    (p : Route) : (p.follow ss).isForeign = p.isForeign := by
  fun_induction Route.follow p ss with
  | case1 => rfl
  | case2 p s => exact p.isForeign_step (h s (by simp)) false
  | case3 p s r hr ih =>
      rw [ih fun s hs => h s (List.mem_cons_of_mem _ hs)]
      exact p.isForeign_step (h s (by simp)) true

/-- A path is cut behind its first segment. -/
theorem exists_first_piece (cs : List Char) :
    ∃ a path, cs = a ++ path ∧ (pieces '/' cs).head? = some a ∧ '/' ∉ a ∧
      (path = [] ∨ ∃ b, path = '/' :: b ∧ pieces '/' cs = a :: pieces '/' b) := by
  cases hcut : cutFirst '/' cs with
  | none =>
      have hslash := cutFirst_eq_none_iff.mp hcut
      exact ⟨cs, [], (List.append_nil cs).symm, by rw [pieces_of_not_mem hslash]; rfl, hslash,
        .inl rfl⟩
  | some parts =>
      obtain ⟨a, b⟩ := parts
      obtain ⟨rfl, hslash⟩ := cutFirst_eq_some_iff.mp hcut
      have hpieces : pieces '/' (a ++ '/' :: b) = a :: pieces '/' b := by
        rw [pieces_append, pieces_of_not_mem hslash]
        rfl
      exact ⟨a, '/' :: b, rfl, by rw [hpieces]; rfl, hslash, .inr ⟨b, rfl, hpieces⟩⟩

/-- A plain relative path behind the scheme is read as a host. Unless this host
is the machine itself, the address leads nowhere. -/
theorem path?_of_relative {cs : List Char} (h : Plain cs) (hne : cs ≠ [])
    (hedge : ∀ c ∈ cs.getLast?, ¬isEdge c = true)
    (hdrive : ∀ s ∈ pieces '/' cs, isDrive s = false)
    (hhost : ∀ s ∈ (pieces '/' cs).head?, host? s ≠ some .local) :
    ∃ fault, path? (.ofList ("file://".toList ++ cs)) = .error fault := by
  obtain ⟨a, path, hcs, hhead, hslash, hpath⟩ := exists_first_piece cs
  have hmem : a ∈ pieces '/' cs := List.mem_of_mem_head? hhead
  have ha : Plain a := h.of_subset fun c => mem_of_mem_pieces hmem
  have hfront : cs.takeWhile (fun c => !isSlash c) = a := by
    have hno : ∀ c ∈ a, (!isSlash c) = true := by
      intro c hc
      have hback : c ≠ '\\' := fun heq => ha c hc (by simp [heq, marks])
      have hfore : c ≠ '/' := fun heq => hslash (heq ▸ hc)
      simp [isSlash, hback, hfore]
    rw [hcs, List.takeWhile_append_of_pos hno]
    rcases hpath with rfl | ⟨b, rfl, -⟩ <;> exact List.append_nil a
  have hdrop : cs.drop a.length = path := by rw [hcs, List.drop_left]
  have hsegments : ∀ s ∈ written path, isDrive (kept s) = false := by
    intro s hs
    rcases hpath with rfl | ⟨b, rfl, hpieces⟩
    · exact absurd hs List.not_mem_nil
    · have hb : Plain ('/' :: b) := h.of_subset fun c hc => hcs ▸ List.mem_append_right _ hc
      rw [hb.written_cons] at hs
      have hs' : s ∈ pieces '/' cs := hpieces ▸ List.mem_cons_of_mem _ hs
      rw [(h.of_subset fun c => mem_of_mem_pieces hs').kept_eq]
      exact hdrive s hs'
  simp only [path?, String.toList_ofList, behind?_scheme hne hedge, h.takeWhile_eq, hfront,
    ha.kept_eq, hdrive a hmem, hdrop]
  rcases hh : host? a with _ | _ | _
  · exact ⟨.malformed, by simp [hh]⟩
  · exact absurd hh (hhost a hhead)
  · refine ⟨.notLocal, ?_⟩
    have hforeign := Route.isForeign_follow hsegments ⟨[], true⟩
    simp [hh, hforeign]

end JobLedger.FileUrl

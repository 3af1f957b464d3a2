import JobLedger.Disk.Step
import JobLedger.Disk.Ensure
import JobLedger.Proofs.Text.Cut

/-!
# Where addresses lead

The address of a name in a directory leads to the name below the path of
the directory, unless it is too long (`locate_child_eq_ok_iff`), and several
names lead on from there (`locate_below`). Finding the way needs directories
only, so an address keeps its path in every tree that still has all
directories (`KeepsDirs.locate`).
-/

namespace JobLedger

namespace Disk

theorem noSlash_of_mem_components {address c : String} (h : c ∈ components address) :
    '/' ∉ c.toList := by
  obtain ⟨p, hp, rfl⟩ := List.mem_map.mp h
  rw [String.toList_ofList]
  exact not_mem_of_mem_pieces hp

theorem mem_toList_of_mem_components {address c : String} {x : Char}
    (hc : c ∈ components address) (hx : x ∈ c.toList) : x ∈ address.toList := by
  obtain ⟨p, hp, rfl⟩ := List.mem_map.mp hc
  rw [String.toList_ofList] at hx
  rw [← joinPieces_pieces '/' address.toList]
  exact mem_joinPieces_of_mem hx hp

theorem exists_component_of_mem_toList {address : String} {x : Char} (h : x ∈ address.toList) :
    x = '/' ∨ ∃ c ∈ components address, x ∈ c.toList := by
  rw [← joinPieces_pieces '/' address.toList] at h
  refine (mem_joinPieces h).imp id fun ⟨p, hp, hx⟩ => ⟨_, List.mem_map_of_mem hp, ?_⟩
  rwa [String.toList_ofList]

/-- A name that a directory can have an entry for. -/
structure PlainName (name : String) : Prop where
  noSlash : '/' ∉ name.toList
  noNul : '\x00' ∉ name.toList
  ne_empty : name ≠ ""
  ne_dot : name ≠ "."
  ne_dotdot : name ≠ ".."

/-! ## Following components -/

theorem follow_append (d : Disk) (p : Path) (cs ds : List String) :
    d.follow p (cs ++ ds) = (d.follow p cs).bind fun q => d.follow q ds := by
  induction cs generalizing p with
  | nil => rfl
  | cons c r ih =>
      rw [List.cons_append, follow, follow]
      split
      · rfl
      · rfl
      · split
        · exact ih p
        · split
          · exact ih _
          · split
            · rfl
            · exact ih _

/-- A component that stays, and the slash at the end of an address, ask for
a directory. -/
theorem follow_stay (d : Disk) (p : Path) :
    d.follow p [""] = match d.node? p with
      | none => .error .notFound
      | some (.file _) => .error .notDirectory
      | some .dir => .ok p := by
  rw [follow]
  cases d.node? p with
  | none => rfl
  | some n => cases n <;> rfl

theorem follow_cons (d : Disk) (p : Path) {name : String} (hn : PlainName name)
    (r : List String) :
    d.follow p (name :: r) = match d.node? p with
      | none => .error .notFound
      | some (.file _) => .error .notDirectory
      | some .dir =>
          if exceeds d.limits.name name then .error .nameTooLong
          else d.follow (p ++ [name]) r := by
  rw [follow]
  cases d.node? p with
  | none => rfl
  | some n =>
      cases n with
      | file content => rfl
      | dir => simp only [hn.ne_empty, hn.ne_dot, hn.ne_dotdot, or_self, if_false]

theorem follow_name (d : Disk) (p : Path) {name : String} (hn : PlainName name) :
    d.follow p [name] = match d.node? p with
      | none => .error .notFound
      | some (.file _) => .error .notDirectory
      | some .dir =>
          if exceeds d.limits.name name then .error .nameTooLong else .ok (p ++ [name]) :=
  follow_cons d p hn []

/-- Names lead straight down. -/
theorem path_of_follow {d : Disk} {p q : Path} {names : List String}
    (hn : ∀ n ∈ names, PlainName n) (h : d.follow p names = .ok q) : q = p ++ names := by
  induction names generalizing p with
  | nil =>
      rw [List.append_nil]
      exact (Except.ok.inj h).symm
  | cons n names ih =>
      obtain ⟨hfirst, hrest⟩ := List.forall_mem_cons.mp hn
      rw [follow_cons d p hfirst] at h
      split at h
      · cases h
      · cases h
      · split at h
        · cases h
        · rw [ih hrest h, List.append_assoc]
          rfl

theorem follow_slash_eq_ok_iff {d : Disk} {p q : Path} {cs : List String} :
    d.follow p (cs ++ [""]) = .ok q ↔ d.follow p cs = .ok q ∧ d.node? q = some .dir := by
  rw [follow_append]
  cases hp : d.follow p cs with
  | error e => simp [Except.bind]
  | ok p' =>
      rw [Except.bind, follow_stay]
      constructor
      · intro h
        split at h
        · exact nomatch h
        · exact nomatch h
        · next hnode => exact ⟨h, Except.ok.inj h ▸ hnode⟩
      · rintro ⟨h, hnode⟩
        obtain rfl := Except.ok.inj h
        rw [hnode]

theorem follow_name_eq_ok_iff {d : Disk} {p q : Path} {cs : List String} {name : String}
    (hn : PlainName name) :
    d.follow p (cs ++ [name]) = .ok q ↔ exceeds d.limits.name name = false ∧
      ∃ p', d.follow p cs = .ok p' ∧ d.node? p' = some .dir ∧ q = p' ++ [name] := by
  rw [follow_append]
  cases hp : d.follow p cs with
  | error e => simp [Except.bind]
  | ok p' =>
      rw [Except.bind, follow_name d p' hn]
      constructor
      · intro h
        split at h
        · exact nomatch h
        · exact nomatch h
        · next hnode =>
          split at h
          · exact nomatch h
          · next hname =>
            exact ⟨Bool.eq_false_iff.mpr hname, p', rfl, hnode, (Except.ok.inj h).symm⟩
      · rintro ⟨hname, p'', h, hnode, rfl⟩
        obtain rfl := Except.ok.inj h
        rw [hnode, hname]
        rfl

/-! ## Addresses below a directory -/

theorem components_of_slash {dir : String} {init : List Char} (h : dir.toList = init ++ ['/']) :
    components dir = (pieces '/' init).map String.ofList ++ [""] := by
  rw [components, h, pieces_append, List.map_append]
  rfl

/-- The components of an address below a directory, for any text behind the
address of the directory. A slash at the end of this address does not count. -/
theorem components_child_append {dir : String} (hdir : dir ≠ "") (name : String) :
    ∃ cs, components (child dir name) = cs ++ components name ∧
      (components dir = cs ∨ components dir = cs ++ [""]) := by
  rw [child, if_neg hdir]
  split
  · next h =>
    obtain ⟨init, hinit⟩ := List.getLast?_eq_some_iff.mp h
    refine ⟨(pieces '/' init).map String.ofList, ?_, .inr (components_of_slash hinit)⟩
    rw [components, String.toList_append, hinit, List.append_assoc, List.singleton_append,
      pieces_append, List.map_append]
    rfl
  · refine ⟨components dir, ?_, .inl rfl⟩
    have hlist : (dir ++ "/" ++ name).toList = dir.toList ++ '/' :: name.toList := by simp
    rw [components, hlist, pieces_append, List.map_append]
    rfl

theorem components_of_noSlash {name : String} (hn : '/' ∉ name.toList) :
    components name = [name] := by
  rw [components, pieces_of_not_mem hn]
  simp

theorem components_child {dir name : String} (hdir : dir ≠ "") (hn : '/' ∉ name.toList) :
    ∃ cs, components (child dir name) = cs ++ [name] ∧
      (components dir = cs ∨ components dir = cs ++ [""]) := by
  have h := components_child_append hdir name
  rwa [components_of_noSlash hn] at h

theorem isAbsolute_child {dir : String} (hdir : dir ≠ "") (name : String) :
    isAbsolute (child dir name) = isAbsolute dir := by
  obtain ⟨c, r, hlist⟩ := List.exists_cons_of_ne_nil fun h => hdir (String.toList_eq_nil_iff.mp h)
  rw [isAbsolute, isAbsolute, child, if_neg hdir]
  split <;> simp [hlist]

theorem child_ne_empty {dir : String} (hdir : dir ≠ "") (name : String) : child dir name ≠ "" := by
  intro h
  rw [child, if_neg hdir] at h
  have hlist := congrArg String.toList h
  split at hlist <;> simp [hdir] at hlist

theorem toList_child_mem {dir name : String} {c : Char} (h : c ∈ (child dir name).toList) :
    c ∈ dir.toList ∨ c = '/' ∨ c ∈ name.toList := by
  rw [child] at h
  split at h
  · exact .inr (.inr h)
  · split at h <;> simp at h
    · exact h.imp id .inr
    · exact h

/-! ## Locating -/

theorem checkAddress_eq_ok_iff {d : Disk} {address : String} :
    d.checkAddress address = .ok () ↔
      '\x00' ∉ address.toList ∧ address ≠ "" ∧ exceeds d.limits.address address = false := by
  rw [checkAddress]
  by_cases h0 : '\x00' ∈ address.toList
  · simp [h0]
  · by_cases h1 : address = ""
    · simp [h1]
    · cases h2 : exceeds d.limits.address address <;> simp [h0, h1]

theorem locate_eq_ok_iff {d : Disk} {address : String} {p : Path} :
    d.locate address = .ok p ↔ d.checkAddress address = .ok () ∧
      d.follow (d.startOf address) (components address) = .ok p := by
  rw [locate]
  cases d.checkAddress address with
  | error e => simp [bind, Except.bind]
  | ok u => simp [bind, Except.bind]

theorem ne_empty_of_locate {d : Disk} {address : String} {p : Path}
    (h : d.locate address = .ok p) : address ≠ "" :=
  (checkAddress_eq_ok_iff.mp (locate_eq_ok_iff.mp h).1).2.1

/-- What is no longer than an address that is accepted is accepted. -/
theorem exceeds_of_length_le {limit : Option Nat} {a a' : String}
    (hlength : (Utf8.bytes a').length ≤ (Utf8.bytes a).length) (h : exceeds limit a = false) :
    exceeds limit a' = false := by
  cases limit with
  | none => rfl
  | some n =>
      simp only [exceeds, decide_eq_false_iff_not] at h ⊢
      omega

/-- An address is at least as long as that of its directory. -/
theorem exceeds_child {limit : Option Nat} {dir name : String}
    (h : exceeds limit (child dir name) = false) : exceeds limit dir = false := by
  have hlength : (Utf8.bytes dir).length ≤ (Utf8.bytes (child dir name)).length := by
    rw [child]
    split
    · next hdir => simp [hdir, Utf8.bytes, Utf8.encode]
    · split <;> simp [Utf8.bytes, Utf8.encode]
  exact exceeds_of_length_le hlength h

/-- The address of a name in a directory is accepted if that of the directory
is and the whole is not too long. -/
theorem checkAddress_child {d : Disk} {dir name : String} (hne : dir ≠ "") (hn : PlainName name) :
    d.checkAddress (child dir name) = .ok () ↔
      d.checkAddress dir = .ok () ∧ exceeds d.limits.address (child dir name) = false := by
  rw [checkAddress_eq_ok_iff, checkAddress_eq_ok_iff]
  constructor
  · rintro ⟨hnul, -, hlimit⟩
    refine ⟨⟨fun h => hnul ?_, hne, exceeds_child hlimit⟩, hlimit⟩
    rw [child, if_neg hne]
    split <;> simp [h]
  · rintro ⟨⟨hnul, -, -⟩, hlimit⟩
    refine ⟨fun h => ?_, child_ne_empty hne name, hlimit⟩
    rcases toList_child_mem h with h | h | h
    · exact hnul h
    · exact absurd h (by decide)
    · exact hn.noNul h

/-- A name may stand in a directory as far as lengths go. -/
structure Fits (limits : NameLimits) (dir name : String) : Prop where
  address : exceeds limits.address (child dir name) = false
  name : exceeds limits.name name = false

/-- The way to a directory is the way to a name in it, without the name. A
slash at the end of the directory's address asks for a directory, as the name
does. -/
theorem exists_way_child {d : Disk} {dir name : String} (hne : dir ≠ "")
    (hn : '/' ∉ name.toList) :
    ∃ cs, components (child dir name) = cs ++ [name] ∧
      ∀ p, d.node? p = some .dir →
        (d.follow (d.startOf dir) (components dir) = .ok p ↔
          d.follow (d.startOf (child dir name)) cs = .ok p) := by
  have hstart : d.startOf (child dir name) = d.startOf dir := by
    rw [startOf, startOf, isAbsolute_child hne]
  obtain ⟨cs, hcs, hdir⟩ := components_child hne hn
  refine ⟨cs, hcs, fun p hnode => ?_⟩
  rw [hstart]
  rcases hdir with hdir | hdir <;> rw [hdir]
  exact follow_slash_eq_ok_iff.trans (and_iff_left hnode)

/-- The address of a name in a directory leads to the name below it. The
directory has to be there, the name need not. -/
theorem locate_child_eq_ok_iff {d : Disk} {dir name : String} {q : Path} (hne : dir ≠ "")
    (hn : PlainName name) :
    d.locate (child dir name) = .ok q ↔ Fits d.limits dir name ∧
      ∃ p, d.locate dir = .ok p ∧ d.node? p = some .dir ∧ q = p ++ [name] := by
  obtain ⟨cs, hcs, hway⟩ := exists_way_child (d := d) hne hn.noSlash
  rw [locate_eq_ok_iff, checkAddress_child hne hn, hcs, follow_name_eq_ok_iff hn]
  constructor
  · rintro ⟨⟨hcheck, haddress⟩, hname, p, hp, hnode, rfl⟩
    exact ⟨⟨haddress, hname⟩, p, locate_eq_ok_iff.mpr ⟨hcheck, (hway p hnode).mpr hp⟩, hnode, rfl⟩
  · rintro ⟨hfits, p, hp, hnode, rfl⟩
    obtain ⟨hcheck, hfollow⟩ := locate_eq_ok_iff.mp hp
    exact ⟨⟨hcheck, hfits.address⟩, hfits.name, p, (hway p hnode).mp hfollow, hnode, rfl⟩

/-- The components of an address below a directory, with the way to the
directory in front of the last one. -/
theorem components_child_of_locate {d : Disk} {dir name : String} {p : Path}
    (h : d.locate dir = .ok p) (hn : PlainName name) :
    ∃ cs, components (child dir name) = cs ++ [name] ∧
      d.follow (d.startOf (child dir name)) (cs ++ [""]) = d.follow p [""] ∧
      d.follow (d.startOf (child dir name)) (cs ++ [name]) = d.follow p [name] := by
  have hne := ne_empty_of_locate h
  obtain ⟨-, hfollow⟩ := locate_eq_ok_iff.mp h
  have hstart : d.startOf (child dir name) = d.startOf dir := by
    rw [startOf, startOf, isAbsolute_child hne]
  obtain ⟨cs, hcs, hdir | hdir⟩ := components_child hne hn.noSlash
  · refine ⟨cs, hcs, ?_, ?_⟩ <;> rw [hstart, follow_append, ← hdir, hfollow] <;> rfl
  · -- The way to the directory ends with a slash, so the directory is there.
    rw [hdir] at hfollow
    have hcs' := (follow_slash_eq_ok_iff.mp hfollow).1
    refine ⟨cs, hcs, ?_, ?_⟩ <;> rw [hstart, follow_append, hcs'] <;> rfl

/-- The address of names, each in the directory of the one before. -/
def below (dir : String) (names : List String) : String := names.foldl child dir

theorem child_below (dir : String) (names : List String) (name : String) :
    child (below dir names) name = below dir (names ++ [name]) := by
  rw [below, below, List.foldl_append]
  rfl

theorem plainName_of_mem_concat {names : List String} (hnames : ∀ n ∈ names, PlainName n)
    {name : String} (hn : PlainName name) : ∀ n ∈ names ++ [name], PlainName n :=
  List.forall_mem_append.mpr ⟨hnames, List.forall_mem_singleton.mpr hn⟩

theorem isAbsolute_below {dir : String} (hdir : dir ≠ "") (names : List String) :
    isAbsolute (below dir names) = isAbsolute dir := by
  induction names generalizing dir with
  | nil => rfl
  | cons n names ih => exact (ih (child_ne_empty hdir n)).trans (isAbsolute_child hdir n)

theorem components_below {dir : String} (hdir : dir ≠ "") {names : List String}
    (hn : ∀ n ∈ names, PlainName n) :
    ∃ cs, components (below dir names) = cs ++ names ∧
      (components dir = cs ∨ components dir = cs ++ [""]) := by
  induction names generalizing dir with
  | nil => exact ⟨components dir, (List.append_nil _).symm, .inl rfl⟩
  | cons n names ih =>
      obtain ⟨hfirst, hrest⟩ := List.forall_mem_cons.mp hn
      obtain ⟨cs, hcs, hdir'⟩ := components_child hdir hfirst.noSlash
      obtain ⟨cs', hcs', hchild | hchild⟩ := ih (child_ne_empty hdir n) hrest
      · refine ⟨cs, ?_, hdir'⟩
        have hbelow : below dir (n :: names) = below (child dir n) names := rfl
        rw [hbelow, hcs', ← hchild, hcs, List.append_assoc]
        rfl
      · -- The address of the name does not end with a slash.
        have hlast := congrArg List.getLast? (hcs.symm.trans hchild)
        simp only [List.getLast?_concat, Option.some.injEq] at hlast
        exact absurd hlast hfirst.ne_empty

/-- Names below a directory that is there are looked for from its path on. -/
theorem locate_below {d : Disk} {dir : String} {p : Path} (h : d.locate dir = .ok p)
    {names : List String} (hn : ∀ n ∈ names, PlainName n) :
    d.locate (below dir names) =
      (d.checkAddress (below dir names)).bind fun _ => d.follow p names := by
  have hne := ne_empty_of_locate h
  have hstart : d.startOf (below dir names) = d.startOf dir := by
    rw [startOf, startOf, isAbsolute_below hne]
  obtain ⟨cs, hcs, hdir⟩ := components_below hne hn
  have hway : d.follow (d.startOf dir) cs = .ok p := by
    obtain ⟨-, hfollow⟩ := locate_eq_ok_iff.mp h
    rcases hdir with hdir | hdir <;> rw [hdir] at hfollow
    · exact hfollow
    · exact (follow_slash_eq_ok_iff.mp hfollow).1
  rw [locate, hstart, hcs, follow_append, hway]
  rfl

theorem path_of_locate_below {d : Disk} {dir : String} {p q : Path} (h : d.locate dir = .ok p)
    {names : List String} (hn : ∀ n ∈ names, PlainName n)
    (hq : d.locate (below dir names) = .ok q) : q = p ++ names := by
  rw [locate_below h hn] at hq
  cases hcheck : d.checkAddress (below dir names) with
  | error e =>
      rw [hcheck] at hq
      cases hq
  | ok u =>
      rw [hcheck] at hq
      exact path_of_follow hn hq

/-- A name that does not fit is refused for its length. -/
theorem locate_child_of_not_fits {d : Disk} {dir name : String} {p : Path}
    (h : d.locate dir = .ok p) (hnode : d.node? p = some .dir) (hn : PlainName name)
    (hfits : ¬Fits d.limits dir name) : d.locate (child dir name) = .error .nameTooLong := by
  have hne := ne_empty_of_locate h
  obtain ⟨hcheck, -⟩ := locate_eq_ok_iff.mp h
  obtain ⟨hnul, -, -⟩ := checkAddress_eq_ok_iff.mp hcheck
  obtain ⟨cs, hcs, -, hfollow⟩ := components_child_of_locate h hn
  rw [locate, hcs, hfollow, follow_name d p hn, hnode]
  cases haddress : exceeds d.limits.address (child dir name) with
  | false =>
      have hname : exceeds d.limits.name name = true := by
        rw [← Bool.not_eq_false]
        exact fun h => hfits ⟨haddress, h⟩
      rw [(checkAddress_child hne hn).mpr ⟨hcheck, haddress⟩, hname]
      rfl
  | true =>
      have hnul' : '\x00' ∉ (child dir name).toList := fun hmem =>
        (toList_child_mem hmem).elim hnul fun hmem => hmem.elim (by decide) hn.noNul
      have hrefused : d.checkAddress (child dir name) = .error .nameTooLong := by
        rw [checkAddress, if_neg hnul', if_neg (child_ne_empty hne name), haddress]
        rfl
      rw [hrefused]
      rfl

theorem read_eq_ok_iff {d : Disk} {address : String} {content : Bytes} :
    d.read address = .ok content ↔
      ∃ p, d.locate address = .ok p ∧ d.node? p = some (.file content) := by
  rw [read]
  cases d.locate address with
  | error e => simp [bind, Except.bind]
  | ok p =>
      simp only [bind, Except.bind, Except.ok.injEq, exists_eq_left']
      cases d.node? p with
      | none => simp
      | some n => cases n <;> simp

theorem isFile_iff {d : Disk} {address : String} :
    d.isFile address = true ↔ ∃ content, d.read address = .ok content := by
  rw [isFile, find?, read]
  cases d.locate address with
  | error e => simp [bind, Except.bind]
  | ok p =>
      simp only [bind, Except.bind]
      cases d.node? p with
      | none => simp
      | some n => cases n <;> simp

theorem isDir_iff {d : Disk} {address : String} :
    d.isDir address = true ↔ ∃ p, d.locate address = .ok p ∧ d.node? p = some .dir := by
  rw [isDir, find?]
  cases d.locate address with
  | error e => simp
  | ok p =>
      simp only [Except.ok.injEq, exists_eq_left']
      cases d.node? p with
      | none => simp
      | some n => cases n <;> simp

/-! ## Trees without limits -/

/-- A tree without limits on names and addresses. -/
structure Unlimited (d : Disk) : Prop where
  name : d.limits.name = none
  address : d.limits.address = none

theorem Unlimited.exceeds_address {d : Disk} (hd : d.Unlimited) (address : String) :
    exceeds d.limits.address address = false := by
  rw [hd.address]
  rfl

theorem Unlimited.fits {d : Disk} (hd : d.Unlimited) (dir name : String) :
    Fits d.limits dir name :=
  ⟨hd.exceeds_address _, by rw [hd.name]; rfl⟩

/-- The address of a name in a directory leads to the name below it. -/
theorem locate_child {d : Disk} (hd : d.Unlimited) {dir name : String} {p : Path}
    (h : d.locate dir = .ok p) (hn : PlainName name) :
    d.locate (child dir name) = match d.node? p with
      | none => .error .notFound
      | some (.file _) => .error .notDirectory
      | some .dir => .ok (p ++ [name]) := by
  obtain ⟨cs, hcs, -, hfollow⟩ := components_child_of_locate h hn
  have hfits := hd.fits dir name
  have hcheck := (checkAddress_child (ne_empty_of_locate h) hn).mpr
    ⟨(locate_eq_ok_iff.mp h).1, hfits.address⟩
  rw [locate, hcheck, hcs, hfollow, follow_name d p hn, hfits.name]
  rfl

/-! ## Trees with the same directories -/

/-- Every directory of a tree is a directory of another one. -/
structure KeepsDirs (d d' : Disk) : Prop where
  workDir : d'.workDir = d.workDir
  limits : d'.limits = d.limits
  dirs : ∀ q, d.node? q = some .dir → d'.node? q = some .dir

theorem KeepsDirs.trans {d d' d'' : Disk} (h : KeepsDirs d d') (h' : KeepsDirs d' d'') :
    KeepsDirs d d'' :=
  ⟨h'.workDir.trans h.workDir, h'.limits.trans h.limits, fun q hq => h'.dirs q (h.dirs q hq)⟩

/-- The way to a path is the same in another tree that has the directories
on this way. -/
theorem follow_of_dirs {d d' : Disk} {q : Path} (hlimits : d'.limits = d.limits)
    (hdirs : ∀ p cs, d.follow p cs = .ok q → d.node? p = some .dir → d'.node? p = some .dir)
    {p : Path} {cs : List String} (hq : d.follow p cs = .ok q) : d'.follow p cs = .ok q := by
  induction cs generalizing p with
  | nil => exact hq
  | cons c r ih =>
      have hdirs' := hdirs p (c :: r) hq
      rw [Disk.follow] at hq ⊢
      split at hq
      · exact nomatch hq
      · exact nomatch hq
      · next hdir =>
        rw [hdirs' hdir, hlimits]
        simp only
        split at hq
        · next hstay => rw [if_pos hstay]; exact ih hq
        · next hstay =>
          rw [if_neg hstay]
          split at hq
          · next hup => rw [if_pos hup]; exact ih hq
          · next hup =>
            rw [if_neg hup]
            split at hq
            · exact nomatch hq
            · next hlimit => rw [if_neg hlimit]; exact ih hq

theorem KeepsDirs.follow {d d' : Disk} (h : KeepsDirs d d') {p q : Path} {cs : List String}
    (hq : d.follow p cs = .ok q) : d'.follow p cs = .ok q :=
  follow_of_dirs h.limits (fun p _ _ => h.dirs p) hq

theorem KeepsDirs.locate {d d' : Disk} (h : KeepsDirs d d') {address : String} {p : Path}
    (hp : d.locate address = .ok p) : d'.locate address = .ok p := by
  obtain ⟨hcheck, hfollow⟩ := locate_eq_ok_iff.mp hp
  refine locate_eq_ok_iff.mpr ⟨?_, ?_⟩
  · rw [checkAddress, h.limits]
    exact hcheck
  · rw [startOf, h.workDir]
    exact h.follow hfollow

theorem KeepsDirs.isDir {d d' : Disk} (h : KeepsDirs d d') {address : String}
    (hdir : d.isDir address = true) : d'.isDir address = true := by
  obtain ⟨p, hp, hnode⟩ := isDir_iff.mp hdir
  exact isDir_iff.mpr ⟨p, h.locate hp, h.dirs p hnode⟩

end Disk

end JobLedger

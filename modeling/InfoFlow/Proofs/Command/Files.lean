import Mathlib.Data.List.Induction
import Mathlib.Data.List.Nodup
import InfoFlow.Command.FileTree
import InfoFlow.Proofs.Listing

/-!
# The facts files that a path stands for

A path stands for the file that it leads to, or for everything below the directory that it leads to
whose name has the extension `json`, as far as the directories on the way can be listed
(`FileTree.Opens`). `FileTree.StandsFor` says so by locations, and `FileTree.mem_factFiles` says
that the program finds exactly these, each of them once. A walk tells what cannot be listed as
errors (`FileTree.error_mem_walk`), which nobody looks at.

What is below a directory is found again by the path that is put together for it: `names_join` says
that this path has the names of both parts, and `FileTree.follow_names` that they lead to the
location. For this the tree has to be `FileTree.Proper`.
-/

namespace InfoFlow

namespace Path

/-- A name that something in a directory can have. -/
structure IsName (name : String) : Prop where
  nonempty : name ≠ ""
  here : name ≠ "."
  back : name ≠ ".."
  slash : '/' ∉ name.toList
  short : name.utf8ByteSize ≤ FileTree.nameLimit

instance (name : String) : Decidable (IsName name) :=
  decidable_of_iff (name ≠ "" ∧ name ≠ "." ∧ name ≠ ".." ∧ '/' ∉ name.toList ∧
      name.utf8ByteSize ≤ FileTree.nameLimit)
    ⟨fun ⟨nonempty, here, back, slash, short⟩ => ⟨nonempty, here, back, slash, short⟩,
      fun h => ⟨h.nonempty, h.here, h.back, h.slash, h.short⟩⟩

/-- The characters of a path that was put together. -/
lemma toList_join {path : String} {d : Location} (ne : d ≠ []) :
    (join path d).toList =
      path.toList ++ (if path.toList.getLast? = some '/' then [] else ['/']) ++
        ['/'].intercalate (d.map String.toList) := by
  unfold join
  rw [if_neg (by simpa using ne)]
  split
  case isTrue => simp [String.toList_intercalate]
  case isFalse => simp [String.toList_intercalate]

/-- A path that was put together has the names of both parts. The first part may end in a slash and
then has one more name, an empty one. -/
lemma names_join (path : String) :
    ∃ base pad, names path = base ++ pad ∧ (pad = [] ∨ pad = [""]) ∧
      ∀ d : Location, d ≠ [] → (∀ name ∈ d, IsName name) → names (join path d) = base ++ d := by
  have rest : ∀ d : Location, d ≠ [] → (∀ name ∈ d, IsName name) →
      (['/'].intercalate (d.map String.toList)).splitOn '/' = d.map String.toList := by
    intro d ne isName
    apply List.splitOn_intercalate
    · intro text mem
      obtain ⟨name, listed, rfl⟩ := List.mem_map.1 mem
      exact (isName name listed).slash
    · simpa using ne
  have back : ∀ d : Location, (d.map String.toList).map String.ofList = d := by
    intro d
    simp [Function.comp_def]
  by_cases ends : path.toList.getLast? = some '/'
  · obtain ⟨front, hpath⟩ := List.getLast?_eq_some_iff.1 ends
    refine ⟨(front.splitOn '/').map String.ofList, [""], ?_, .inr rfl, fun d ne isName => ?_⟩
    · unfold names
      rw [hpath, List.splitOn_append_cons_self, List.map_append]
      rfl
    · unfold names
      rw [toList_join ne, if_pos ends, hpath, List.append_nil, List.append_assoc,
        List.singleton_append, List.splitOn_append_cons_self, rest d ne isName, List.map_append,
        back]
  · refine ⟨names path, [], (List.append_nil _).symm, .inl rfl, fun d ne isName => ?_⟩
    unfold names
    rw [toList_join ne, if_neg ends, List.append_assoc, List.singleton_append,
      List.splitOn_append_cons_self, rest d ne isName, List.map_append, back]

/-- Locations with the same path are the same. -/
lemma join_inj {path : String} {d d' : Location} (hd : ∀ name ∈ d, IsName name)
    (hd' : ∀ name ∈ d', IsName name) (e : join path d = join path d') : d = d' := by
  obtain ⟨base, pad, hpath, hpad, hjoin⟩ := names_join path
  -- the path itself ends in no name, or in an empty one
  have itself : ∀ d : Location, (∀ name ∈ d, IsName name) →
      join path [] = join path d → d = [] := by
    intro d isName e
    by_cases ne : d = []
    · exact ne
    · have same := hjoin d ne isName
      rw [← e, show join path [] = path from rfl, hpath, List.append_cancel_left_eq] at same
      subst same
      rcases hpad with rfl | rfl
      · rfl
      · exact absurd rfl (isName "" (List.mem_singleton_self _)).nonempty
  by_cases ne : d = []
  · subst ne
    exact (itself d' hd' e).symm
  · by_cases ne' : d' = []
    · subst ne'
      exact itself d hd e.symm
    · have same := hjoin d ne hd
      rw [e, hjoin d' ne' hd', List.append_cancel_left_eq] at same
      exact same.symm

/-- A path that was put together starts where its first part does. -/
lemma origin_join {path : String} (ne : path ≠ "") (d : Location) :
    origin (join path d) = origin path := by
  by_cases empty : d = []
  · subst empty
    rfl
  · have head : (join path d).toList.head? = path.toList.head? := by
      rw [toList_join empty, List.append_assoc]
      exact List.head?_append_of_ne_nil _ (by simpa using ne)
    unfold origin
    rw [head]

/-- The name of what a path that was put together leads to is the last one. -/
lemma fileName?_join {path : String} {d : Location} (ne : d ≠ [])
    (isName : ∀ name ∈ d, IsName name) :
    fileName? (join path d) = d.getLast? := by
  obtain ⟨base, -, -, -, hjoin⟩ := names_join path
  have kept : d.filter (fun name => name ≠ "" && name ≠ ".") = d := by
    rw [List.filter_eq_self]
    intro name mem
    simp [(isName name mem).nonempty, (isName name mem).here]
  have steps : steps (join path d) = base.filter (fun name => name ≠ "" && name ≠ ".") ++ d := by
    unfold steps
    rw [hjoin d ne isName, List.filter_append, kept]
  unfold fileName?
  rw [steps, List.getLast?_append_of_ne_nil _ ne]
  cases last : d.getLast? with
  | none => rfl
  | some name => exact if_neg (isName name (List.mem_of_getLast? last)).back

end Path

open InfoFlow.Path

namespace FileTree

/-- There is a directory at the location, whether it can be listed or not. -/
def HasDirectory (t : FileTree) (l : Location) : Prop :=
  ∃ entry, t.entry? l = some entry ∧ entry.isDirectory = true

/-- The entries of the tree are at different locations, each in a directory, and have names. Only
the names that lead out of the working directory may be others. -/
structure Proper (t : FileTree) : Prop where
  distinct : (t.entries.map Prod.fst).Nodup
  nested : ∀ e ∈ t.entries, t.HasDirectory e.1.dropLast
  named : ∀ e ∈ t.entries, ∀ name ∈ e.1, name = ".." ∨ name = "/" ∨ IsName name

/-- The directory at `d` from the location `l` of a path on cannot be listed: its own path is too
long, or the system refuses. -/
inductive Blocks (t : FileTree) (path : String) (l d : Location) : FileError → Prop where
  | nameTooLong :
    t.HasDirectory (l ++ d) →
    pathLimit < (join path d).utf8ByteSize →
    Blocks t path l d .nameTooLong
  | unlisted {e} :
    t.entry? (l ++ d) = some (.unlisted e) →
    (join path d).utf8ByteSize ≤ pathLimit →
    Blocks t path l d e

/-- The directories on the way from the location `l` of a path to `d` can be listed. -/
def Opens (t : FileTree) (path : String) (l d : Location) : Prop :=
  ∀ above rest, d = above ++ rest → rest ≠ [] → ∀ e, ¬ t.Blocks path l above e

/-- What a path stands for: what it leads to, or what has a name with the extension `json` and is
in the directory that it leads to or further below. What is in a directory that cannot be listed is
not found. -/
inductive StandsFor (t : FileTree) (path : String) : String → Entry → Prop where
  | file {entry} :
    t.lookup path = .ok entry →
    entry.isDirectory = false →
    StandsFor t path path entry
  | directory {entry} :
    t.lookup path = .ok entry →
    entry.isDirectory = true →
    isFacts path →
    StandsFor t path path entry
  | inside {l d entry} :
    t.locate path = .ok l →
    t.HasDirectory l →
    (l ++ d, entry) ∈ t.entries →
    d ≠ [] →
    (∀ name ∈ d, IsName name) →
    d.getLast?.bind extension? = some "json" →
    t.Opens path l d →
    StandsFor t path (join path d) entry

variable {t : FileTree} {path file : String} {l d : Location} {entry : Entry}

/-- What has a name in a directory is an entry of the tree. -/
lemma entry?_eq_some (proper : t.Proper) (ne : d ≠ []) (isName : ∀ name ∈ d, IsName name) :
    t.entry? (l ++ d) = some entry ↔ (l ++ d, entry) ∈ t.entries := by
  have ordinary : ¬ (l ++ d = ["/"] ∨ (l ++ d).all (· = "..")) := by
    obtain ⟨name, mem⟩ := List.exists_mem_of_ne_nil d ne
    have mem' : name ∈ l ++ d := List.mem_append_right l mem
    rintro (root | back)
    · rw [root, List.mem_singleton] at mem'
      subst mem'
      exact (isName _ mem).slash (by decide)
    · rw [List.all_eq_true] at back
      exact (isName name mem).back (by simpa using back name mem')
  unfold entry?
  simp only [if_neg ordinary, Option.map_eq_some_iff, find?_key proper.distinct]
  refine ⟨fun h => ?_, fun mem => ⟨_, ⟨mem, rfl⟩, rfl⟩⟩
  obtain ⟨e, ⟨mem, same⟩, rfl⟩ := h
  rw [← same]
  exact mem

/-- The names on the way to an entry are those of directories. -/
lemma Proper.above (proper : t.Proper)
    (isName : ∀ name ∈ d, IsName name) (mem : (l ++ d, entry) ∈ t.entries) {above rest}
    (split : d = above ++ rest) (ne : rest ≠ []) : t.HasDirectory (l ++ above) := by
  -- from the entry outwards: the directory around an entry is an entry itself, unless it is `l`
  induction rest using List.reverseRecOn generalizing d entry with
  | nil => exact absurd rfl ne
  | append_singleton rest name ih =>
    have around : t.HasDirectory (l ++ (above ++ rest)) := by
      have nested := proper.nested _ mem
      rw [split, ← List.append_assoc, ← List.append_assoc, List.dropLast_concat] at nested
      rwa [← List.append_assoc]
    by_cases last : rest = []
    · rwa [last, List.append_nil] at around
    · have isName' : ∀ name ∈ above ++ rest, IsName name := by
        intro name mem
        apply isName
        rw [split, ← List.append_assoc]
        exact List.mem_append_left _ mem
      obtain ⟨entry', found, -⟩ := around
      refine ih isName' ((entry?_eq_some proper ?_ isName').1 found) rfl last
      exact List.append_ne_nil_of_right_ne_nil _ last

/-- Names are followed one after the other. -/
lemma follow_append (l : Location) (names names' : List String) :
    t.follow l (names ++ names') = t.follow l names >>= fun l' => t.follow l' names' := by
  induction names generalizing l with
  | nil => rfl
  | cons name names ih =>
    simp only [List.cons_append, follow]
    split
    · rfl
    · split
      · rfl
      · split
        · exact ih l
        · split
          · exact ih _
          · split
            · rfl
            · exact ih _

/-- An empty name at the end leads nowhere else. -/
lemma follow_pad {start : Location} {base pad : List String} (hpad : pad = [] ∨ pad = [""])
    (followed : t.follow start (base ++ pad) = .ok l) : t.follow start base = .ok l := by
  rw [follow_append] at followed
  cases front : t.follow start base with
  | error e =>
    rw [front] at followed
    cases followed
  | ok l' =>
    rw [front] at followed
    rcases hpad with rfl | rfl
    · exact followed
    · change t.follow l' [""] = .ok l at followed
      unfold follow at followed
      split at followed
      · cases followed
      · split at followed
        · cases followed
        · exact followed

/-- Names lead into directories, as far as these are there. -/
lemma follow_names (isName : ∀ name ∈ d, IsName name)
    (above : ∀ front rest, d = front ++ rest → rest ≠ [] → t.HasDirectory (l ++ front)) :
    t.follow l d = .ok (l ++ d) := by
  induction d generalizing l with
  | nil =>
    rw [List.append_nil]
    rfl
  | cons name d ih =>
    have top : t.HasDirectory l := by
      have here := above [] (name :: d) rfl (List.cons_ne_nil _ _)
      rwa [List.append_nil] at here
    obtain ⟨entry, found, directory⟩ := top
    obtain ⟨isName, isNames⟩ := List.forall_mem_cons.1 isName
    unfold follow
    simp only [found, directory, Bool.not_true, Bool.false_eq_true, if_false]
    rw [if_neg (not_or.2 ⟨isName.nonempty, isName.here⟩), if_neg isName.back,
      if_neg (Nat.not_lt.2 isName.short), ih isNames, List.append_assoc, List.singleton_append]
    intro front rest split ne
    rw [List.append_assoc, List.singleton_append]
    exact above (name :: front) rest (by rw [split, List.cons_append]) ne

/-- Only paths that are neither empty nor too long lead anywhere. -/
lemma locate_eq_ok :
    t.locate path = .ok l ↔
      path ≠ "" ∧ path.utf8ByteSize ≤ pathLimit ∧ t.follow (origin path) (names path) = .ok l := by
  unfold locate
  split
  case isTrue empty => simp [empty]
  case isFalse ne =>
    split
    case isTrue long => simp [ne, Nat.not_le.2 long]
    case isFalse short => simp [ne, Nat.not_lt.1 short]

/-- A path leads to what is at the location that it leads to. -/
lemma lookup_eq_ok :
    t.lookup path = .ok entry ↔ ∃ l, t.locate path = .ok l ∧ t.entry? l = some entry := by
  unfold lookup
  cases t.locate path with
  | error e => exact ⟨nofun, nofun⟩
  | ok l =>
    cases found : t.entry? l with
    | none => simp [bind, Except.bind, found, throw, throwThe, MonadExceptOf.throw]
    | some entry' => simp [bind, Except.bind, found, pure, Except.pure]

/-- The path that is put together for what is in a directory leads there, unless it is too long. -/
lemma lookup_join (proper : t.Proper) (located : t.locate path = .ok l) (ne : d ≠ [])
    (isName : ∀ name ∈ d, IsName name) (mem : (l ++ d, entry) ∈ t.entries) :
    t.lookup (join path d) =
      if (join path d).utf8ByteSize ≤ pathLimit then .ok entry else .error .nameTooLong := by
  obtain ⟨nonempty, -, followed⟩ := locate_eq_ok.1 located
  obtain ⟨base, pad, hpath, hpad, hjoin⟩ := names_join path
  have based : t.follow (origin path) base = .ok l := follow_pad hpad (hpath ▸ followed)
  have reached : t.follow (origin (join path d)) (names (join path d)) = .ok (l ++ d) := by
    rw [origin_join nonempty, hjoin d ne isName, follow_append, based]
    exact follow_names isName fun front rest split ne => proper.above isName mem split ne
  have nonempty' : join path d ≠ "" := by
    intro empty
    have chars : (join path d).toList = _ := toList_join ne
    rw [empty] at chars
    have front := List.append_eq_nil_iff.1 (List.append_eq_nil_iff.1 chars.symm).1
    exact nonempty (String.toList_eq_nil_iff.1 front.1)
  split
  case isTrue short =>
    refine lookup_eq_ok.2 ⟨l ++ d, locate_eq_ok.2 ⟨nonempty', short, reached⟩, ?_⟩
    exact (entry?_eq_some proper ne isName).2 mem
  case isFalse long =>
    have refused : t.locate (join path d) = .error .nameTooLong := by
      unfold locate
      rw [if_neg nonempty', if_pos (Nat.not_le.1 long)]
    unfold lookup
    rw [refused]
    rfl

/-- What is further inside a location is reached from it by names. -/
lemma relative?_eq_some {around rest : Location} :
    Location.relative? around l = some rest ↔
      l = around ++ rest ∧ rest ≠ [] ∧ ∀ name ∈ rest, name ≠ ".." ∧ name ≠ "/" := by
  unfold Location.relative?
  simp only [Option.ite_none_right_eq_some, Option.some.injEq, Bool.and_eq_true, Bool.not_eq_true',
    List.isEmpty_eq_false_iff, List.isPrefixOf_iff_prefix, List.all_eq_true, decide_eq_true_eq]
  refine ⟨fun h => ?_, fun h => ?_⟩
  · obtain ⟨⟨⟨⟨more, rfl⟩, ne⟩, inside⟩, rfl⟩ := h
    rw [List.drop_left] at ne inside ⊢
    exact ⟨rfl, ne, inside⟩
  · obtain ⟨rfl, ne, inside⟩ := h
    rw [List.drop_left]
    exact ⟨⟨⟨List.prefix_append _ _, ne⟩, inside⟩, rfl⟩

/-- What is below a location, relative to it. -/
lemma mem_below (proper : t.Proper) :
    d ∈ t.below l ↔ d = [] ∨
      d ≠ [] ∧ (∀ name ∈ d, IsName name) ∧ ∃ entry, (l ++ d, entry) ∈ t.entries := by
  unfold below
  rw [List.mem_cons, List.mem_filterMap]
  refine or_congr_right ⟨fun h => ?_, fun h => ?_⟩
  · obtain ⟨e, mem, relative⟩ := h
    obtain ⟨location, ne, inside⟩ := relative?_eq_some.1 relative
    refine ⟨ne, fun name hname => ?_, e.2, location ▸ mem⟩
    rcases proper.named e mem name (location ▸ List.mem_append_right l hname) with back | root | ok
    · exact absurd back (inside name hname).1
    · exact absurd root (inside name hname).2
    · exact ok
  · obtain ⟨ne, isName, entry, mem⟩ := h
    refine ⟨_, mem, relative?_eq_some.2 ⟨rfl, ne, fun name hname => ⟨(isName name hname).back, ?_⟩⟩⟩
    rintro rfl
    exact (isName _ hname).slash (by decide)

/-- What is below a location is reached by names. -/
lemma isName_below (proper : t.Proper) (mem : d ∈ t.below l) : ∀ name ∈ d, IsName name := by
  rcases (mem_below proper).1 mem with rfl | ⟨-, isName, -⟩
  · exact List.forall_mem_nil _
  · exact isName

/-- The directories below a location are those that names lead to. -/
lemma HasDirectory.mem_below (directory : t.HasDirectory (l ++ d)) (proper : t.Proper)
    (isName : ∀ name ∈ d, IsName name) : d ∈ t.below l := by
  obtain ⟨entry, found, -⟩ := directory
  rw [FileTree.mem_below proper]
  by_cases ne : d = []
  · exact .inl ne
  · exact .inr ⟨ne, isName, entry, (entry?_eq_some proper ne isName).1 found⟩

/-- Where names lead to a directory, there is one to start from. -/
lemma HasDirectory.start (directory : t.HasDirectory (l ++ d)) (proper : t.Proper)
    (isName : ∀ name ∈ d, IsName name) : t.HasDirectory l := by
  by_cases ne : d = []
  · rwa [ne, List.append_nil] at directory
  · obtain ⟨entry, found, -⟩ := directory
    have above := proper.above isName ((entry?_eq_some proper ne isName).1 found)
      (List.nil_append d).symm ne
    rwa [List.append_nil] at above

/-- Nothing is below a location twice. -/
lemma nodup_below (proper : t.Proper) : (t.below l).Nodup := by
  have locations : (t.entries.filterMap fun e => Location.relative? l e.1) =
      (t.entries.map Prod.fst).filterMap (Location.relative? l) := by
    rw [List.filterMap_map]
    rfl
  unfold below
  rw [List.nodup_cons, locations]
  refine ⟨fun mem => ?_, proper.distinct.filterMap fun l1 l2 rest h1 h2 => ?_⟩
  · obtain ⟨l', -, relative⟩ := List.mem_filterMap.1 mem
    exact (relative?_eq_some.1 relative).2.1 rfl
  · rw [(relative?_eq_some.1 h1).1, (relative?_eq_some.1 h2).1]

/-- Only directories cannot be listed. -/
lemma Blocks.hasDirectory {e} (blocks : t.Blocks path l d e) : t.HasDirectory (l ++ d) := by
  cases blocks with
  | nameTooLong directory _ => exact directory
  | unlisted found _ => exact ⟨_, found, rfl⟩

/-- The program knows which directories cannot be listed, and why. -/
lemma blocked?_eq_some {e} : t.blocked? path l d = some e ↔ t.Blocks path l d e := by
  unfold blocked?
  cases found : t.entry? (l ++ d) with
  | none =>
    refine ⟨nofun, fun h => ?_⟩
    obtain ⟨entry, found', -⟩ := h.hasDirectory
    rw [found] at found'
    cases found'
  | some entry =>
    simp only
    refine ⟨fun h => ?_, fun h => ?_⟩
    · split at h
      case isTrue => cases h
      case isFalse directory =>
        have directory : entry.isDirectory = true := by simpa using directory
        split at h
        case isTrue long =>
          cases h
          exact .nameTooLong ⟨entry, found, directory⟩ long
        case isFalse short =>
          cases entry with
          | unlisted e' =>
            cases h
            exact .unlisted found (Nat.not_lt.1 short)
          | file content => cases h
          | directory => cases h
          | unreadable e' => cases h
    · cases h with
      | nameTooLong directory long =>
        obtain ⟨entry', found', isDirectory⟩ := directory
        rw [found] at found'
        cases found'
        rw [isDirectory, if_neg (by decide), if_pos long]
      | unlisted found' short =>
        rw [found] at found'
        cases found'
        simp [Entry.isDirectory, Nat.not_lt.2 short]

/-- What shows up in a walk is what all directories on the way are open to. -/
lemma isListed_iff : t.isListed path l d = true ↔ t.Opens path l d := by
  have open_iff : ∀ {above}, (t.blocked? path l above).isNone = true ↔
      ∀ e, ¬ t.Blocks path l above e := by
    intro above
    rw [Option.isNone_iff_eq_none, Option.eq_none_iff_forall_ne_some]
    exact forall_congr' fun e => not_congr blocked?_eq_some
  unfold isListed Opens
  simp only [List.all_eq_true, List.mem_range, open_iff]
  constructor
  · -- the program goes through the beginnings of `d` by their lengths
    intro listed above rest split ne
    have lt : above.length < d.length := by
      rw [split, List.length_append]
      exact Nat.lt_add_of_pos_right (List.length_pos_iff.2 ne)
    have opens := listed above.length lt
    rwa [split, List.take_left] at opens
  · intro opens count lt
    refine opens _ _ (List.take_append_drop count d).symm ?_
    rw [ne_eq, List.drop_eq_nil_iff]
    exact Nat.not_le.2 lt

/-- What shows up in a walk from a path, the errors apart. -/
lemma filterMap_walk (located : t.locate path = .ok l) (present : t.entry? l = some entry) :
    (t.walk path).filterMap Except.toOption = (t.below l).filter (t.isListed path l) := by
  unfold walk
  simp only [located, present, List.filterMap_flatMap]
  have one : ∀ d, (Except.ok d :: (t.blocked? path l d).toList.map Except.error).filterMap
      Except.toOption = [d] := by
    intro d
    cases t.blocked? path l d with
    | none => rfl
    | some e => rfl
  simp only [one, List.flatMap_singleton']

/-- A walk from a path that leads nowhere comes to an error alone. -/
lemma walk_eq_error {e} (missing : t.lookup path = .error e) : t.walk path = [.error e] := by
  unfold lookup at missing
  unfold walk
  cases located : t.locate path with
  | error e' =>
    rw [located] at missing
    cases missing
    rfl
  | ok l =>
    rw [located] at missing
    simp only [bind, Except.bind] at missing
    cases present : t.entry? l with
    | none =>
      rw [present] at missing
      cases missing
      simp only [present]
    | some entry =>
      rw [present] at missing
      cases missing

/-- A walk is refused where the path leads nowhere, and at every directory that it comes to and that
cannot be listed. -/
lemma error_mem_walk (proper : t.Proper) {e} :
    .error e ∈ t.walk path ↔ t.lookup path = .error e ∨
      ∃ l d, t.locate path = .ok l ∧ (∀ name ∈ d, IsName name) ∧ t.Opens path l d ∧
        t.Blocks path l d e := by
  cases found : t.lookup path with
  | error e' =>
    rw [walk_eq_error found, List.mem_singleton, Except.error.injEq, Except.error.injEq]
    refine ⟨fun same => .inl same.symm, fun h => ?_⟩
    rcases h with same | ⟨l, d, located, isName, -, blocks⟩
    · exact same.symm
    · -- a path to a directory further below would lead somewhere itself
      obtain ⟨entry, present, -⟩ := blocks.hasDirectory.start proper isName
      rw [lookup_eq_ok.2 ⟨l, located, present⟩] at found
      cases found
  | ok entry =>
    obtain ⟨l, located, present⟩ := lookup_eq_ok.1 found
    unfold walk
    simp only [located, present, List.mem_flatMap, List.mem_filter, List.mem_cons, reduceCtorEq,
      List.mem_map, Option.mem_toList, Except.error.injEq, exists_eq_right, false_or,
      Except.ok.injEq, exists_and_left, exists_eq_left', blocked?_eq_some, isListed_iff,
      and_assoc]
    refine exists_congr fun d => and_congr_left fun h => ?_
    exact ⟨isName_below proper, h.2.hasDirectory.mem_below proper⟩

/-- A path leads to a file if what it leads to is no directory, be it readable or not. -/
lemma isFile_iff :
    t.isFile path = true ↔ ∃ entry, t.lookup path = .ok entry ∧ entry.isDirectory = false := by
  unfold isFile
  cases t.lookup path with
  | error e => simp
  | ok entry => simp

/-- A path that leads nowhere stands for nothing. -/
lemma factFiles_eq_nil {e} (missing : t.lookup path = .error e) : t.factFiles path = [] := by
  have noFile : t.isFile path = false := by
    unfold isFile
    rw [missing]
  unfold factFiles
  rw [noFile, walk_eq_error missing]
  simp [Except.toOption]

/-- What is found for a path that leads to no file. -/
lemma mem_walked (noFile : t.isFile path ≠ true) :
    file ∈ t.factFiles path ↔ isFacts file = true ∧
      ∃ l, t.locate path = .ok l ∧ t.HasDirectory l ∧
        ∃ d ∈ t.below l, t.isListed path l d ∧ join path d = file := by
  cases found : t.lookup path with
  | error e =>
    rw [factFiles_eq_nil found]
    refine ⟨nofun, fun h => ?_⟩
    obtain ⟨-, l, located, ⟨entry, present, -⟩, -⟩ := h
    rw [lookup_eq_ok.2 ⟨l, located, present⟩] at found
    cases found
  | ok entry =>
    obtain ⟨l, located, present⟩ := lookup_eq_ok.1 found
    have directory : entry.isDirectory = true := by
      cases h : entry.isDirectory with
      | true => rfl
      | false => exact absurd (isFile_iff.2 ⟨entry, found, h⟩) noFile
    unfold factFiles
    rw [if_neg noFile, filterMap_walk located present]
    simp only [List.mem_filter, List.mem_map, List.mem_mergeSort, located, Except.ok.injEq,
      HasDirectory]
    constructor
    · rintro ⟨⟨d, ⟨mem, listed⟩, rfl⟩, facts⟩
      exact ⟨facts, l, rfl, ⟨entry, present, directory⟩, d, mem, listed, rfl⟩
    · rintro ⟨facts, _, rfl, -, d, mem, listed, rfl⟩
      exact ⟨⟨d, ⟨mem, listed⟩, rfl⟩, facts⟩

/-- The program finds exactly what a path stands for. -/
lemma mem_factFiles (proper : t.Proper) :
    file ∈ t.factFiles path ↔ ∃ entry, t.StandsFor path file entry := by
  by_cases isFile : t.isFile path = true
  · obtain ⟨entry, found, plain⟩ := isFile_iff.1 isFile
    unfold factFiles
    rw [if_pos isFile, List.mem_singleton]
    refine ⟨fun e => ?_, fun h => ?_⟩
    · subst e
      exact ⟨_, .file found plain⟩
    · obtain ⟨entry', stands⟩ := h
      cases stands with
      | file => rfl
      | directory => rfl
      | inside located directory =>
        obtain ⟨top, present, isDirectory⟩ := directory
        rw [lookup_eq_ok.2 ⟨_, located, present⟩] at found
        cases found
        rw [plain] at isDirectory
        cases isDirectory
  · rw [mem_walked isFile]
    refine ⟨fun h => ?_, fun h => ?_⟩
    · obtain ⟨facts, l, located, directory, d, mem, listed, rfl⟩ := h
      rcases (mem_below proper).1 mem with rfl | ⟨ne, isName, entry, mem⟩
      · obtain ⟨entry, present, isDirectory⟩ := directory
        exact ⟨_, .directory (lookup_eq_ok.2 ⟨l, located, present⟩) isDirectory facts⟩
      · rw [isFacts, decide_eq_true_eq, fileName?_join ne isName] at facts
        have opens := isListed_iff.1 listed
        exact ⟨entry, .inside located directory mem ne isName facts opens⟩
    · obtain ⟨entry, stands⟩ := h
      cases stands with
      | file found plain => exact absurd (isFile_iff.2 ⟨_, found, plain⟩) isFile
      | directory found isDirectory facts =>
        obtain ⟨l, located, present⟩ := lookup_eq_ok.1 found
        exact ⟨facts, l, located, ⟨entry, present, isDirectory⟩, [], List.mem_cons_self .., rfl,
          rfl⟩
      | @inside l d entry located directory mem ne isName facts opens =>
        refine ⟨?_, l, located, directory, d, (mem_below proper).2 (.inr ⟨ne, isName, entry, mem⟩),
          isListed_iff.2 opens, rfl⟩
        rw [isFacts, decide_eq_true_eq, fileName?_join ne isName]
        exact facts

/-- No facts file is found twice. -/
lemma nodup_factFiles (proper : t.Proper) : (t.factFiles path).Nodup := by
  cases found : t.lookup path with
  | error e =>
    rw [factFiles_eq_nil found]
    exact List.nodup_nil
  | ok entry =>
    obtain ⟨l, located, present⟩ := lookup_eq_ok.1 found
    unfold factFiles
    split
    case isTrue => exact List.nodup_singleton _
    case isFalse =>
      rw [filterMap_walk located present]
      refine (List.Nodup.map_on (fun d hd d' hd' same => ?_) ?_).filter _
      · rw [List.mem_mergeSort, List.mem_filter] at hd hd'
        exact join_inj (isName_below proper hd.1) (isName_below proper hd'.1) same
      · rw [(List.mergeSort_perm _ _).nodup_iff]
        exact (nodup_below proper).filter _

/-- What a path stands for is found by its own path, unless that is too long. -/
lemma StandsFor.lookup (proper : t.Proper) (stands : t.StandsFor path file entry) :
    t.lookup file = if file.utf8ByteSize ≤ pathLimit then .ok entry else .error .nameTooLong := by
  have short : ∀ {entry}, t.lookup path = .ok entry → path.utf8ByteSize ≤ pathLimit := by
    intro entry found
    obtain ⟨l, located, -⟩ := lookup_eq_ok.1 found
    exact (locate_eq_ok.1 located).2.1
  cases stands with
  | file found => rw [if_pos (short found), found]
  | directory found => rw [if_pos (short found), found]
  | inside located _ mem ne isName => exact lookup_join proper located ne isName mem

/-- A directory that cannot be listed stands for nothing, unless it is called like a facts file. -/
lemma factFiles_unlisted (proper : t.Proper) {e} (unlisted : t.lookup path = .ok (.unlisted e))
    (other : isFacts path = false) : t.factFiles path = [] := by
  apply List.eq_nil_iff_forall_not_mem.2
  intro file mem
  obtain ⟨entry, stands⟩ := (mem_factFiles proper).1 mem
  cases stands with
  | file found plain =>
    rw [unlisted] at found
    cases found
    cases plain
  | directory _ _ facts =>
    rw [other] at facts
    cases facts
  | @inside l d _ located _ _ ne _ _ opens =>
    obtain ⟨l', located', present⟩ := lookup_eq_ok.1 unlisted
    rw [located] at located'
    cases located'
    refine opens [] d rfl ne e (.unlisted ?_ (locate_eq_ok.1 located).2.1)
    rwa [List.append_nil]

/-- Nothing that is further below than a directory that cannot be listed is found. -/
lemma blocks_not_mem (proper : t.Proper) {above rest : Location} {e}
    (located : t.locate path = .ok l) (blocks : t.Blocks path l above e) (ne : rest ≠ [])
    (isName : ∀ name ∈ above ++ rest, IsName name) :
    join path (above ++ rest) ∉ t.factFiles path := by
  intro mem
  by_cases isFile : t.isFile path = true
  · -- the path itself is the only file that it stands for
    unfold factFiles at mem
    rw [if_pos isFile, List.mem_singleton] at mem
    have nil : above ++ rest = [] := join_inj isName (List.forall_mem_nil _) mem
    exact ne (List.append_eq_nil_iff.1 nil).2
  · obtain ⟨-, l', located', -, d, below, listed, same⟩ := (mem_walked isFile).1 mem
    rw [located] at located'
    cases located'
    have same : d = above ++ rest := join_inj (isName_below proper below) isName same
    exact isListed_iff.1 listed above rest same ne e blocks

end FileTree

end InfoFlow

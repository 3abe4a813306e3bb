import Nearest.Disk
import Nearest.Proofs.Fields

/-!
# Files beside each other

What is read at one path stays when a file is written at another place (`Disk.read_of_write_other`),
and two names in a directory are two places (`Disk.exists_of_locate_inside`).

* `Disk.KeepsDirectories`: where all directories are still there, every way is (`locate`).
* `Disk.SameDirectories`: changing a file leaves the directories as they are
  (`SameDirectories.of_perform`), so that a path which is `Disk.Writable` stays so.
* `Disk.performAll_of_foldlM` and `Disk.foldlM_of_performAll`: the changes that a machine with a
  disk makes one after the other are a fold over the disk.
* `Disk.isDirectory_of_makeDirs` and `Disk.makeDirs_of_isDirectory`: where directories have been
  made there is one, and where there is one nothing is made.
-/

namespace Nearest

/-! ## Paths -/

namespace Path

/-- A name that stands for a place of its own in every directory. -/
structure IsName (name : String) : Prop where
  slash : '/' ∉ name.toList
  nul : '\x00' ∉ name.toList
  empty : name ≠ ""
  here : name ≠ "."
  above : name ≠ ".."

theorem inside_eq_append (dir name : String) : inside dir name = inside dir "" ++ name := by
  unfold inside
  split <;> rw [String.append_empty]

/-- A name in a directory comes after the names of the directory. -/
theorem exists_names_inside (dir : String) :
    ∃ way, ∀ {name : String}, IsName name → names (inside dir name) = way ++ [name] := by
  have hparts : ∃ parts, ∀ {name : String}, IsName name →
      (inside dir name).toList.splitOn '/' = parts ++ [name.toList] := by
    unfold inside
    split
    · rename_i hdir
      rw [Bool.or_eq_true, decide_eq_true_eq, endsWithSlash, decide_eq_true_eq] at hdir
      rcases hdir with rfl | hdir
      · refine ⟨[], fun hname => ?_⟩
        rw [String.empty_append, List.splitOn_eq_singleton hname.slash, List.nil_append]
      · obtain ⟨init, hinit⟩ := List.getLast?_eq_some_iff.1 hdir
        refine ⟨init.splitOn '/', fun hname => ?_⟩
        rw [String.toList_append, hinit, List.append_assoc, List.singleton_append,
          List.splitOn_append_cons_self, List.splitOn_eq_singleton hname.slash]
    · refine ⟨dir.toList.splitOn '/', fun hname => ?_⟩
      rw [String.toList_append, String.toList_append, List.append_assoc]
      refine (List.splitOn_append_cons_self _ _).trans ?_
      exact congrArg _ (List.splitOn_eq_singleton hname.slash)
  obtain ⟨parts, hparts⟩ := hparts
  refine ⟨(parts.filter (· ≠ [])).map String.ofList, fun {name} hname => ?_⟩
  rw [names, hparts hname, List.filter_append, List.map_append]
  simp [hname.empty]

theorem isAbsolute_inside (dir : String) {name : String} (hname : IsName name) :
    isAbsolute (inside dir name) = isAbsolute (inside dir "") := by
  have hrelative : name.toList.head? ≠ some '/' := fun h => hname.slash (List.mem_of_head? h)
  rw [inside_eq_append, isAbsolute, isAbsolute, String.toList_append, List.head?_append]
  cases (inside dir "").toList.head? <;> simp [hrelative]

end Path

namespace Disk

variable {d d' : Disk}

theorem follow_eq_ok_iff {name : String} (hname : Path.IsName name) {dir l : Location} :
    follow dir name = .ok l ↔ name.utf8ByteSize ≤ nameLimit ∧ l = dir ++ [name] := by
  rw [follow, if_neg hname.here, if_neg hname.above]
  split
  · simp
    omega
  · rw [Except.ok.injEq, eq_comm (a := l)]
    constructor
    · exact fun h => ⟨by omega, h⟩
    · exact fun h => h.2

/-- A name in a directory leads to its place there, and every name that is not longer to a place
beside it. -/
theorem exists_of_locate_inside {dir name : String} (hname : Path.IsName name) {l : Location}
    (h : d.locate (Path.inside dir name) = .ok l) :
    ∃ e, l = e ++ [name] ∧ ∀ {other : String}, Path.IsName other →
      other.utf8ByteSize ≤ name.utf8ByteSize →
      d.locate (Path.inside dir other) = .ok (e ++ [other]) := by
  obtain ⟨way, hway⟩ := Path.exists_names_inside dir
  have hreverse {other : String} (hother : Path.IsName other) :
      (Path.names (Path.inside dir other)).reverse = other :: way.reverse := by
    rw [hway hother, List.reverse_append]
    rfl
  have hstart {other : String} (hother : Path.IsName other) :
      d.start (Path.inside dir other) = d.start (Path.inside dir "") := by
    rw [start, start, Path.isAbsolute_inside dir hother]
  unfold locate at h
  split at h
  · cases h
  rename_i hnul
  split at h
  · cases h
  rename_i hlimit
  split at h
  · cases h
  rw [hreverse hname, hstart hname] at h
  obtain ⟨e, he, hl⟩ := exists_of_bind_ok h
  obtain ⟨hsize, rfl⟩ := (follow_eq_ok_iff hname).1 hl
  refine ⟨e, rfl, fun {other} hother hle => ?_⟩
  have hnul' : ¬(Path.inside dir other).toList.contains '\x00' = true := by
    rw [Path.inside_eq_append, String.toList_append, List.contains_eq_mem, decide_eq_true_eq,
      List.mem_append, not_or] at hnul ⊢
    exact ⟨hnul.1, hother.nul⟩
  have hlimit' : ¬pathLimit < (Path.inside dir other).utf8ByteSize := by
    rw [Path.inside_eq_append, String.utf8ByteSize_append] at hlimit ⊢
    omega
  have hempty : Path.inside dir other ≠ "" := by
    rw [Path.inside_eq_append, ne_eq, String.append_eq_empty_iff, not_and]
    exact fun _ => hother.empty
  rw [locate, if_neg hnul', if_neg hlimit', if_neg hempty, hreverse hother, hstart hother]
  simp only [he, bind, Except.bind]
  exact (follow_eq_ok_iff hother).2 ⟨Nat.le_trans hle hsize, rfl⟩

/-! ## Reading and writing -/

/-- Reading a file is finding it at the place that the path leads to. -/
theorem read_eq_ok {path : String} {c : Bytes} :
    d.read path = .ok c ↔ ∃ l, d.locate path = .ok l ∧ d.node? l = some (.file c) ∧
      Path.endsWithSlash path = false := by
  constructor
  · intro h
    obtain ⟨node, hnode, h⟩ := exists_of_bind_ok h
    obtain ⟨l, hl, hnode⟩ := exists_of_bind_ok hnode
    refine ⟨l, hl, ?_⟩
    cases hn : d.node? l with
    | none =>
      rw [hn] at hnode
      cases hnode
      cases h
    | some n =>
      rw [hn] at hnode
      cases n with
      | directory =>
        cases hnode
        cases h
      | file content =>
        simp only at hnode
        split at hnode
        · cases hnode
        · rename_i hslash
          cases hnode
          cases h
          exact ⟨rfl, Bool.eq_false_iff.2 hslash⟩
  · rintro ⟨l, hl, hn, hslash⟩
    simp [read, lookUp, hl, hn, hslash, bind, Except.bind, pure, Except.pure]

/-- Writing a file leaves what is read at another place. -/
theorem read_of_write_other {path other : String} {c c' : Bytes} (h : d.write path c = .ok d')
    (hread : d.read other = .ok c')
    (hne : ∀ l q, d.locate path = .ok l → d.locate other = .ok q → q ≠ l) :
    d'.read other = .ok c' := by
  obtain ⟨q, hq, hnode, hslash⟩ := read_eq_ok.1 hread
  unfold write at h
  obtain ⟨l, hl, h⟩ := exists_of_bind_ok h
  split at h
  · cases h
  · rename_i hfree
    cases h
    rw [Bool.or_eq_true, decide_eq_true_eq, not_or] at hfree
    refine read_eq_ok.2 ⟨q, locate_put hfree.1 hq, ?_, hslash⟩
    rw [node?_put_of_ne (hne l q hl hq), hnode]

/-! ## Changes that succeed -/

/-- The second disk has every directory of the first, so that every way is still there. -/
structure KeepsDirectories (d d' : Disk) : Prop where
  home : d'.home = d.home
  node? : ∀ q, d.node? q = some .directory → d'.node? q = some .directory

namespace KeepsDirectories

theorem enter (h : d.KeepsDirectories d') {dir e : Location} {name : String}
    (he : d.enter dir name = .ok e) : d'.enter dir name = .ok e := by
  unfold Disk.enter at he ⊢
  obtain ⟨l, hl, he⟩ := exists_of_bind_ok he
  split at he
  · rename_i hnode
    cases he
    simp only [hl, bind, Except.bind, h.node? _ hnode]
  · cases he
  · cases he

theorem foldlM_enter (h : d.KeepsDirectories d') {way : List String} {dir e : Location}
    (he : way.foldlM d.enter dir = .ok e) : way.foldlM d'.enter dir = .ok e := by
  induction way generalizing dir with
  | nil => exact he
  | cons name way ih =>
    rw [List.foldlM_cons] at he ⊢
    obtain ⟨l, hl, he⟩ := exists_of_bind_ok he
    rw [h.enter hl]
    exact ih he

theorem locate (h : d.KeepsDirectories d') {path : String} {l : Location}
    (hl : d.locate path = .ok l) : d'.locate path = .ok l := by
  have hstart : d'.start path = d.start path := by rw [start, start, h.home]
  unfold Disk.locate at hl ⊢
  rw [hstart]
  split at hl
  · cases hl
  split at hl
  · cases hl
  split at hl
  · cases hl
  rw [if_neg ‹_›, if_neg ‹_›, if_neg ‹_›]
  split at hl
  · exact hl
  · obtain ⟨e, he, hl⟩ := exists_of_bind_ok hl
    rw [h.foldlM_enter he]
    exact hl

/-- Making a directory where there is nothing takes none away. -/
theorem put {l : Location} (hl : d.node? l = none) :
    d.KeepsDirectories (d.put l .directory) := by
  refine ⟨rfl, fun q hq => ?_⟩
  have hne : q ≠ l := by
    rintro rfl
    rw [hl] at hq
    cases hq
  rwa [node?_put_of_ne hne]

end KeepsDirectories

/-- Two disks have the same directories, so that all ways are the same. -/
structure SameDirectories (d d' : Disk) : Prop where
  home : d'.home = d.home
  node? : ∀ q, d'.node? q = some .directory ↔ d.node? q = some .directory

namespace SameDirectories

theorem refl (d : Disk) : d.SameDirectories d :=
  ⟨rfl, fun _ => Iff.rfl⟩

theorem trans {d'' : Disk} (h : d.SameDirectories d') (h' : d'.SameDirectories d'') :
    d.SameDirectories d'' :=
  ⟨h'.home.trans h.home, fun q => (h'.node? q).trans (h.node? q)⟩

theorem keeps (h : d.SameDirectories d') : d.KeepsDirectories d' :=
  ⟨h.home, fun q => (h.node? q).2⟩

theorem put {l : Location} (hl : d.node? l ≠ some .directory) (c : Bytes) :
    d.SameDirectories (d.put l (.file c)) := by
  refine ⟨rfl, fun q => ?_⟩
  by_cases hq : q = l
  · subst hq
    rw [node?_put_self hl]
    simp [hl]
  · rw [node?_put_of_ne hq]

theorem take {l : Location} (hl : d.node? l ≠ some .directory) : d.SameDirectories (d.take l) := by
  refine ⟨rfl, fun q => ?_⟩
  by_cases hq : q = l
  · subst hq
    have hbelow : ¬q.isPrefixOf d.home = true := fun hp => hl (if_pos hp)
    rw [Disk.node?, Disk.take, if_neg hbelow, Std.HashMap.getElem?_erase_self]
    simp [hl]
  · have hsame : (d.take l).node? q = d.node? q := by
      simp only [Disk.node?, Disk.take, Std.HashMap.getElem?_erase, beq_iff_eq, Ne.symm hq,
        if_false]
    rw [hsame]

theorem of_write {path : String} {c : Bytes} (h : d.write path c = .ok d') :
    d.SameDirectories d' := by
  obtain ⟨l, -, h⟩ := exists_of_bind_ok h
  split at h
  · cases h
  · rename_i hfree
    cases h
    rw [Bool.or_eq_true, decide_eq_true_eq, not_or] at hfree
    exact .put hfree.1 c

/-- A change to files leaves the directories. -/
theorem of_perform {step : FileStep} (h : d.perform step = .ok d') : d.SameDirectories d' := by
  cases step with
  | create path => exact of_write h
  | write path content => exact of_write h
  | replace path content => exact of_write h
  | sync path =>
    rw [perform] at h
    cases hread : d.read path with
    | error e =>
      rw [hread] at h
      cases h
    | ok content =>
      rw [hread] at h
      cases h
      exact .refl d
  | rename source target =>
    obtain ⟨content, hread, h⟩ := exists_of_bind_ok h
    obtain ⟨l, hl, h⟩ := exists_of_bind_ok h
    obtain ⟨l', hl', hn, -⟩ := read_eq_ok.1 hread
    obtain rfl : l = l' := Except.ok.inj (hl.symm.trans hl')
    have htake : d.SameDirectories (d.take l) := .take (by rw [hn]; simp)
    exact htake.trans (of_write h)

theorem of_foldlM {steps : List FileStep} (h : steps.foldlM perform d = .ok d') :
    d.SameDirectories d' := by
  induction steps generalizing d with
  | nil =>
    cases h
    exact .refl _
  | cons step steps ih =>
    rw [List.foldlM_cons] at h
    obtain ⟨next, hstep, h⟩ := exists_of_bind_ok h
    exact (of_perform hstep).trans (ih h)

end SameDirectories

/-- A file can be written where the way is there and no directory. -/
structure Writable (d : Disk) (path : String) : Prop where
  place : ∃ l, d.locate path = .ok l ∧ d.node? l ≠ some .directory
  slash : Path.endsWithSlash path = false

theorem writable_empty {path name : String} (hl : Disk.locate {} path = .ok [name])
    (hslash : Path.endsWithSlash path = false) : Writable {} path :=
  ⟨⟨_, hl, by simp [Disk.node?]⟩, hslash⟩

theorem Writable.same {path : String} (h : d.Writable path) (hs : d.SameDirectories d') :
    d'.Writable path := by
  obtain ⟨l, hl, hn⟩ := h.place
  exact ⟨⟨l, hs.keeps.locate hl, fun he => hn ((hs.node? l).1 he)⟩, h.slash⟩

theorem Writable.write {path : String} (h : d.Writable path) (c : Bytes) :
    ∃ d', d.write path c = .ok d' ∧ d.SameDirectories d' := by
  obtain ⟨l, hl, hn⟩ := h.place
  refine ⟨d.put l (.file c), ?_, .put hn c⟩
  simp [Disk.write, hl, hn, h.slash, bind, Except.bind]

theorem Writable.rename {source target : String} (h : d.Writable target) {c : Bytes}
    (hread : d.read source = .ok c) :
    ∃ d', d.rename source target = .ok d' ∧ d.SameDirectories d' := by
  obtain ⟨l, hl, hn, -⟩ := read_eq_ok.1 hread
  have htake : d.SameDirectories (d.take l) := .take (by rw [hn]; simp)
  obtain ⟨d', hwrite, hsame⟩ := (h.same htake).write c
  refine ⟨d', ?_, htake.trans hsame⟩
  simp [Disk.rename, hread, hl, hwrite, bind, Except.bind]

/-! ## The machine -/

theorem bind_apply {σ α β : Type} (x : StateM σ α) (f : α → StateM σ β) (s : σ) :
    (x >>= f) s = f (x s).1 (x s).2 :=
  rfl

theorem pure_apply {σ α : Type} (a : α) (s : σ) : (pure a : StateM σ α) s = (a, s) :=
  rfl

/-- A machine with a disk has been given the time. -/
theorem now_host (now : Nat) (random : StdGen) : (host now random).now = pure now :=
  rfl

theorem performAll_of_foldlM (now : Nat) (random : StdGen) {steps : List FileStep}
    (h : steps.foldlM perform d = .ok d') :
    (host now random).performAll steps d = (.ok (), d') := by
  induction steps generalizing d with
  | nil =>
    cases h
    rfl
  | cons step steps ih =>
    rw [List.foldlM_cons] at h
    obtain ⟨next, hstep, h⟩ := exists_of_bind_ok h
    have hrest := ih h
    simp only [Host.performAll, bind_apply, host, attempt, hstep]
    exact hrest

theorem foldlM_of_performAll {now : Nat} {random : StdGen} {steps : List FileStep}
    (h : (host now random).performAll steps d = (.ok (), d')) :
    steps.foldlM perform d = .ok d' := by
  induction steps generalizing d with
  | nil =>
    cases h
    rfl
  | cons step steps ih =>
    rw [List.foldlM_cons]
    simp only [Host.performAll, bind_apply, host, attempt] at h
    cases hstep : d.perform step with
    | error e =>
      rw [hstep] at h
      cases h
    | ok next =>
      rw [hstep] at h
      exact ih h

/-! ## Directories -/

theorem isDirectory_iff {path : String} : d.isDirectory path = true ↔
    ∃ l, d.locate path = .ok l ∧ d.node? l = some .directory := by
  rw [isDirectory, lookUp]
  cases hl : d.locate path with
  | error e => simp [bind, Except.bind]
  | ok l =>
    rcases hn : d.node? l with _ | _ | _
    · simp [bind, Except.bind, pure, Except.pure, hn]
    · cases hslash : Path.endsWithSlash path <;> simp [bind, Except.bind, pure, Except.pure, hn]
    · simp [bind, Except.bind, pure, Except.pure, hn]

theorem write_of_isDirectory {path : String} (h : d.isDirectory path = true) (c : Bytes) :
    d.write path c = .error .isDirectory := by
  obtain ⟨l, hl, hn⟩ := isDirectory_iff.1 h
  simp [write, hl, hn, bind, Except.bind]

theorem KeepsDirectories.isDirectory {path : String} (h : d.KeepsDirectories d')
    (hpath : d.isDirectory path = true) : d'.isDirectory path = true := by
  obtain ⟨l, hl, hn⟩ := isDirectory_iff.1 hpath
  exact isDirectory_iff.2 ⟨l, h.locate hl, h.node? l hn⟩

theorem isDirectory_of_makeDir {path : String} (h : d.makeDir path = .ok d') :
    d'.isDirectory path = true := by
  obtain ⟨l, hl, h⟩ := exists_of_bind_ok h
  split at h
  · cases h
  · rename_i hfree
    cases h
    have hn : d.node? l = none := by simpa using hfree
    have hdirectory : d.node? l ≠ some .directory := by simp [hn]
    exact isDirectory_iff.2
      ⟨l, (KeepsDirectories.put hn).locate hl, node?_put_self hdirectory⟩

theorem makeDir_of_isDirectory {path : String} (h : d.isDirectory path = true) :
    d.makeDir path = .error .exists := by
  obtain ⟨l, hl, hn⟩ := isDirectory_iff.1 h
  simp [makeDir, hl, hn, bind, Except.bind]

variable {now : Nat} {random : StdGen}

theorem ensureDir_of_isDirectory {path : String} (h : d.isDirectory path = true) :
    (host now random).ensureDir path d = (.ok (), d) := by
  simp only [Host.ensureDir, bind_apply, host, attempt, makeDir_of_isDirectory h, h]
  rfl

theorem isDirectory_of_ensureDir {path : String}
    (h : (host now random).ensureDir path d = (.ok (), d')) : d'.isDirectory path = true := by
  cases hmake : d.makeDir path with
  | ok d₁ =>
    simp only [Host.ensureDir, bind_apply, host, attempt, hmake] at h
    cases h
    exact isDirectory_of_makeDir hmake
  | error e =>
    simp only [Host.ensureDir, bind_apply, host, attempt, hmake] at h
    cases e with
    | «exists» =>
      change (if d.isDirectory path = true then Except.ok () else .error FileFault.exists, d) =
        (Except.ok (), d') at h
      split at h <;> cases h
      assumption
    | _ => cases h

theorem isDirectory_of_ensureDirs {paths : List String} {path : String}
    (h : (host now random).ensureDirs (paths ++ [path]) d = (.ok (), d')) :
    d'.isDirectory path = true := by
  induction paths generalizing d with
  | nil =>
    rw [List.nil_append, Host.ensureDirs, bind_apply] at h
    rcases hfirst : (host now random).ensureDir path d with ⟨_ | _, d₁⟩ <;>
      rw [hfirst] at h <;> cases h
    exact isDirectory_of_ensureDir hfirst
  | cons first paths ih =>
    rw [List.cons_append, Host.ensureDirs, bind_apply] at h
    rcases hfirst : (host now random).ensureDir first d with ⟨_ | _, d₁⟩ <;> rw [hfirst] at h
    · cases h
    · exact ih h

/-- The directories that are still missing end with those that were missing before. -/
theorem exists_of_makeLowest {missing above left : List String}
    (h : (host now random).makeLowest missing above d = (.ok left, d')) :
    ∃ paths, left = paths ++ missing := by
  induction above generalizing missing d with
  | nil =>
    cases h
    exact ⟨[], rfl⟩
  | cons path above ih =>
    rw [Host.makeLowest, bind_apply] at h
    rcases hfirst : (host now random).ensureDir path d with ⟨e | _, d₁⟩ <;> rw [hfirst] at h
    · cases e with
      | notFound =>
        obtain ⟨paths, rfl⟩ := ih h
        exact ⟨paths ++ [path], by simp⟩
      | _ => cases h
    · cases h
      exact ⟨[], rfl⟩

/-- Directories that have been made are there. -/
theorem isDirectory_of_makeDirs {path : String}
    (h : (host now random).makeDirs path d = (.ok (), d')) :
    path = "" ∨ d'.isDirectory path = true := by
  by_cases hpath : path = ""
  · exact .inl hpath
  refine .inr ?_
  rw [Host.makeDirs, if_neg hpath, bind_apply] at h
  rcases hfirst : (host now random).ensureDir path d with ⟨e | _, d₁⟩ <;> rw [hfirst] at h
  · cases e with
    | notFound =>
      simp only [bind_apply] at h
      rcases hlowest : (host now random).makeLowest [path] (Path.above path) d₁ with
        ⟨_ | missing, d₂⟩ <;> rw [hlowest] at h
      · cases h
      · obtain ⟨paths, rfl⟩ := exists_of_makeLowest hlowest
        exact isDirectory_of_ensureDirs h
    | _ => cases h
  · cases h
    exact isDirectory_of_ensureDir hfirst

/-- Where there is a directory, none is made. -/
theorem makeDirs_of_isDirectory {path : String} (h : path = "" ∨ d.isDirectory path = true) :
    (host now random).makeDirs path d = (.ok (), d) := by
  by_cases hpath : path = ""
  · rw [Host.makeDirs, if_pos hpath]
    rfl
  · rw [Host.makeDirs, if_neg hpath, bind_apply,
      ensureDir_of_isDirectory (h.resolve_left hpath)]
    rfl

end Disk

end Nearest

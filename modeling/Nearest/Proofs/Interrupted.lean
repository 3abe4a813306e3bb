import Nearest.Proofs.DataDir

/-!
# Saves that fail

A save is five changes to files, and each of them may fail, with or without leaving something in the
file that it was to write. The new snapshot is staged under another name; what comes after it is in
force is the manifest alone.

* `Disk.Tried` says what trying a change may come to, `Host.Fallible` that a machine does nothing
  else.
* `DataDir.SameSnapshot`: a load sees the same snapshot on two disks, or on neither
  (`SameSnapshot.load`). Writing the partial file keeps it so (`SameSnapshot.of_write_partial`).
* `DataDir.save_fallible`: a save that fails before the snapshot has its name leaves the one before
  it, and any other has put the new one in force. So has a save that fails on the manifest
  (`DataDir.save_of_isDirectory`).
-/

namespace Nearest

/-! ## Machines on which changes fail -/

/-- The file that a change writes or waits for, and not the one whose name it changes. -/
def FileStep.written? : FileStep → Option String
  | .create path | .write path _ | .sync path | .replace path _ => some path
  | .rename _ _ => none

/-- What trying a change may come to. A change that fails leaves the disk as it is, or has damaged
the file that it writes; a name is changed or it is not. -/
inductive Disk.Tried (d : Disk) (step : FileStep) : Except FileFault Unit → Disk → Prop
  | done {d' : Disk} (h : d.perform step = .ok d') : Tried d step (.ok ()) d'
  | failed (e : FileFault) : Tried d step (.error e) d
  | damaged {d' : Disk} {path : String} {content : Bytes} (e : FileFault)
      (hpath : step.written? = some path) (h : d.write path content = .ok d') :
      Tried d step (.error e) d'

/-- A change of a name that fails leaves the disk. -/
theorem Disk.Tried.eq_of_rename {d d' : Disk} {source target : String} {e : FileFault}
    (h : d.Tried (.rename source target) (.error e) d') : d' = d := by
  cases h with
  | failed => rfl
  | damaged _ hpath => cases hpath

/-- A machine has this disk, on which changes are tried. -/
structure Host.Fallible {σ : Type} (host : Host (StateM σ)) (disk : σ → Disk) : Prop where
  now : ∀ x, disk (host.now x).2 = disk x
  perform : ∀ x step, (disk x).Tried step (host.perform step x).1 (disk (host.perform step x).2)

/-- A machine with a disk is one of these. -/
theorem Disk.fallible_host (now : Nat) (random : StdGen) : (host now random).Fallible id where
  now _ := rfl
  perform d step := by
    simp only [host, attempt]
    cases hstep : d.perform step with
    | ok d' => exact .done hstep
    | error e => exact .failed e

namespace Host

variable {σ : Type} (host : Host (StateM σ))

theorem performAll_cons (step : FileStep) (steps : List FileStep) (x : σ) :
    host.performAll (step :: steps) x =
      match host.perform step x with
      | (.ok (), y) => host.performAll steps y
      | (.error e, y) => (.error e, y) := by
  simp only [performAll, Disk.bind_apply]
  rcases host.perform step x with ⟨_ | _, y⟩ <;> rfl

theorem performAll_append (steps steps' : List FileStep) (x : σ) :
    host.performAll (steps ++ steps') x =
      match host.performAll steps x with
      | (.ok (), y) => host.performAll steps' y
      | (.error e, y) => (.error e, y) := by
  induction steps generalizing x with
  | nil => rfl
  | cons step steps ih =>
    rw [List.cons_append, performAll_cons, performAll_cons]
    rcases host.perform step x with ⟨e | _, y⟩
    · rfl
    · exact ih y

end Host

namespace DataDir

variable {d d' d'' : Disk} {dir : String}

/-! ## What a load sees -/

/-- The same is found where a load looks for the snapshot. -/
def SameSnapshot (dir : String) (d d' : Disk) : Prop :=
  d'.lookUp (snapshotPath dir) = d.lookUp (snapshotPath dir)

namespace SameSnapshot

theorem trans (h : SameSnapshot dir d d') (h' : SameSnapshot dir d' d'') :
    SameSnapshot dir d d'' :=
  Eq.trans h' h

/-- Where the same is found, the same is loaded. -/
theorem load (h : SameSnapshot dir d d') (settings : Settings) (later : Nat) (random : StdGen) :
    (DataDir.load (Disk.host later random) dir settings d').1 =
      (DataDir.load (Disk.host later random) dir settings d).1 := by
  rw [load_apply, load_apply, h]

/-- The partial file is beside the snapshot, so that writing it changes nothing there. -/
theorem of_write_partial {content : Bytes} (h : d.write (partialPath dir) content = .ok d') :
    SameSnapshot dir d d' := by
  obtain ⟨l, hl, h⟩ := exists_of_bind_ok h
  split at h
  · cases h
  rename_i hfree
  cases h
  rw [Bool.or_eq_true, decide_eq_true_eq, not_or] at hfree
  obtain ⟨e, rfl, hbeside⟩ := Disk.exists_of_locate_inside isName_partial hl
  have hq : d.locate (snapshotPath dir) = .ok (e ++ [snapshotName]) :=
    hbeside isName_snapshot (by decide)
  have hne : e ++ [snapshotName] ≠ e ++ ["vectors.snap.tmp"] := by simp [snapshotName]
  rw [SameSnapshot, Disk.lookUp, Disk.lookUp, Disk.locate_put hfree.1 hq, hq]
  simp only [bind, Except.bind, Disk.node?_put_of_ne hne]

theorem of_tried {step : FileStep} {result : Except FileFault Unit}
    (h : d.Tried step result d') (hstep : step.written? = some (partialPath dir)) :
    SameSnapshot dir d d' := by
  cases h with
  | failed e => rfl
  | damaged e hpath h =>
    rw [hstep, Option.some.injEq] at hpath
    subst hpath
    exact of_write_partial h
  | done h =>
    cases step with
    | create path | write path content | replace path content =>
      obtain rfl := Option.some.inj hstep
      exact of_write_partial h
    | sync path =>
      rw [Disk.perform] at h
      cases hread : d.read path with
      | error e =>
        rw [hread] at h
        cases h
      | ok content =>
        rw [hread] at h
        cases h
        rfl
    | rename source target => cases hstep

end SameSnapshot

/-! ## Staging -/

section Staging

variable {σ : Type} {host : Host (StateM σ)} {disk : σ → Disk} (h : host.Fallible disk)
include h

/-- Changes that are all made are made on the disk. -/
theorem foldlM_of_fallible {steps : List FileStep} {x y : σ}
    (hall : host.performAll steps x = (.ok (), y)) :
    steps.foldlM Disk.perform (disk x) = .ok (disk y) := by
  induction steps generalizing x with
  | nil =>
    cases hall
    rfl
  | cons step steps ih =>
    have htried := h.perform x step
    rw [Host.performAll_cons] at hall
    rcases hstep : host.perform step x with ⟨e | _, z⟩ <;> rw [hstep] at hall htried
    · cases hall
    · cases htried with
      | done hdone =>
        rw [List.foldlM_cons, hdone]
        exact ih hall

/-- Whatever becomes of writing the partial file, the snapshot is as it was. -/
theorem sameSnapshot_of_performAll {steps : List FileStep}
    (hsteps : ∀ step ∈ steps, step.written? = some (partialPath dir)) (x : σ) :
    SameSnapshot dir (disk x) (disk (host.performAll steps x).2) := by
  induction steps generalizing x with
  | nil => rfl
  | cons step steps ih =>
    obtain ⟨hstep, hsteps⟩ := List.forall_mem_cons.1 hsteps
    have hfirst := SameSnapshot.of_tried (h.perform x step) hstep
    rw [Host.performAll_cons]
    rcases hperform : host.perform step x with ⟨_ | _, y⟩ <;> rw [hperform] at hfirst
    · exact hfirst
    · exact hfirst.trans (ih hsteps y)

/-- Staging that fails leaves the snapshot as it was: it is only the last change that touches it,
and this one is made as a whole. -/
theorem sameSnapshot_of_staging_error {content : Bytes} {x y : σ} {e : FileFault}
    (hall : host.performAll (staging dir content) x = (.error e, y)) :
    SameSnapshot dir (disk x) (disk y) := by
  have hsteps : ∀ step ∈ writing dir content, step.written? = some (partialPath dir) := by
    simp [writing, FileStep.written?]
  have hwriting := sameSnapshot_of_performAll h hsteps x
  rw [staging, Host.performAll_append] at hall
  rcases hperform : host.performAll (writing dir content) x with ⟨_ | _, z⟩ <;>
    rw [hperform] at hall hwriting
  · cases hall
    exact hwriting
  · have htried := h.perform z (.rename (partialPath dir) (snapshotPath dir))
    simp only [Host.performAll_cons] at hall
    rcases hrename : host.perform (.rename (partialPath dir) (snapshotPath dir)) z with
      ⟨_ | _, w⟩ <;> rw [hrename] at hall htried
    · cases hall
      rw [htried.eq_of_rename]
      exact hwriting
    · cases hall

/-- Staging that succeeds puts the new snapshot in force. -/
theorem read_of_fallible_staging {content : Bytes} {x y : σ}
    (hall : host.performAll (staging dir content) x = (.ok (), y)) :
    (disk y).read (snapshotPath dir) = .ok content :=
  read_of_staging (foldlM_of_fallible h hall)

end Staging

/-! ## Saving -/

/-- Whatever becomes of the manifest, the snapshot stays in force. -/
theorem read_of_tried_manifest {content text : Bytes} {result : Except FileFault Unit}
    (htried : d.Tried (.replace (manifestPath dir) text) result d')
    (hread : d.read (snapshotPath dir) = .ok content) :
    d'.read (snapshotPath dir) = .ok content := by
  cases htried with
  | done hdone => exact read_of_write_manifest hdone hread
  | failed => exact hread
  | damaged _ hpath hwrite =>
    obtain rfl := Option.some.inj hpath
    exact read_of_write_manifest hwrite hread

variable {σ : Type}

/-- **What a save leaves in force.** On a machine where any change may fail, a save that succeeds
has put the new image in force, and the manifest describes it. A save that fails has failed in
staging the image or on the manifest. In the first case a load sees exactly the snapshot, or its
absence, that it would have seen before; in the second it sees the new image. -/
theorem save_fallible {host : Host (StateM σ)} {disk : σ → Disk} (h : host.Fallible disk)
    {dir : String} {image : Snapshot.Image} {x x' : σ} {result : Except Fault SaveStats}
    (hsave : save host dir image x = (result, x')) :
    (∀ stats, result = .ok stats →
      stats = { records := image.size, bytes := image.bytes.length } ∧
      (∀ settings later random, DataDir.load (Disk.host later random) dir settings (disk x') =
        (Shard.load settings later (some image.bytes), disk x')) ∧
      (disk x').read (manifestPath dir) =
        .ok (Bytes.ofText (manifest image (host.now x).1).render)) ∧
    ∀ e, result = .error e → ∃ why, e = .file why ∧
      (((host.performAll (staging dir image.bytes) (host.now x).2).1 = .error why ∧
        ∀ settings later random,
          (DataDir.load (Disk.host later random) dir settings (disk x')).1 =
            (DataDir.load (Disk.host later random) dir settings (disk x)).1) ∨
      ((host.performAll (staging dir image.bytes) (host.now x).2).1 = .ok () ∧
        ∀ settings later random, DataDir.load (Disk.host later random) dir settings (disk x') =
          (Shard.load settings later (some image.bytes), disk x'))) := by
  rw [save_apply, saveSteps_eq, Host.performAll_append] at hsave
  rcases hstaging : host.performAll (staging dir image.bytes) (host.now x).2 with ⟨why | _, y⟩ <;>
    rw [hstaging] at hsave
  · cases hsave
    have hsame := sameSnapshot_of_staging_error h hstaging
    rw [h.now] at hsame
    refine ⟨fun _ hok => (by cases hok), ?_⟩
    rintro _ ⟨⟩
    exact ⟨why, rfl, .inl ⟨rfl, hsame.load⟩⟩
  · have htried := h.perform y
      (.replace (manifestPath dir) (Bytes.ofText (manifest image (host.now x).1).render))
    have hread := read_of_tried_manifest htried (read_of_fallible_staging h hstaging)
    simp only [Host.performAll_cons] at hsave
    rcases hmanifest : host.perform
      (.replace (manifestPath dir) (Bytes.ofText (manifest image (host.now x).1).render)) y with
      ⟨why | _, z⟩ <;> rw [hmanifest] at hsave htried hread <;> cases hsave
    · refine ⟨fun _ hok => (by cases hok), ?_⟩
      rintro _ ⟨⟩
      exact ⟨why, rfl, .inr ⟨rfl, fun settings later random => load_of_read hread settings⟩⟩
    · refine ⟨?_, fun _ herror => by cases herror⟩
      rintro _ ⟨⟩
      cases htried with
      | done hdone =>
        exact ⟨rfl, fun settings later random => load_of_read hread settings,
          Disk.read_of_write hdone⟩

/-- A shard has been saved, and another one is to be saved in its place. The new snapshot cannot be
made safe: the machine says so when it is asked to wait for it. What is loaded then is the shard
that was saved before. -/
theorem save_fallible_sync :
    let broken : FileFault := .other 5 "Input/output error"
    let host : Host (StateM Disk) := { Disk.host 5 (mkStdGen 0) with
      perform := fun step => match step with
        | .sync _ => fun d => (.error broken, d)
        | step => (Disk.host 5 (mkStdGen 0)).perform step }
    let old : Keyspace := ⟨[("a", ⟨.vector ⟨[0x3f800000]⟩, none⟩)]⟩
    let new : Keyspace :=
      ⟨[("a", ⟨.vector ⟨[0x40000000]⟩, none⟩), ("b", ⟨.vector ⟨[0x40400000]⟩, some 9⟩)]⟩
    host.Fallible id ∧
    ∃ (s s' loaded : Shard) (stats : SaveStats) (d d' : Disk),
      (∀ key, s.binding? key = old.get? key) ∧ (∀ key, s'.binding? key = new.get? key) ∧
      save (Disk.host 3 (mkStdGen 0)) "" (s.image 3).1 {} = (.ok stats, d) ∧
      save host "" (s'.image 4).1 d = (.error (.file broken), d') ∧
      (DataDir.load (Disk.host 7 (mkStdGen 0)) "" { dimension := 1 } d').1 = .ok loaded ∧
      ∀ key, loaded.binding? key = old.get? key := by
  intro broken host old new
  have hhost : host.Fallible id := by
    refine ⟨fun _ => rfl, fun d step => ?_⟩
    cases step with
    | sync path => exact .failed broken
    | _ => exact (Disk.fallible_host 5 (mkStdGen 0)).perform d _
  have hcheck : Settings.check { dimension := 1 } = .ok () := rfl
  obtain ⟨s, hs, hset, hb⟩ := Shard.exists_reached hcheck old (by decide)
  obtain ⟨s', -, -, hb'⟩ := Shard.exists_reached hcheck new (by decide)
  -- the first shard is saved, and this is what its file gives
  have hempty : Savable {} "" :=
    ⟨Disk.writable_empty rfl rfl, Disk.writable_empty rfl rfl, Disk.writable_empty rfl rfl⟩
  obtain ⟨stats, d, hsave, hfiles⟩ := hempty.exists_save 3 (mkStdGen 0) (s.image 3).1
  have hdim : s.dimension.toNat < 2 ^ 32 := by
    rw [Shard.dimension, hset]
    decide
  have hold : old.Distinct := (by decide : (old.toList.map (·.1)).Nodup)
  have hstorable := hs.sound.storable_of_keyspace hold hb (by decide) (by decide)
  obtain ⟨loaded, hload, hr⟩ := hs.load_image hdim (hstorable.addressable hs.sound) 3 7
  -- the second save fails when the partial file has been written
  obtain ⟨d₁, h₁, hs₁⟩ := hfiles.partialFile.write []
  obtain ⟨d₂, h₂, -⟩ := (hfiles.partialFile.same hs₁).write (s'.image 4).1.bytes
  have hnow : host.now = pure 5 := rfl
  have hstaging : host.performAll (staging "" (s'.image 4).1.bytes) d = (.error broken, d₂) := by
    simp only [staging, writing, List.cons_append, Host.performAll_cons, host, Disk.host,
      Disk.attempt, Disk.perform, h₁, h₂]
  have hfailed : save host "" (s'.image 4).1 d = (.error (.file broken), d₂) := by
    rw [save_apply, saveSteps_eq, Host.performAll_append, hnow, Disk.pure_apply, hstaging]
  obtain ⟨-, hcases⟩ := save_fallible hhost hfailed
  obtain ⟨_, -, ⟨-, hsame⟩ | ⟨hok, -⟩⟩ := hcases _ rfl
  · refine ⟨hhost, s, s', loaded, stats, d, d₂, hb, hb', hsave, hfailed, ?_, fun key => ?_⟩
    · refine (hsame { dimension := 1 } 7 (mkStdGen 0)).trans ?_
      rw [id, load_of_read (read_of_save hsave).2, ← hset, hload]
    · rw [hr.binding?_eq (Shard.sound_load hload).1, hstorable.saved?_eq hs.sound, hb]
      simp only [old, Table.get?, lookup_cons_ite]
      split_ifs <;> rfl
  · rw [hnow, Disk.pure_apply, hstaging] at hok
    cases hok

/-! ## Manifests that cannot be written -/

/-- A save that fails because there is a directory in the place of the manifest has put the new
image in force. -/
theorem save_of_isDirectory {now : Nat} {random : StdGen}
    (hpartial : d.Writable (partialPath dir)) (hsnapshot : d.Writable (snapshotPath dir))
    (hmanifest : d.isDirectory (manifestPath dir) = true) (image : Snapshot.Image) :
    ∃ d', save (Disk.host now random) dir image d = (.error (.file .isDirectory), d') ∧
      d'.read (snapshotPath dir) = .ok image.bytes := by
  obtain ⟨d₁, h₁, hs₁⟩ := staging_of_writable hpartial hsnapshot image.bytes
  have hstaging := Disk.performAll_of_foldlM now random h₁
  have hwrite := Disk.write_of_isDirectory (hs₁.keeps.isDirectory hmanifest)
  refine ⟨d₁, ?_, read_of_staging h₁⟩
  rw [save_apply, saveSteps_eq, Host.performAll_append, Disk.now_host, Disk.pure_apply, hstaging]
  simp only [Host.performAll_cons, Disk.host, Disk.attempt, Disk.perform, hwrite]

/-- A save to an empty data directory fails, and what is loaded afterwards is the shard that was to
be saved. -/
theorem save_failed_in_force : ∃ (s before after : Shard) (d d' : Disk),
    save (Disk.host 5 (mkStdGen 0)) "" (s.image 3).1 d = (.error (.file .isDirectory), d') ∧
      DataDir.load (Disk.host 7 (mkStdGen 0)) "" s.settings d = (.ok before, d) ∧
      before.store.contains "a" = false ∧
      DataDir.load (Disk.host 7 (mkStdGen 0)) "" s.settings d' = (.ok after, d') ∧
      after.store.contains "a" = true := by
  obtain ⟨s, hreached, hset, hstorable, -, -, hvector⟩ := Shard.exists_single
  have hdim : s.dimension.toNat < 2 ^ 32 := by
    rw [Shard.dimension, hset]
    decide
  let d : Disk := Disk.put {} ["manifest.json"] .directory
  have hfree : ∀ name, name ≠ "manifest.json" → d.node? [name] = none := by
    intro name hne
    rw [Disk.node?_put_of_ne (by simpa using hne)]
    simp [Disk.node?]
  have hsnapshot : d.node? ["vectors.snap"] = none := hfree _ (by decide)
  have hmanifest : d.isDirectory (manifestPath "") = true :=
    Disk.isDirectory_iff.2 ⟨["manifest.json"], rfl, Disk.node?_put_self (by simp [Disk.node?])⟩
  obtain ⟨d', hsave, hread⟩ := save_of_isDirectory
    ⟨⟨["vectors.snap.tmp"], rfl, by rw [hfree _ (by decide)]; simp⟩, rfl⟩
    ⟨⟨["vectors.snap"], rfl, by rw [hsnapshot]; simp⟩, rfl⟩ hmanifest (s.image 3).1
  have habsent : HasSnapshot d "" none := by
    have hlocate : d.locate (snapshotPath "") = .ok ["vectors.snap"] := rfl
    rw [HasSnapshot, Disk.present, Disk.lookUp, hlocate]
    simp [bind, Except.bind, hsnapshot, pure, Except.pure]
  obtain ⟨after, hload, hr⟩ := hreached.load_image hdim (hstorable.addressable hreached.sound) 3 7
  refine ⟨s, { settings := { dimension := 1 }, store := Store.empty 1 }, after, d, d', hsave, ?_,
    ?_, ?_, (hr.keys "a").2 ⟨?_, fun e he => ?_⟩⟩
  · rw [load_of_hasSnapshot habsent, hset]
    rfl
  · simp [Store.contains, Store.empty]
  · rw [load_of_read hread, hload]
  · rw [(hvector 3).1]
    rfl
  · rw [(hvector 3).2] at he
    cases he

end DataDir

end Nearest

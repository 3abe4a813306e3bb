import Nearest.DataDir
import Nearest.Proofs.Disk
import Nearest.Proofs.Images

/-!
# Saving and loading

What a save leaves on the disk, and what is loaded from there.

* `DataDir.staging`: a save first puts the image in place, then it writes the manifest
  (`DataDir.saveSteps_eq`). After both the snapshot has the bytes of the image
  (`DataDir.read_of_staging`, `DataDir.read_of_save`).
* `DataDir.Savable.exists_save`: a save succeeds where its files can be written, which stays so.
* `DataDir.HasSnapshot`: what a data directory has as its snapshot. A load answers what this gives
  (`DataDir.load_of_hasSnapshot`); in any case it depends on what is found there
  (`DataDir.load_apply`).
* `DataDir.Opened`: a data directory is there. Opening it once more changes nothing
  (`DataDir.ensure_of_opened`), and a save leaves it (`DataDir.Opened.save`).
* `Shard.saveBehind`: the image is taken first, and written when the shard has gone on serving.
* `Shard.load_of_saveBehind`: what is loaded is the shard at the moment of the image, without the
  keys that have expired since, and saving that writes the same file again.
-/

namespace Nearest

namespace DataDir

variable {d d' : Disk} {dir : String} {now : Nat} {random : StdGen}

/-! ## The files of a save -/

theorem isName_snapshot : Path.IsName snapshotName := by
  constructor <;> decide

theorem isName_partial : Path.IsName "vectors.snap.tmp" := by
  constructor <;> decide

theorem isName_manifest : Path.IsName "manifest.json" := by
  constructor <;> decide

theorem manifestPath_ne_snapshotPath {d₁ d₂ : Disk} {l q : Location}
    (hl : d₁.locate (manifestPath dir) = .ok l) (hq : d₂.locate (snapshotPath dir) = .ok q) :
    q ≠ l := by
  obtain ⟨e, rfl, -⟩ := Disk.exists_of_locate_inside isName_manifest hl
  obtain ⟨e', rfl, -⟩ := Disk.exists_of_locate_inside isName_snapshot hq
  intro h
  exact absurd (List.append_inj' h rfl).2 (by decide)

/-- The changes that write a snapshot under another name. -/
def writing (dir : String) (content : Bytes) : List FileStep :=
  [.create (partialPath dir), .write (partialPath dir) content, .sync (partialPath dir)]

/-- The changes that put a new snapshot in the place of the one before it. -/
def staging (dir : String) (content : Bytes) : List FileStep :=
  writing dir content ++ [.rename (partialPath dir) (snapshotPath dir)]

/-- A save puts its snapshot in place and writes the manifest. -/
theorem saveSteps_eq (image : Snapshot.Image) :
    saveSteps dir image now = staging dir image.bytes ++
      [.replace (manifestPath dir) (Bytes.ofText (manifest image now).render)] :=
  rfl

/-- After staging the snapshot is what has been written to the partial file. -/
theorem read_of_staging {content : Bytes}
    (h : (staging dir content).foldlM Disk.perform d = .ok d') :
    d'.read (snapshotPath dir) = .ok content := by
  simp only [staging, writing, List.cons_append, List.nil_append, List.foldlM_cons,
    List.foldlM_nil] at h
  obtain ⟨d₁, -, h⟩ := exists_of_bind_ok h
  obtain ⟨d₂, hwrite, h⟩ := exists_of_bind_ok h
  obtain ⟨d₃, hsync, h⟩ := exists_of_bind_ok h
  obtain ⟨d₄, hrename, h⟩ := exists_of_bind_ok h
  cases h
  have hpartial : d₂.read (partialPath dir) = .ok content := Disk.read_of_write hwrite
  have hsame : d₃ = d₂ := by
    rw [Disk.perform, hpartial] at hsync
    cases hsync
    rfl
  subst hsame
  obtain ⟨content', hread, hrename⟩ := exists_of_bind_ok hrename
  obtain ⟨l, -, hrename⟩ := exists_of_bind_ok hrename
  obtain rfl : content' = content := Except.ok.inj (hread.symm.trans hpartial)
  exact Disk.read_of_write hrename

/-- Writing the manifest leaves the snapshot. -/
theorem read_of_write_manifest {content text : Bytes}
    (h : d.write (manifestPath dir) text = .ok d')
    (hread : d.read (snapshotPath dir) = .ok content) :
    d'.read (snapshotPath dir) = .ok content :=
  Disk.read_of_write_other h hread fun _ _ hl hq => manifestPath_ne_snapshotPath hl hq

/-- A save is its changes; then it says what it has saved. -/
theorem save_apply {σ : Type} (host : Host (StateM σ)) (dir : String) (image : Snapshot.Image)
    (x : σ) :
    save host dir image x =
      match host.performAll (saveSteps dir image (host.now x).1) (host.now x).2 with
      | (.ok (), y) => (.ok { records := image.size, bytes := image.bytes.length }, y)
      | (.error e, y) => (.error (.file e), y) := by
  simp only [save, Disk.bind_apply]
  rcases host.performAll (saveSteps dir image (host.now x).1) (host.now x).2 with ⟨_ | _, y⟩ <;> rfl

/-- The steps of a save that has succeeded. -/
theorem foldlM_of_save {image : Snapshot.Image} {stats : SaveStats}
    (h : save (Disk.host now random) dir image d = (.ok stats, d')) :
    stats = { records := image.size, bytes := image.bytes.length } ∧
      (saveSteps dir image now).foldlM Disk.perform d = .ok d' := by
  rw [save_apply, Disk.now_host, Disk.pure_apply] at h
  rcases hall : (Disk.host now random).performAll (saveSteps dir image now) d with ⟨e | _, d₁⟩ <;>
    rw [hall] at h <;> cases h
  exact ⟨rfl, Disk.foldlM_of_performAll hall⟩

/-- A save fails on a file only. -/
theorem exists_file_of_save {image : Snapshot.Image} {e : Fault}
    (h : save (Disk.host now random) dir image d = (.error e, d')) : ∃ why, e = .file why := by
  rw [save_apply, Disk.now_host, Disk.pure_apply] at h
  rcases hall : (Disk.host now random).performAll (saveSteps dir image now) d with ⟨why | _, d₁⟩ <;>
    rw [hall] at h <;> cases h
  exact ⟨why, rfl⟩

/-- What a save has written. -/
theorem read_of_save {image : Snapshot.Image} {stats : SaveStats}
    (h : save (Disk.host now random) dir image d = (.ok stats, d')) :
    stats = { records := image.size, bytes := image.bytes.length } ∧
      d'.read (snapshotPath dir) = .ok image.bytes := by
  obtain ⟨hstats, hsteps⟩ := foldlM_of_save h
  rw [saveSteps_eq, List.foldlM_append] at hsteps
  obtain ⟨d₁, hstaging, hmanifest⟩ := exists_of_bind_ok hsteps
  rw [List.foldlM_cons] at hmanifest
  obtain ⟨d₂, hmanifest, hend⟩ := exists_of_bind_ok hmanifest
  cases hend
  exact ⟨hstats, read_of_write_manifest hmanifest (read_of_staging hstaging)⟩

/-- Staging succeeds where its files can be written. -/
theorem staging_of_writable (hpartial : d.Writable (partialPath dir))
    (hsnapshot : d.Writable (snapshotPath dir)) (content : Bytes) :
    ∃ d', (staging dir content).foldlM Disk.perform d = .ok d' ∧ d.SameDirectories d' := by
  obtain ⟨d₁, h₁, hs₁⟩ := hpartial.write []
  obtain ⟨d₂, h₂, hs₂⟩ := (hpartial.same hs₁).write content
  have hread := Disk.read_of_write h₂
  obtain ⟨d₃, h₃, hs₃⟩ := (hsnapshot.same (hs₁.trans hs₂)).rename hread
  refine ⟨d₃, ?_, (hs₁.trans hs₂).trans hs₃⟩
  simp [staging, writing, Disk.perform, h₁, h₂, hread, h₃, bind, Except.bind, Except.map, pure,
    Except.pure]

/-- The files of a save can be written. -/
structure Savable (d : Disk) (dir : String) : Prop where
  partialFile : d.Writable (partialPath dir)
  snapshot : d.Writable (snapshotPath dir)
  manifest : d.Writable (manifestPath dir)

theorem Savable.same (h : Savable d dir) (hs : d.SameDirectories d') : Savable d' dir where
  partialFile := h.partialFile.same hs
  snapshot := h.snapshot.same hs
  manifest := h.manifest.same hs

/-- A save succeeds where its files can be written, and so does the next one. -/
theorem Savable.exists_save (h : Savable d dir) (now : Nat) (random : StdGen)
    (image : Snapshot.Image) :
    ∃ stats d', save (Disk.host now random) dir image d = (.ok stats, d') ∧ Savable d' dir := by
  obtain ⟨d₁, h₁, hs₁⟩ := staging_of_writable h.partialFile h.snapshot image.bytes
  obtain ⟨d₂, h₂, hs₂⟩ := (h.manifest.same hs₁).write
    (Bytes.ofText (DataDir.manifest image now).render)
  have hsteps : (saveSteps dir image now).foldlM Disk.perform d = .ok d₂ := by
    rw [saveSteps_eq, List.foldlM_append, h₁]
    simp [Disk.perform, h₂, bind, Except.bind, pure, Except.pure]
  have hall := Disk.performAll_of_foldlM now random hsteps
  refine ⟨{ records := image.size, bytes := image.bytes.length }, d₂, ?_, h.same (hs₁.trans hs₂)⟩
  rw [save_apply, Disk.now_host, Disk.pure_apply, hall]

/-! ## The files of a load -/

/-- The snapshot, from what is found at its path. -/
def found : Except FileFault (Option Node) → Except Fault (Option Bytes)
  | .ok (some (.file content)) => .ok (some content)
  | .ok (some .directory) => .error (.file .isDirectory)
  | .ok none | .error _ => .ok none

theorem snapshotFile_apply :
    snapshotFile (Disk.host now random) dir d = (found (d.lookUp (snapshotPath dir)), d) := by
  have hfile : snapshotFile (Disk.host now random) dir d =
      (if d.present (snapshotPath dir) then ((d.read (snapshotPath dir)).map some).mapError .file
        else .ok none, d) := by
    simp only [snapshotFile, Disk.host, Disk.bind_apply]
    split
    · rw [Disk.bind_apply]
      cases d.read (snapshotPath dir) <;> rfl
    · rfl
  rw [hfile, Disk.present, Disk.read]
  rcases d.lookUp (snapshotPath dir) with _ | _ | _ | _ <;> rfl

/-- Loading looks at the settings, and then at what is found at the path of the snapshot. It changes
nothing. -/
theorem load_apply (settings : Settings) :
    load (Disk.host now random) dir settings d =
      (Shard.new settings >>= fun _ =>
        found (d.lookUp (snapshotPath dir)) >>= Shard.load settings now, d) := by
  cases hnew : Shard.new settings with
  | error e =>
    simp only [load, hnew, Disk.pure_apply]
    rfl
  | ok s =>
    simp only [load, hnew, Disk.now_host, Disk.bind_apply, snapshotFile_apply]
    cases found (d.lookUp (snapshotPath dir)) <;> rfl

/-- A data directory has this file as its snapshot, or has none. -/
def HasSnapshot (d : Disk) (dir : String) : Option Bytes → Prop
  | none => d.present (snapshotPath dir) = false
  | some file => d.read (snapshotPath dir) = .ok file

theorem HasSnapshot.found {file : Option Bytes} (h : HasSnapshot d dir file) :
    found (d.lookUp (snapshotPath dir)) = .ok file := by
  cases file with
  | none =>
    have habsent : d.present (snapshotPath dir) = false := h
    rw [Disk.present] at habsent
    rcases hnode : d.lookUp (snapshotPath dir) with _ | _ | _
    · rfl
    · rfl
    · rw [hnode] at habsent
      cases habsent
  | some file =>
    have hread : d.read (snapshotPath dir) = .ok file := h
    obtain ⟨l, hl, hn, hslash⟩ := Disk.read_eq_ok.1 hread
    simp [Disk.lookUp, hl, hn, hslash, bind, Except.bind, pure, Except.pure, DataDir.found]

/-- What a load answers is what the snapshot gives. -/
theorem load_of_hasSnapshot {file : Option Bytes} (hfile : HasSnapshot d dir file)
    (settings : Settings) :
    load (Disk.host now random) dir settings d = (Shard.load settings now file, d) := by
  rw [load_apply, hfile.found]
  cases hnew : Shard.new settings with
  | error e => simp only [Shard.load, hnew, bind, Except.bind]
  | ok s => rfl

theorem load_of_read {file : Bytes} (hread : d.read (snapshotPath dir) = .ok file)
    (settings : Settings) :
    load (Disk.host now random) dir settings d = (Shard.load settings now (some file), d) := by
  have hfile : HasSnapshot d dir (some file) := hread
  exact load_of_hasSnapshot hfile settings

/-! ## The directory -/

/-- A data directory is there; without a name it is the working directory. -/
def Opened (d : Disk) (dir : String) : Prop :=
  dir = "" ∨ d.isDirectory dir = true

theorem opened_of_ensure (h : ensure (Disk.host now random) dir d = (.ok (), d')) :
    Opened d' dir := by
  rcases hmake : (Disk.host now random).makeDirs dir d with ⟨_ | _, d₁⟩ <;>
    simp only [ensure, Disk.bind_apply, hmake] at h <;> cases h
  exact Disk.isDirectory_of_makeDirs hmake

theorem ensure_of_opened (h : Opened d dir) :
    ensure (Disk.host now random) dir d = (.ok (), d) := by
  simp only [ensure, Disk.bind_apply, Disk.makeDirs_of_isDirectory h]
  rfl

/-- A save leaves its directory where it is. -/
theorem Opened.save (h : Opened d dir) {image : Snapshot.Image} {stats : SaveStats}
    (hsave : DataDir.save (Disk.host now random) dir image d = (.ok stats, d')) :
    Opened d' dir :=
  h.imp_right (Disk.SameDirectories.of_foldlM (foldlM_of_save hsave).2).keeps.isDirectory

end DataDir

namespace Shard

/-- Saves a shard behind its back: the image is taken now, and written when the shard has gone on
serving for a while. -/
def saveBehind {m : Type → Type} [Monad m] (host : Host m) (dir : String) (now : Nat)
    (serve : Shard → Shard) (s : Shard) : m (Except Fault SaveStats × Shard) := do
  let (image, s) := s.image now
  let served := serve s
  return (← DataDir.save host dir image, served)

variable {s : Shard} {d d' : Disk} {dir : String} {now : Nat}

theorem read_of_saveBehind {serve : Shard → Shard} {served : Shard} {t : Nat} {g : StdGen}
    {stats : SaveStats}
    (h : s.saveBehind (Disk.host t g) dir now serve d = ((.ok stats, served), d')) :
    stats = { records := (s.image now).1.size, bytes := (s.image now).1.bytes.length } ∧
      d'.read (DataDir.snapshotPath dir) = .ok (s.image now).1.bytes := by
  rcases hsave : DataDir.save (Disk.host t g) dir (s.image now).1 d with ⟨result, d₁⟩
  simp only [saveBehind, Disk.bind_apply, hsave, Disk.pure_apply] at h
  cases h
  exact DataDir.read_of_save hsave

/-- **A snapshot gives back the shard that was saved.** Whatever the shard does between the capture
and the end of the save, what is loaded afterwards are the vectors that were live at the capture,
without those whose expiry has passed since, with their order, norms and deadlines. The save reports
how many these were and the length of the file. And as long as no expiry has passed, as none has at
the time of the capture, saving again writes the same file. -/
theorem load_of_saveBehind (h : s.Reached) (hdim : s.dimension.toNat < 2 ^ 32)
    (ha : s.Addressable) {serve : Shard → Shard} {served : Shard} {t : Nat} {g : StdGen}
    {stats : SaveStats}
    (hsave : s.saveBehind (Disk.host t g) dir now serve d = ((.ok stats, served), d')) :
    (∃ keys : List String, keys.Nodup ∧ (∀ key, key ∈ keys ↔ (s.vector? now key).isSome) ∧
      stats.records = keys.length) ∧
    (∃ file, d'.read (DataDir.snapshotPath dir) = .ok file ∧ stats.bytes = file.length ∧
      ∀ later g', ∃ loaded,
        DataDir.load (Disk.host later g') dir s.settings d' = (.ok loaded, d') ∧
        s.Reloaded now later loaded ∧
        ((∀ key e, s.savedExpiry now key = some e → later < e.toNat) →
          ∀ dir₂ t₂ g₂ serve₂ d₁ d₂ stats₂ served₂,
            loaded.saveBehind (Disk.host t₂ g₂) dir₂ later serve₂ d₁ =
              ((.ok stats₂, served₂), d₂) →
            d₂.read (DataDir.snapshotPath dir₂) = .ok file)) ∧
    (now < 2 ^ 64 - 1 → ∀ key e, s.savedExpiry now key = some e → now < e.toNat) := by
  obtain ⟨hstats, hread⟩ := read_of_saveBehind hsave
  subst hstats
  refine ⟨?_, ⟨_, hread, rfl, fun later g' => ?_⟩, fun hnow key e he => ?_⟩
  · obtain ⟨rows, hrows⟩ := h.sound.columns_image now
    have hnodup : (rows.map (·.1)).Nodup := hrows.distinct
    refine ⟨_, hnodup, fun key => h.sound.mem_keys_image hrows, ?_⟩
    rw [List.length_map]
    exact hrows.size
  · obtain ⟨loaded, hload, hr⟩ := h.load_image hdim ha now later
    refine ⟨loaded, by rw [DataDir.load_of_read hread, hload], hr, fun hlive => ?_⟩
    intro dir₂ t₂ g₂ serve₂ d₁ d₂ stats₂ served₂ hsave₂
    rw [(read_of_saveBehind hsave₂).2, hr.bytes_image h.sound (sound_load hload).1 hlive]
  · rw [savedExpiry, Option.map_eq_some_iff] at he
    obtain ⟨deadline, hd, rfl⟩ := he
    rw [deadline?, Option.filter_eq_some_iff, decide_eq_true_eq] at hd
    rw [toNat_expiryOf]
    omega

/-- A shard that is flushed while it is saved. Its three vectors are in the file; when it is loaded
the deadline of one has passed, that of another has not. -/
theorem load_of_saveBehind_flushed :
    let a : String × Binding := ("a", ⟨.vector ⟨[0x3f800000]⟩, none⟩)
    let b : String × Binding := ("b", ⟨.vector ⟨[0x40000000]⟩, some 9⟩)
    let c : String × Binding := ("c", ⟨.vector ⟨[0x40400000]⟩, some 6⟩)
    ∃ (s loaded served : Shard) (stats : SaveStats) (d : Disk),
      s.Reached ∧ (∀ key, s.binding? key = Table.get? ⟨[a, b, c]⟩ key) ∧
      s.saveBehind (Disk.host 5 (mkStdGen 0)) "" 3 (fun s => s.flush.2) {} =
        ((.ok stats, served), d) ∧
      stats.records = 3 ∧ (∀ key, served.binding? key = none) ∧
      DataDir.load (Disk.host 7 (mkStdGen 0)) "" s.settings d = (.ok loaded, d) ∧
      ∀ key, loaded.binding? key = Table.get? ⟨[a, b]⟩ key := by
  intro a b c
  let k : Keyspace := ⟨[a, b, c]⟩
  obtain ⟨s, hs, hset, hb⟩ := exists_reached (rfl : Settings.check { dimension := 1 } = .ok ()) k
    (by decide)
  have hdim : s.dimension.toNat < 2 ^ 32 := by
    rw [Shard.dimension, hset]
    decide
  have hk : k.Distinct := (by decide : (k.toList.map (·.1)).Nodup)
  have hstorable := hs.sound.storable_of_keyspace hk hb (by decide) (by decide)
  have hfiles : DataDir.Savable {} "" :=
    ⟨Disk.writable_empty rfl rfl, Disk.writable_empty rfl rfl, Disk.writable_empty rfl rfl⟩
  obtain ⟨stats, d, hsave, -⟩ := hfiles.exists_save 5 (mkStdGen 0) (s.image 3).1
  have hbehind : s.saveBehind (Disk.host 5 (mkStdGen 0)) "" 3 (fun s => s.flush.2) {} =
      ((.ok stats, (s.image 3).2.flush.2), d) := by
    simp only [saveBehind, Disk.bind_apply, hsave, Disk.pure_apply]
  obtain ⟨⟨keys, hkeys, hmem, hrecords⟩, ⟨file, hread, -, hload⟩, -⟩ :=
    load_of_saveBehind hs hdim (hstorable.addressable hs.sound) hbehind
  obtain ⟨loaded, hloaded, hr, -⟩ := hload 7 (mkStdGen 0)
  have hfile : Shard.load s.settings 7 (some file) = .ok loaded :=
    congrArg Prod.fst ((DataDir.load_of_read hread _).symm.trans hloaded)
  refine ⟨s, loaded, _, stats, d, hs, hb, hbehind, ?_, (hs.image 3).sound.flush.2.2, hloaded,
    fun key => ?_⟩
  · -- at the time of the image no deadline has passed
    have hvector : ∀ key, (s.vector? 3 key).isSome = true ↔ key ∈ ["a", "b", "c"] := by
      intro key
      rw [hs.sound.vector?_eq, hb]
      simp only [k, a, b, c, Table.get?, lookup_cons_ite]
      split_ifs <;> simp_all <;> rfl
    have hperm : keys.Perm ["a", "b", "c"] :=
      (List.perm_ext_iff_of_nodup hkeys (by decide)).2 fun key => (hmem key).trans (hvector key)
    exact hrecords.trans hperm.length_eq
  · rw [hr.binding?_eq (sound_load hfile).1, hstorable.saved?_eq hs.sound, hb,
      Binding.filter_isLive_filter (by decide)]
    simp only [k, a, b, c, Table.get?, lookup_cons_ite]
    split_ifs <;> rfl

end Shard

end Nearest

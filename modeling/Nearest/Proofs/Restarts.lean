import Nearest.Proofs.DataDir
import Nearest.Proofs.Serving

/-!
# Restarts of the command line

Each run of the program loads the shard of its data directory, answers one request, saves the shard
if the request may have changed it, and ends. Nobody can tell such runs from one shard that stays
in memory.

* `CommandLine.Answer.outcome` is how a run reports an answer, and `CommandLine.run_act` says that
  an action gives the answer of the shard that has been loaded.
* `DataDir.Stores d dir dimension k now`: from a time on, what is loaded from a data directory is
  what is live of a keyspace. A save makes it so (`DataDir.stores_of_save`).
* `DataDir.Stores.run` is one run, `CommandLine.stores_runs` any number of them. They succeed where
  the files of a save can be written (`CommandLine.asked_of_savable`).
* `CommandLine.runs_eq_serveAll` compares them with the shard in memory.
-/

namespace Nearest

namespace CommandLine

/-! ## Parts of a run -/

section Part

variable {α β : Type} {d d' : Disk}

theorem run_bind_ok {x : Part (StateM Disk) α} {f : α → Part (StateM Disk) β} {a : α}
    (h : x.run d = (.ok a, d')) : (x >>= f).run d = (f a).run d' := by
  rw [ExceptT.run_bind, Disk.bind_apply, h]

theorem run_bind_error {x : Part (StateM Disk) α} {f : α → Part (StateM Disk) β} {e : Failure}
    (h : x.run d = (.error e, d')) : (x >>= f).run d = (.error e, d') := by
  rw [ExceptT.run_bind, Disk.bind_apply, h]
  rfl

theorem exists_of_run_bind {x : Part (StateM Disk) α} {f : α → Part (StateM Disk) β} {b : β}
    (h : (x >>= f).run d = (.ok b, d')) :
    ∃ a d₁, x.run d = (.ok a, d₁) ∧ (f a).run d₁ = (.ok b, d') := by
  rcases hx : x.run d with ⟨e | a, d₁⟩
  · rw [run_bind_error hx] at h
    cases h
  · rw [run_bind_ok hx] at h
    exact ⟨a, d₁, rfl, h⟩

theorem run_taken (result : Except Fault α) :
    (taken result : Part (StateM Disk) α).run d =
      (result.mapError fun fault => { fault }, d) :=
  rfl

theorem run_attempt (doing : Option String) (x : StateM Disk (Except Fault α)) :
    (attempt doing x).run d = ((x d).1.mapError fun fault => { doing, fault }, (x d).2) :=
  rfl

end Part

/-! ## Answers as they are reported -/

/-- The outcome of a run with this result. -/
def outcomeOf : Except Failure (List String) → Outcome
  | .ok lines => { code := 0, stdout := ofLines lines }
  | .error failure => { code := 1, stderr := failure.report }

namespace Answer

/-- The lines that report an answer. The clock of the machine stands still during a search. -/
def lines : Answer → Except Failure (List String)
  | found r => .ok (hitLines r ++ [s!"Query took {spanText 0}"])
  | refused fault => .error { fault }
  | counted vectors keys => .ok [s!"{vectors} vectors ({keys} keys total)"]
  | deleted removed asked => .ok [s!"Deleted {removed} of {asked} keys"]
  | flushed released => .ok [s!"Flushed {released} vectors"]

/-- How a run reports an answer. -/
def outcome (a : Answer) : Outcome :=
  outcomeOf a.lines

end Answer

section Act

variable {d : Disk} {now : Nat} {random : StdGen} {dir : String} {s : Shard}

theorem run_saveShard (t : Nat) : (saveShard (Disk.host now random) dir t s).run d =
    ((DataDir.save (Disk.host now random) dir (s.image t).1 d).1.mapError fun fault => { fault },
      (DataDir.save (Disk.host now random) dir (s.image t).1 d).2) :=
  rfl

/-- Reporting a change, if it could be saved. -/
theorem run_bind_saveShard (t : Nat) (lines : List String) :
    ((saveShard (Disk.host now random) dir t s >>= fun _ => pure lines :
        Part (StateM Disk) (List String))).run d =
      match DataDir.save (Disk.host now random) dir (s.image t).1 d with
      | (.ok _, d') => (.ok lines, d')
      | (.error fault, d') => (.error { fault }, d') := by
  have hsave : (saveShard (Disk.host now random) dir t s).run d = _ := run_saveShard t
  rcases hs : DataDir.save (Disk.host now random) dir (s.image t).1 d with ⟨fault | stats, d'⟩ <;>
    rw [hs] at hsave
  · exact run_bind_error hsave
  · exact run_bind_ok hsave

theorem exists_tally_report (s : Shard) (now : Nat) : ∃ tally,
    s.report now "local" {} = .ok (s.vectorCount now, tally) ∧
      tally.total = UInt64.ofNat (s.vectorCount now) := by
  refine ⟨⟨⟨[("local", UInt64.ofNat (s.vectorCount now))]⟩⟩, ?_, UInt64.zero_add _⟩
  rw [Shard.report, Tally.report, if_neg (by decide)]
  rfl

/-- **What an action answers** is what the shard answers; a request that may change the shard has it
saved. -/
theorem run_act (hcount : s.vectorCount now < 2 ^ 64) (request : Request) :
    (act (Disk.host now random) dir now s request.action).run d =
      if request.saves then
        match DataDir.save (Disk.host now random) dir ((s.answer now request).2.image now).1 d with
        | (.ok _, d') => ((s.answer now request).1.lines, d')
        | (.error fault, d') => (.error { fault }, d')
      else ((s.answer now request).1.lines, d) := by
  cases request with
  | query k filter vector =>
    rw [Shard.answer]
    cases hv : Record.componentsOfText vector with
    | error fault =>
      have hquery : (queryVector (Disk.host now random) s.dimension (some vector)).run d =
          (.error { fault }, d) := by
        rw [queryVector, hv]
        rfl
      exact run_bind_error hquery
    | ok v =>
      have hquery : (queryVector (Disk.host now random) s.dimension (some vector)).run d =
          (.ok v, d) := by
        rw [queryVector, hv]
        rfl
      refine (run_bind_ok hquery).trans ?_
      cases hsearch : (s.search now k filter (Bytes.ofWords32 v)).1 <;>
        simp only [ExceptT.run_bind, Disk.host, Disk.bind_apply, hsearch] <;> rfl
  | count =>
    obtain ⟨tally, hreport, htotal⟩ := exists_tally_report s now
    have htaken : (taken (s.report now "local" {}) : Part (StateM Disk) _).run d =
        (.ok (s.vectorCount now, tally), d) := by
      rw [run_taken, hreport]
      rfl
    have htext : toString tally.total = toString (s.vectorCount now) := by
      rw [htotal]
      exact congrArg toString (UInt64.toNat_ofNat_of_lt' hcount)
    refine (run_bind_ok htaken).trans ?_
    show (Except.ok [s!"{tally.total} vectors ({s.keyCount now} keys total)"], d) = _
    rw [htext]
    rfl
  | del keys => exact run_bind_saveShard now _
  | flush => exact run_bind_saveShard now _

/-- No answer reports the fault of a file. -/
theorem lines_ne_file (h : s.Sound) (now : Nat) (request : Request) (doing : Option String)
    (why : FileFault) :
    (s.answer now request).1.lines ≠ .error { doing, fault := .file why } := by
  intro hlines
  cases ha : (s.answer now request).1 with
  | refused fault =>
    rw [ha] at hlines
    cases hlines
    obtain ⟨_, hfault⟩ | ⟨_, hfault⟩ := h.ofRequest_of_answer ha <;> cases hfault
  | _ =>
    rw [ha] at hlines
    cases hlines

end Act

section Perform

variable {d d' : Disk} {now : Nat} {random : StdGen} {i : Invocation} {settings : Settings}

theorem check_of_taken {s : Settings}
    (h : (do taken s.check; return s : Part (StateM Disk) Settings).run d = (.ok settings, d')) :
    d' = d ∧ settings.check = .ok () := by
  obtain ⟨u, d₁, htaken, h⟩ := exists_of_run_bind h
  rw [run_taken] at htaken
  cases hcheck : s.check with
  | error fault =>
    rw [hcheck] at htaken
    cases htaken
  | ok v =>
    rw [hcheck] at htaken
    cases htaken
    cases h
    exact ⟨rfl, hcheck⟩

/-- Finding the settings changes nothing, and what is found is usable. -/
theorem check_of_settingsFor
    (h : (settingsFor (Disk.host now random) i).run d = (.ok settings, d')) :
    d' = d ∧ settings.check = .ok () := by
  unfold settingsFor at h
  cases hconfig : i.config with
  | none =>
    rw [hconfig] at h
    obtain ⟨base, d₁, hbase, h⟩ := exists_of_run_bind h
    cases hbase
    exact check_of_taken h
  | some path =>
    rw [hconfig] at h
    obtain ⟨base, d₁, hbase, hend⟩ := exists_of_run_bind h
    have hd₁ : d₁ = d := by
      simp only [run_attempt, Disk.host, Disk.bind_apply] at hbase
      cases hread : d.read path <;> rw [hread] at hbase <;> exact (congrArg Prod.snd hbase).symm
    rw [← hd₁]
    exact check_of_taken hend

/-- What an invocation does once its data directory is open and its shard loaded. -/
theorem run_perform {s : Shard} (hsettings : (settingsFor (Disk.host now random) i).run d =
      (.ok settings, d)) (hopened : DataDir.Opened d settings.dataDir)
    (hload : DataDir.load (Disk.host now random) settings.dataDir settings d = (.ok s, d)) :
    (perform (Disk.host now random) i).run d =
      (act (Disk.host now random) settings.dataDir now s i.action).run d := by
  refine (run_bind_ok hsettings).trans ?_
  have hopen : (attempt (some s!"opening data dir {settings.dataDir}")
      (DataDir.ensure (Disk.host now random) settings.dataDir)).run d = (.ok (), d) := by
    rw [run_attempt, DataDir.ensure_of_opened hopened]
    rfl
  refine (run_bind_ok hopen).trans ?_
  have hshard : (attempt (some "loading snapshot")
      (DataDir.load (Disk.host now random) settings.dataDir settings)).run d = (.ok s, d) := by
    rw [run_attempt, hload]
    rfl
  exact run_bind_ok hshard

end Perform

/-! ## Starts of the program -/

/-- A start of the program: when, with which source of random numbers, environment and arguments. -/
structure Start where
  now : Nat
  random : StdGen
  env : List (String × String)
  args : List String

namespace Start

/-- The machine that it happens on. -/
def host (c : Start) : Host (StateM Disk) :=
  Disk.host c.now c.random

/-- The run of the program. -/
def run (c : Start) : Disk → Outcome × Disk :=
  CommandLine.run c.host c.env c.args

/-- On this disk a start asks for something in a data directory, with vectors of a dimension, and no
file fails it. -/
def Asks (c : Start) (dir : String) (dimension : UInt64) (request : Request) (d : Disk) : Prop :=
  ∃ i settings, Arguments.parse c.env c.args = .ok i ∧ i.action = request.action ∧
    ((settingsFor c.host i).run d).1 = .ok settings ∧ settings.dataDir = dir ∧
    settings.dimension = dimension ∧
    ∀ doing why, ((perform c.host i).run d).1 ≠ .error { doing, fault := .file why }

/-- The arguments of a start order a request, whatever is on the disk. -/
def Orders (c : Start) (dir : String) (dimension : UInt64) (request : Request) : Prop :=
  ∃ i settings, Arguments.parse c.env c.args = .ok i ∧ i.action = request.action ∧
    (∀ d, (settingsFor c.host i).run d = (.ok settings, d)) ∧ settings.dataDir = dir ∧
    settings.dimension = dimension

theorem run_of_perform {c : Start} {i : Invocation} {d d' : Disk}
    {result : Except Failure (List String)} (hparse : Arguments.parse c.env c.args = .ok i)
    (hperform : (perform c.host i).run d = (result, d')) : c.run d = (outcomeOf result, d') := by
  rw [run, CommandLine.run, hparse]
  show ((perform c.host i).run >>= _) d = _
  rw [Disk.bind_apply, hperform]
  cases result <;> rfl

end Start

/-- Runs of the program, one after the other. -/
def runs : Disk → List Start → List Outcome × Disk
  | d, [] => ([], d)
  | d, c :: rest =>
    let (outcome, d) := c.run d
    let (outcomes, d) := runs d rest
    (outcome :: outcomes, d)

/-- Starts that ask for these requests one after the other, the first of them on this disk. -/
def Asked (dir : String) (dimension : UInt64) : Disk → List (Start × Request) → Prop
  | _, [] => True
  | d, (c, request) :: rest =>
    c.Asks dir dimension request d ∧ Asked dir dimension (c.run d).2 rest

end CommandLine

open CommandLine (Request Answer Start)

namespace DataDir

/-! ## What a data directory stores -/

/-- From a time on, what is loaded from a data directory is what is live of a keyspace. -/
structure Stores (d : Disk) (dir : String) (dimension : UInt64) (k : Keyspace) (now : Nat) :
    Prop where
  opened : Opened d dir
  snapshot : ∃ file, HasSnapshot d dir file ∧ ∀ settings : Settings, settings.check = .ok () →
    settings.dimension = dimension → ∀ later, now ≤ later →
      ∃ s, Shard.load settings later file = .ok s ∧ s.Storable ∧
        ∀ key, s.binding? key = k.live? later key

variable {d d' : Disk} {dir : String} {dimension : UInt64} {k : Keyspace} {now : Nat}
  {random : StdGen} {s : Shard}

theorem stores_of_absent (hopened : Opened d dir) (habsent : d.present (snapshotPath dir) = false)
    (dimension : UInt64) : Stores d dir dimension {} 0 := by
  refine ⟨hopened, none, habsent, fun settings hcheck _ later _ => ?_⟩
  let s₀ : Shard := { settings, store := Store.empty settings.dimension }
  have hload : Shard.load settings later none = .ok s₀ := by
    rw [Shard.load, Shard.new, hcheck]
  have hnone : ∀ key, s₀.binding? key = none := Shard.binding?_empty settings
  have hsize : s₀.store.size = 0 := (Store.holds_empty settings.dimension).size
  exact ⟨s₀, hload, ⟨by omega, by simp [hnone], by simp [hnone], by simp [hnone]⟩, hnone⟩

/-- A snapshot stores what it has saved. -/
theorem stores_of_saved (hopened : Opened d dir) {t : Nat}
    (hread : d.read (snapshotPath dir) = .ok (s.image t).1.bytes) (h : s.Sound)
    (hdim : s.dimension.toNat < 2 ^ 32) (ha : s.Addressable)
    (hk : ∀ later, now ≤ later → ∀ key,
      (s.saved? t key).filter (·.isLive later) = k.live? later key) :
    Stores d dir s.dimension k now := by
  refine ⟨hopened, some (s.image t).1.bytes, hread, fun settings hcheck hsettings later hle => ?_⟩
  obtain ⟨loaded, hload, hstorable, hbinding⟩ := h.load_saved hdim ha hcheck hsettings t later
  exact ⟨loaded, hload, hstorable, fun key => (hbinding key).trans (hk later hle key)⟩

/-- The snapshot of any shard stores some keyspace, at any time. -/
theorem exists_stores_of_read (hopened : Opened d dir) {t : Nat}
    (hread : d.read (snapshotPath dir) = .ok (s.image t).1.bytes) (h : s.Sound)
    (hcheck : s.settings.check = .ok ()) (hdim : s.dimension.toNat < 2 ^ 32)
    (ha : s.Addressable) : ∃ k, Stores d dir s.dimension k 0 := by
  obtain ⟨s₀, hload, -, hbinding⟩ := h.load_saved hdim ha hcheck rfl t 0
  obtain ⟨k, hk⟩ := Shard.exists_keyspace (Shard.sound_load hload).1 0
  refine ⟨k, stores_of_saved hopened hread h hdim ha fun later hle key => ?_⟩
  rw [Keyspace.live?, ← Binding.filter_isLive_filter hle (k.get? key), ← Keyspace.live?, ← hk.live,
    Binding.filter_isLive_filter hle, hbinding, Binding.filter_isLive_filter hle]

/-- **A save stores what is live of the shard.** -/
theorem stores_of_save (hopened : Opened d dir) (h : s.Refines k now) (hs : s.Storable)
    (hdim : s.dimension.toNat < 2 ^ 32) {t : Nat} {stats : SaveStats}
    (hsave : save (Disk.host t random) dir (s.image now).1 d = (.ok stats, d')) :
    Stores d' dir s.dimension k now := by
  have hread := (read_of_save hsave).2
  refine stores_of_saved (hopened.save hsave) hread h.sound hdim (hs.addressable h.sound) ?_
  intro later hle key
  rw [hs.saved?_eq h.sound, h.live, Keyspace.live?, Binding.filter_isLive_filter hle,
    ← Keyspace.live?]

namespace Stores

theorem later (h : Stores d dir dimension k now) {later : Nat} (hle : now ≤ later) :
    Stores d dir dimension k later := by
  obtain ⟨hopened, file, hfile, hload⟩ := h
  exact ⟨hopened, file, hfile, fun settings hcheck hsettings t ht =>
    hload settings hcheck hsettings t (hle.trans ht)⟩

/-- What is loaded refines the keyspace, and none of it is due. -/
theorem exists_load (h : Stores d dir dimension k now) {settings : Settings}
    (hcheck : settings.check = .ok ()) (hsettings : settings.dimension = dimension)
    (random : StdGen) : ∃ s, load (Disk.host now random) dir settings d = (.ok s, d) ∧
      s.settings = settings ∧ s.Storable ∧ s.Refines k now ∧ ∀ key, s.isDue now key = false := by
  obtain ⟨file, hfile, hload⟩ := h.snapshot
  obtain ⟨s, hs, hstorable, hbinding⟩ := hload settings hcheck hsettings now (Nat.le_refl now)
  have hsound := (Shard.sound_load hs).1
  have hlive : ∀ key, (s.binding? key).filter (·.isLive now) = s.binding? key := by
    intro key
    rw [hbinding, Keyspace.live?, Binding.filter_isLive_filter (Nat.le_refl now)]
  exact ⟨s, by rw [load_of_hasSnapshot hfile, hs], (Shard.sound_load hs).2, hstorable,
    ⟨hsound, fun key => (hlive key).trans (hbinding key)⟩,
    fun key => hsound.isDue_eq_false (hlive key)⟩

/-- What is done in a run: the request is answered by a shard that refines the stored keyspace, and
this shard is saved if it may have changed. -/
theorem exists_perform (h : Stores d dir dimension k now) {c : Start} {i : CommandLine.Invocation}
    {request : Request} {settings : Settings} (hle : now ≤ c.now)
    (haction : i.action = request.action)
    (hfound : ((CommandLine.settingsFor c.host i).run d).1 = .ok settings)
    (hdir : settings.dataDir = dir) (hdimension : settings.dimension = dimension) :
    ∃ s : Shard, s.dimension = dimension ∧ s.Storable ∧ s.Refines k c.now ∧
      s.serve c.now request = s.answer c.now request ∧
      (CommandLine.perform c.host i).run d =
        if request.saves then
          match save c.host dir ((s.answer c.now request).2.image c.now).1 d with
          | (.ok _, d') => ((s.answer c.now request).1.lines, d')
          | (.error fault, d') => (.error { fault }, d')
        else ((s.answer c.now request).1.lines, d) := by
  subst hdir
  have hsettings : (CommandLine.settingsFor c.host i).run d = (.ok settings, d) :=
    Prod.ext hfound (CommandLine.check_of_settingsFor (Prod.ext hfound rfl)).1
  have hcheck := (CommandLine.check_of_settingsFor hsettings).2
  obtain ⟨s, hload, hsame, hstorable, hrefines, hdue⟩ :=
    (h.later hle).exists_load hcheck hdimension c.random
  have hcount : s.vectorCount c.now < 2 ^ 64 := by
    rw [hrefines.sound.vectorCount_of_not_due hdue]
    exact hstorable.size
  refine ⟨s, (congrArg Settings.dimension hsame).trans hdimension, hstorable, hrefines,
    hrefines.sound.serve_of_not_due hdue request, ?_⟩
  rw [Start.host, CommandLine.run_perform hsettings h.opened hload, haction]
  exact CommandLine.run_act hcount request

/-- Where the files of a save can be written, no file fails a start, and it leaves all directories
where they are. -/
theorem asks (h : Stores d dir dimension k now) (hfiles : Savable d dir) {c : Start}
    {request : Request} (hle : now ≤ c.now) (horders : c.Orders dir dimension request) :
    c.Asks dir dimension request d ∧ d.SameDirectories (c.run d).2 := by
  obtain ⟨i, settings, hparse, haction, hfound, hdir, hdimension⟩ := horders
  replace hfound := congrArg Prod.fst (hfound d)
  obtain ⟨s, -, -, hs, -, hperform⟩ := h.exists_perform hle haction hfound hdir hdimension
  obtain ⟨d', hperform, hsame⟩ : ∃ d', (CommandLine.perform c.host i).run d =
      ((s.answer c.now request).1.lines, d') ∧ d.SameDirectories d' := by
    cases hsaves : request.saves with
    | false =>
      rw [hsaves] at hperform
      exact ⟨d, hperform, .refl d⟩
    | true =>
      obtain ⟨stats, d', hsave, -⟩ :=
        hfiles.exists_save c.now c.random ((s.answer c.now request).2.image c.now).1
      rw [hsaves, if_pos rfl, Start.host, hsave] at hperform
      exact ⟨d', hperform, .of_foldlM (foldlM_of_save hsave).2⟩
  refine ⟨⟨i, settings, hparse, haction, hfound, hdir, hdimension, fun doing why => ?_⟩, ?_⟩
  · rw [hperform]
    exact CommandLine.lines_ne_file hs.sound c.now request doing why
  · rw [Start.run_of_perform hparse hperform]
    exact hsame

/-- **One run.** It reports what a shard in memory answers that refines the stored keyspace, and the
directory stores afterwards what this shard then refines. -/
theorem run (h : Stores d dir dimension k now) (hdim : dimension.toNat < 2 ^ 32) {c : Start}
    {request : Request} (hle : now ≤ c.now) (hasks : c.Asks dir dimension request d)
    (hs : s.Refines k c.now) (hsd : s.dimension = dimension) :
    (c.run d).1 = (s.serve c.now request).1.outcome ∧
      Stores (c.run d).2 dir dimension (k.run dimension c.now request.op).2 c.now ∧
      (request.saves = false → (c.run d).2 = d) := by
  obtain ⟨i, settings, hparse, haction, hfound, hdir, hdimension, hfiles⟩ := hasks
  obtain ⟨loaded, hld, hstorable, hrefines, hserve, hperform⟩ :=
    h.exists_perform hle haction hfound hdir hdimension
  -- the loaded shard and the one in memory refine the same keyspace
  have hanswer : (loaded.answer c.now request).1 = (s.serve c.now request).1 := by
    rw [← hserve]
    exact hs.serve_congr hrefines (hld.trans hsd.symm) request
  have hnext := hrefines.answer request
  rw [hld] at hnext
  rw [hanswer] at hperform
  cases hsaves : request.saves with
  | false =>
    rw [hsaves] at hperform
    have hkeep : (k.run dimension c.now request.op).2 = k := by
      cases request <;> first | rfl | cases hsaves
    rw [Start.run_of_perform hparse hperform, hkeep]
    exact ⟨rfl, h.later hle, fun _ => rfl⟩
  | true =>
    rw [hsaves, if_pos rfl] at hperform
    rcases hsave : save c.host dir ((loaded.answer c.now request).2.image c.now).1 d with
      ⟨fault | stats, d'⟩
    · obtain ⟨why, rfl⟩ := exists_file_of_save hsave
      rw [hsave] at hperform
      exact absurd (congrArg Prod.fst hperform) (hfiles none why)
    · rw [hsave] at hperform
      have hlast : (loaded.answer c.now request).2.dimension = dimension :=
        (congrArg Settings.dimension hnext.1).trans hld
      have hstores := stores_of_save h.opened hnext.2
        (hstorable.mono hrefines.sound hnext.2.sound fun key b =>
          hrefines.sound.binding?_of_answer request) (hlast ▸ hdim) hsave
      rw [Start.run_of_perform hparse hperform, ← hlast]
      exact ⟨rfl, hlast ▸ hstores, nofun⟩

end Stores

end DataDir

namespace CommandLine

/-! ## Runs one after the other -/

variable {d : Disk} {dir : String} {dimension : UInt64} {k : Keyspace} {now : Nat} {s : Shard}

theorem asked_append {before after : List (Start × Request)} :
    Asked dir dimension d (before ++ after) ↔ Asked dir dimension d before ∧
      Asked dir dimension (runs d (before.map (·.1))).2 after := by
  induction before generalizing d with
  | nil => simp [Asked, runs]
  | cons turn before ih =>
    obtain ⟨c, request⟩ := turn
    rw [List.cons_append, Asked, Asked, ih, and_assoc]
    rfl

/-- **Runs succeed where the files of a save can be written.** -/
theorem asked_of_savable (hdim : dimension.toNat < 2 ^ 32) {turns : List (Start × Request)}
    (h : DataDir.Stores d dir dimension k now) (hfiles : DataDir.Savable d dir)
    (horders : ∀ turn ∈ turns, turn.1.Orders dir dimension turn.2)
    (htimes : (now :: turns.map (·.1.now)).Pairwise (· ≤ ·)) : Asked dir dimension d turns := by
  induction turns generalizing d k now with
  | nil => trivial
  | cons turn turns ih =>
    obtain ⟨c, request⟩ := turn
    obtain ⟨horder, horders⟩ := List.forall_mem_cons.1 horders
    obtain ⟨hle, htimes⟩ := List.pairwise_cons.1 htimes
    have hnow : now ≤ c.now := hle c.now (by simp)
    obtain ⟨hask, hsame⟩ := h.asks hfiles hnow horder
    obtain ⟨i, settings, -, -, hfound, -, hdimension⟩ := horder
    obtain ⟨s, -, hsettings, -, hs, -⟩ := (h.later hnow).exists_load
      (check_of_settingsFor (hfound d)).2 hdimension c.random
    have hsd : s.dimension = dimension := (congrArg Settings.dimension hsettings).trans hdimension
    exact ⟨hask, ih (h.run hdim hnow hask hs hsd).2.1 (hfiles.same hsame) horders htimes⟩

/-- **Any number of runs.** They report what a shard in memory answers that refines the stored
keyspace, and afterwards the directory stores what this shard refines. -/
theorem stores_runs (hdim : dimension.toNat < 2 ^ 32) {turns : List (Start × Request)}
    (h : DataDir.Stores d dir dimension k now) (hasked : Asked dir dimension d turns)
    (hs : s.Refines k now) (hsd : s.dimension = dimension)
    (htimes : (now :: turns.map (·.1.now)).Pairwise (· ≤ ·)) :
    (runs d (turns.map (·.1))).1 =
        (s.serveAll (turns.map fun turn => (turn.1.now, turn.2))).1.map Answer.outcome ∧
      (s.serveAll (turns.map fun turn => (turn.1.now, turn.2))).2.dimension = dimension ∧
      ∃ k', ∀ later, now ≤ later → (∀ turn ∈ turns, turn.1.now ≤ later) →
        DataDir.Stores (runs d (turns.map (·.1))).2 dir dimension k' later ∧
          (s.serveAll (turns.map fun turn => (turn.1.now, turn.2))).2.Refines k' later := by
  induction turns generalizing d s k now with
  | nil => exact ⟨rfl, hsd, k, fun later hle _ => ⟨h.later hle, hs.later hle⟩⟩
  | cons turn turns ih =>
    obtain ⟨c, request⟩ := turn
    obtain ⟨hask, hasked⟩ := hasked
    obtain ⟨hle, htimes⟩ := List.pairwise_cons.1 htimes
    have hnow : now ≤ c.now := hle c.now (by simp)
    obtain ⟨hreport, hstores, -⟩ := h.run hdim hnow hask (hs.later hnow) hsd
    have hserve := (hs.later hnow).serve request
    rw [hsd] at hserve
    obtain ⟨hreports, hdimension, k', hlater⟩ := ih hstores hasked hserve.2
      ((congrArg Settings.dimension hserve.1).trans hsd) htimes
    refine ⟨congrArg₂ List.cons hreport hreports, hdimension, k', fun later _ hall => ?_⟩
    exact hlater later (hall (c, request) (by simp)) fun turn hturn => hall turn (by simp [hturn])

/-- **Restarts are invisible.** A data directory has been opened, and it has no snapshot or one that
was written of some shard. Then its shard can be loaded, and whatever requests are made in starts of
the program one after the other, each run reports what this shard answers at the same time if it
stays in memory. For each of these runs the directory gives back a shard with the same live keys
that answers the same, and a search or a count changes no file. -/
theorem runs_eq_serveAll (hdim : dimension.toNat < 2 ^ 32) {settings : Settings}
    (hcheck : settings.check = .ok ()) (hsettings : settings.dimension = dimension) {d₀ : Disk}
    {random : StdGen} (hopen : DataDir.ensure (Disk.host now random) dir d₀ = (.ok (), d))
    (hfile : d.present (DataDir.snapshotPath dir) = false ∨
      ∃ (u : Shard) (t : Nat), u.Reached ∧ u.dimension = dimension ∧ u.Addressable ∧
        d.read (DataDir.snapshotPath dir) = .ok (u.image t).1.bytes)
    {turns : List (Start × Request)} (hasked : Asked dir dimension d turns)
    (htimes : (now :: turns.map (·.1.now)).Pairwise (· ≤ ·)) :
    ∃ s, DataDir.load (Disk.host now random) dir settings d = (.ok s, d) ∧
      (runs d (turns.map (·.1))).1 =
        (s.serveAll (turns.map fun turn => (turn.1.now, turn.2))).1.map Answer.outcome ∧
      ∀ before (c : Start) request after, turns = before ++ (c, request) :: after →
        let d₁ := (runs d (before.map (·.1))).2
        let s₁ := (s.serveAll (before.map fun turn => (turn.1.now, turn.2))).2
        (∀ settings' : Settings, settings'.check = .ok () → settings'.dimension = dimension →
          ∃ loaded, DataDir.load c.host dir settings' d₁ = (.ok loaded, d₁) ∧
            (loaded.serve c.now request).1 = (s₁.serve c.now request).1 ∧
            ∀ key, s₁.SameLive loaded c.now key) ∧
        (request.saves = false → (c.run d₁).2 = d₁) := by
  have hopened := DataDir.opened_of_ensure hopen
  obtain ⟨k, hstores⟩ : ∃ k, DataDir.Stores d dir dimension k 0 := by
    rcases hfile with habsent | ⟨u, t, hu, rfl, ha, hread⟩
    · exact ⟨{}, DataDir.stores_of_absent hopened habsent dimension⟩
    · exact DataDir.exists_stores_of_read hopened hread hu.sound hu.check hdim ha
  replace hstores := hstores.later (Nat.zero_le now)
  obtain ⟨s, hload, hsame, -, hs, -⟩ := hstores.exists_load hcheck hsettings random
  have hsd : s.dimension = dimension := (congrArg Settings.dimension hsame).trans hsettings
  refine ⟨s, hload, (stores_runs hdim hstores hasked hs hsd htimes).1, ?_⟩
  rintro before c request after rfl
  obtain ⟨hbefore, hask, -⟩ := asked_append.1 hasked
  rw [List.map_append, List.map_cons, ← List.cons_append] at htimes
  obtain ⟨hfirst, -, hle⟩ := List.pairwise_append.1 htimes
  obtain ⟨-, hdimension, k', hlater⟩ := stores_runs hdim hstores hbefore hs hsd hfirst
  obtain ⟨hstores', hs'⟩ := hlater c.now (hle now (by simp) c.now (by simp)) fun turn hturn =>
    hle turn.1.now (by simp only [List.mem_cons, List.mem_map]; exact .inr ⟨turn, hturn, rfl⟩)
      c.now (by simp)
  refine ⟨fun settings' hcheck' hsettings' => ?_, ?_⟩
  · obtain ⟨loaded, hloaded, hsame', -, hrefines, -⟩ :=
      hstores'.exists_load hcheck' hsettings' c.random
    have hdimension' := (congrArg Settings.dimension hsame').trans hsettings'
    exact ⟨loaded, hloaded, hs'.serve_congr hrefines (hdimension'.trans hdimension.symm) request,
      fun key => hs'.sameLive hrefines rfl⟩
  · exact (hstores'.run hdim (Nat.le_refl _) hask hs' hdimension).2.2

/-- The only vector of a data directory is flushed in one run and no longer counted in the next. -/
theorem runs_eq_serveAll_flushed : ∃ d, (runs d
    [⟨5, mkStdGen 0, [], ["--data-dir", ".", "--dimension", "1", "flush"]⟩,
      ⟨7, mkStdGen 0, [], ["--data-dir", ".", "--dimension", "1", "count"]⟩]).1 =
    [{ code := 0, stdout := "Flushed 1 vectors\n" },
      { code := 0, stdout := "0 vectors (0 keys total)\n" }] := by
  obtain ⟨u, hu, hset, hstorable, hsize, hdue, -⟩ := Shard.exists_single
  have hud : u.dimension = 1 := congrArg Settings.dimension hset
  obtain ⟨k, hk⟩ := Shard.exists_keyspace hu.sound 3
  have hdim : (1 : UInt64).toNat < 2 ^ 32 := by decide
  -- the vector is saved to an empty disk
  have hfiles : DataDir.Savable {} "." :=
    ⟨Disk.writable_empty rfl rfl, Disk.writable_empty rfl rfl, Disk.writable_empty rfl rfl⟩
  obtain ⟨stats, d, hsave, hfiles'⟩ := hfiles.exists_save 3 (mkStdGen 0) (u.image 3).1
  have hopened : DataDir.Opened {} "." := .inr rfl
  have hstores : DataDir.Stores d "." 1 k 3 := by
    have h := DataDir.stores_of_save hopened hk hstorable (hud ▸ hdim) hsave
    rwa [hud] at h
  let turns : List (Start × Request) :=
    [(⟨5, mkStdGen 0, [], ["--data-dir", ".", "--dimension", "1", "flush"]⟩, .flush),
      (⟨7, mkStdGen 0, [], ["--data-dir", ".", "--dimension", "1", "count"]⟩, .count)]
  have horders : ∀ turn ∈ turns, turn.1.Orders "." 1 turn.2 := by
    simp only [turns, List.forall_mem_cons, List.not_mem_nil, false_implies, implies_true, and_true]
    exact ⟨⟨⟨none, some ".", some 1, false, .flush⟩, { dataDir := ".", dimension := 1 }, rfl, rfl,
        fun _ => rfl, rfl, rfl⟩,
      ⟨⟨none, some ".", some 1, false, .count⟩, { dataDir := ".", dimension := 1 }, rfl, rfl,
        fun _ => rfl, rfl, rfl⟩⟩
  have htimes : (3 :: turns.map (·.1.now)).Pairwise (· ≤ ·) := by decide
  have hasked := asked_of_savable hdim hstores hfiles' horders htimes
  have hcheck : ({ dimension := 1 } : Settings).check = .ok () := rfl
  have hopen : DataDir.ensure (Disk.host 3 (mkStdGen 0)) "." d = (.ok (), d) :=
    DataDir.ensure_of_opened (hopened.save hsave)
  obtain ⟨s, hload, hruns, -⟩ := runs_eq_serveAll hdim hcheck rfl hopen
    (.inr ⟨u, 3, hu, hud, hstorable.addressable hu.sound, (DataDir.read_of_save hsave).2⟩) hasked
    htimes
  obtain ⟨s', hload', hsame, -, hs, -⟩ := hstores.exists_load hcheck rfl (mkStdGen 0)
  obtain rfl : s' = s := Except.ok.inj (congrArg Prod.fst (hload'.symm.trans hload))
  have hsd : s'.dimension = 1 := congrArg Settings.dimension hsame
  -- in memory it is the vector of the saved shard, and then nothing
  have hflushed : (s'.serve 5 .flush).1 = .flushed 1 := by
    rw [(hk.later (by decide)).serve_congr (hs.later (by decide)) (hsd.trans hud.symm),
      hu.sound.serve_of_not_due (hdue · 5), ← hsize]
    rfl
  have hcounted : ((s'.serve 5 .flush).2.serve 7 .count).1 = .counted 0 0 := by
    obtain ⟨hsettings, hempty⟩ := (hs.later (by decide : 3 ≤ 5)).serve .flush
    have hnew : Shard.new { dimension := 1 } =
      .ok { settings := { dimension := 1 }, store := Store.empty 1 } := rfl
    rw [((Shard.refines_new hnew).later (by decide)).serve_congr (hempty.later (by decide))
      ((congrArg Settings.dimension hsettings).trans hsd)]
    rfl
  refine ⟨d, hruns.trans ?_⟩
  simp only [turns, List.map, Shard.serveAll, hflushed, hcounted]
  rfl

end CommandLine

end Nearest

import Nearest.Proofs.Columns
import Nearest.Proofs.Keyspace

/-!
# The three tables of a shard

A shard keeps its vectors, its plain values and its deadlines in three tables. `Shard.Sound` says
that they are in step: the columns of the store are aligned, no key is in both the store and the
plain values, and only keys that hold something have a deadline.

As one map the tables are `Shard.binding?`. Each change to them is an instance of
`Shard.Binds s s' key b`: the tables of `s'` are in step, and as a map they are those of `s` but for
`key`, which has the binding `b`. Releasing, binding and settling a key are `Sound.release`,
`Sound.addRecord`, `Sound.setPlain`, `Sound.insertDeadline` and `Sound.settle`.
-/

namespace Nearest

namespace Store.Holds

variable {s : Store} {rows : List (String × List UInt32)}

theorem get?_remove (h : s.Holds rows) (key k : String) :
    (s.remove key).2.get? k = if k = key then none else s.get? k := by
  rw [(h.remove key).2.2.get?, h.get?, lookup_removeRow h.distinct]
  split <;> rfl

theorem get?_upsert (h : s.Holds rows) (key : String) {r : Record} (hr : r.dimension = s.width) :
    ∃ s' rows', s.upsert key r = .ok (s.contains key, s') ∧ s'.dimension = s.dimension ∧
      s'.Holds rows' ∧ ∀ k, s'.get? k = if k = key then some r else s.get? k := by
  obtain ⟨s', hs, hd, hh⟩ := h.upsert key hr
  refine ⟨s', _, hs, hd, hh, fun k => ?_⟩
  rw [hh.get?, h.get?, Table.lookup_insertInto]
  split <;> rfl

theorem contains_eq_isSome (h : s.Holds rows) (key : String) :
    s.contains key = (s.get? key).isSome := by
  rw [h.contains, h.get?, Option.isSome_map]

end Store.Holds

/-! ## One map out of three tables -/

/-- The binding of a key that the three tables have these entries for. -/
def Binding.ofTables (vector : Option Record) (plain : Option Bytes) (deadline : Option Nat) :
    Option Binding :=
  match vector, plain with
  | some r, _ => some ⟨.vector r, deadline⟩
  | none, some value => some ⟨.plain value, deadline⟩
  | none, none => none

namespace Shard

/-- What a key holds, due or not, and when it expires. -/
def binding? (s : Shard) (key : String) : Option Binding :=
  Binding.ofTables (s.store.get? key) (s.plain.get? key) (s.deadlines.get? key)

/-- The tables of a shard are in step. -/
structure Sound (s : Shard) : Prop where
  columns : ∃ rows, s.store.Holds rows
  dimension : s.store.dimension = s.dimension
  plain : s.plain.Distinct
  deadlines : s.deadlines.Distinct
  apart : ∀ key, s.store.get? key = none ∨ s.plain.get? key = none
  resident : ∀ key, s.store.get? key = none → s.plain.get? key = none →
    s.deadlines.get? key = none

/-- The tables of the second shard are in step and are those of the first but for the binding of a
key. -/
structure Binds (s s' : Shard) (key : String) (b : Option Binding) : Prop where
  sound : s'.Sound
  settings : s'.settings = s.settings
  binding? : ∀ k, s'.binding? k = if k = key then b else s.binding? k

/-- Of two changes at one key the second stands. -/
theorem Binds.trans {s s' s'' : Shard} {key : String} {b c : Option Binding}
    (h : s.Binds s' key b) (h' : s'.Binds s'' key c) : s.Binds s'' key c where
  sound := h'.sound
  settings := h'.settings.trans h.settings
  binding? k := by
    rw [h'.binding?, h.binding?]
    split <;> rfl

theorem sound_empty (settings : Settings) :
    Sound { settings, store := Store.empty settings.dimension } :=
  ⟨⟨[], Store.holds_empty _⟩, rfl, Table.distinct_empty, Table.distinct_empty,
    fun _ => .inr rfl, fun _ _ _ => rfl⟩

theorem binding?_empty (settings : Settings) (key : String) :
    Shard.binding? { settings, store := Store.empty settings.dimension } key = none := by
  rw [Shard.binding?, (Store.holds_empty _).get?]
  rfl

variable {s : Shard}

/-- A new shard is empty, and its settings are usable. -/
theorem eq_of_new {settings : Settings} (h : new settings = .ok s) :
    settings.check = .ok () ∧ s = { settings, store := Store.empty settings.dimension } := by
  unfold new at h
  split at h <;> cases h
  exact ⟨‹_›, rfl⟩

theorem sound_new {settings : Settings} (h : new settings = .ok s) : s.Sound := by
  obtain ⟨-, rfl⟩ := eq_of_new h
  exact sound_empty settings

namespace Sound

/-! ## Reading the map -/

theorem holds_eq (h : s.Sound) (key : String) : s.holds key = (s.binding? key).isSome := by
  obtain ⟨rows, hrows⟩ := h.columns
  rw [holds, hrows.contains_eq_isSome, Table.contains_eq_isSome, Shard.binding?]
  cases s.store.get? key <;> cases s.plain.get? key <;> rfl

theorem vector_eq (key : String) : s.store.get? key = (s.binding? key).bind (·.vector?) := by
  unfold Shard.binding?
  cases s.store.get? key <;> cases s.plain.get? key <;> rfl

theorem plain_eq (h : s.Sound) (key : String) :
    s.plain.get? key = (s.binding? key).bind (·.plain?) := by
  have := h.apart key
  unfold Shard.binding?
  cases hs : s.store.get? key <;> cases hp : s.plain.get? key <;> first | rfl | simp_all

theorem deadline_eq (h : s.Sound) (key : String) :
    s.deadlines.get? key = (s.binding? key).bind (·.deadline) := by
  have := h.resident key
  unfold Shard.binding?
  cases hs : s.store.get? key <;> cases hp : s.plain.get? key <;> first | rfl | exact this hs hp

/-- A key is due iff it has a binding that is not live any more. -/
theorem isDue_eq (h : s.Sound) (now : Nat) (key : String) :
    s.isDue now key = (s.binding? key).any fun b => !b.isLive now := by
  rw [isDue, h.deadline_eq]
  cases s.binding? key with
  | none => rfl
  | some b =>
    cases hd : b.deadline with
    | none => simp [Binding.isLive, hd]
    | some d =>
      rw [Option.bind_some, hd, Option.any_some, Option.any_some, Binding.isLive, hd,
        Option.all_some, ← decide_not]
      exact decide_eq_decide.2 Nat.not_lt.symm

theorem isDue_eq_false (h : s.Sound) {now : Nat} {key : String}
    (hlive : (s.binding? key).filter (·.isLive now) = s.binding? key) :
    s.isDue now key = false := by
  rw [h.isDue_eq, ← hlive]
  cases hb : s.binding? key with
  | none => rfl
  | some b => cases hl : b.isLive now <;> simp [Option.filter, hl]

theorem filter_isLive (h : s.Sound) (now : Nat) (key : String) :
    (s.binding? key).filter (·.isLive now) = if s.isDue now key then none else s.binding? key := by
  rw [h.isDue_eq]
  cases s.binding? key with
  | none => rfl
  | some b => cases hl : b.isLive now <;> simp [Option.filter, hl]

/-- The live part of the vectors, as a part of the map. -/
theorem vector?_eq (h : s.Sound) (now : Nat) (key : String) :
    s.vector? now key = ((s.binding? key).filter (·.isLive now)).bind (·.vector?) := by
  rw [h.filter_isLive, Shard.vector?, vector_eq]
  split <;> rfl

theorem plain?_eq (h : s.Sound) (now : Nat) (key : String) :
    s.plain? now key = ((s.binding? key).filter (·.isLive now)).bind (·.plain?) := by
  rw [h.filter_isLive, Shard.plain?, h.plain_eq]
  split <;> rfl

theorem deadline?_eq (h : s.Sound) (now : Nat) (key : String) :
    s.deadline? now key = ((s.binding? key).filter (·.isLive now)).bind (·.deadline) := by
  rw [Shard.deadline?, h.deadline_eq]
  cases s.binding? key with
  | none => rfl
  | some b => cases hd : b.deadline <;> simp [Binding.isLive, Option.filter, hd]; split <;> simp [*]

/-! ## Changing the map -/

/-- A change of the tables at one key, from what it does to each of them. -/
theorem binds (h : s.Sound) (s' : Shard) {key : String} {v : Option Record} {p : Option Bytes}
    {d : Option Nat} (columns : ∃ rows, s'.store.Holds rows)
    (dimension : s'.store.dimension = s.store.dimension) (settings : s'.settings = s.settings)
    (plain : s'.plain.Distinct) (deadlines : s'.deadlines.Distinct)
    (hv : ∀ k, s'.store.get? k = if k = key then v else s.store.get? k)
    (hp : ∀ k, s'.plain.get? k = if k = key then p else s.plain.get? k)
    (hd : ∀ k, s'.deadlines.get? k = if k = key then d else s.deadlines.get? k)
    (apart : v = none ∨ p = none) (resident : v = none → p = none → d = none) :
    s.Binds s' key (Binding.ofTables v p d) where
  sound := by
    refine ⟨columns, ?_, plain, deadlines, fun k => ?_, fun k => ?_⟩
    · rw [dimension, h.dimension, Shard.dimension, Shard.dimension, settings]
    · rw [hv, hp]
      split
      · exact apart
      · exact h.apart k
    · rw [hv, hp, hd]
      split
      · exact resident
      · exact h.resident k
  settings := settings
  binding? k := by
    rw [Shard.binding?, hv, hp, hd]
    split <;> rfl

/-- Releasing a key takes away whatever it holds, and tells whether it held anything. -/
theorem release (h : s.Sound) (key : String) :
    (s.release key).1 = s.holds key ∧ s.Binds (s.release key).2 key none := by
  obtain ⟨rows, hrows⟩ := h.columns
  have hr := hrows.remove key
  refine ⟨congrArg (· || s.plain.contains key) hr.1, ?_⟩
  exact h.binds (s.release key).2 ⟨_, hr.2.2⟩ hr.2.1 rfl (h.plain.erase key)
    (h.deadlines.erase key) (hrows.get?_remove key) (s.plain.get?_erase key)
    (s.deadlines.get?_erase key) (.inl rfl) fun _ _ => rfl

/-- Binding a record leaves a key with the record and without a deadline. -/
theorem addRecord (h : s.Sound) (key : String) {r : Record}
    (hr : r.dimension = s.dimension.toNat) :
    ∃ s', s.addRecord key r = .ok s' ∧ s.Binds s' key (some ⟨.vector r, none⟩) := by
  obtain ⟨rows, hrows⟩ := h.columns
  rw [← h.dimension] at hr
  obtain ⟨store, rows', hup, hdim, hstore, hget⟩ := hrows.get?_upsert key hr
  let s' := { s with store, plain := s.plain.erase key, deadlines := s.deadlines.erase key }
  refine ⟨s', by rw [Shard.addRecord, hup], ?_⟩
  exact h.binds s' ⟨_, hstore⟩ hdim rfl (h.plain.erase key) (h.deadlines.erase key) hget
    (s.plain.get?_erase key) (s.deadlines.get?_erase key) (.inr rfl) nofun

theorem addRecord_error (h : s.Sound) (key : String) {r : Record}
    (hr : r.dimension ≠ s.dimension.toNat) :
    s.addRecord key r = .error (.vectorSize s.dimension (UInt64.ofNat r.dimension * 4)) := by
  have hw : r.dimension ≠ s.store.width := by rwa [Store.width, h.dimension]
  rw [Shard.addRecord, Store.upsert, if_pos hw, h.dimension]

/-- Binding a plain value leaves a key with the value and without a deadline. -/
theorem setPlain (h : s.Sound) (key : String) (value : Bytes) :
    s.Binds (s.setPlain key value) key (some ⟨.plain value, none⟩) := by
  obtain ⟨rows, hrows⟩ := h.columns
  have hr := hrows.remove key
  exact h.binds (s.setPlain key value) ⟨_, hr.2.2⟩ hr.2.1 rfl (h.plain.insert key value)
    (h.deadlines.erase key) (hrows.get?_remove key) (s.plain.get?_insert key · value)
    (s.deadlines.get?_erase key) (.inl rfl) (by simp)

/-- A key that holds something can be given a deadline. -/
theorem insertDeadline (h : s.Sound) {key : String} {b : Binding} (hb : s.binding? key = some b)
    (deadline : Nat) :
    s.Binds { s with deadlines := s.deadlines.insert key deadline } key
      (some { b with deadline := some deadline }) := by
  have hres : s.store.get? key = none → s.plain.get? key = none → some deadline = none := by
    intro hv hp
    rw [Shard.binding?, hv, hp] at hb
    cases hb
  have hb' : some { b with deadline := some deadline } =
      Binding.ofTables (s.store.get? key) (s.plain.get? key) (some deadline) := by
    unfold Shard.binding? at hb
    cases hv : s.store.get? key <;> cases hp : s.plain.get? key <;>
      simp only [hv, hp, Binding.ofTables, Option.some_inj] at hb ⊢ <;> cases hb <;> rfl
  rw [hb']
  exact h.binds _ h.columns rfl rfl h.plain (h.deadlines.insert key deadline)
    (fun k => by split <;> simp [*]) (fun k => by split <;> simp [*])
    (s.deadlines.get?_insert key · deadline) (h.apart key) hres

/-- Settling a key leaves it with what is live of it. -/
theorem settle (h : s.Sound) (now : Nat) (key : String) :
    s.Binds (s.settle now key) key ((s.binding? key).filter (·.isLive now)) := by
  rw [h.filter_isLive, Shard.settle]
  split
  · exact (h.release key).2
  · exact ⟨h, rfl, fun k => by split <;> simp [*]⟩

/-- Releasing keys one after the other takes away what they hold. -/
theorem releaseAll (h : s.Sound) (keys : List String) :
    (keys.foldl (fun s key => (s.release key).2) s).Sound ∧
      (keys.foldl (fun s key => (s.release key).2) s).settings = s.settings ∧
      ∀ k, (keys.foldl (fun s key => (s.release key).2) s).binding? k =
        if k ∈ keys then none else s.binding? k := by
  induction keys generalizing s with
  | nil => exact ⟨h, rfl, fun k => by simp⟩
  | cons key keys ih =>
    have hkey := (h.release key).2
    obtain ⟨hsound, hsettings, hbinding⟩ := ih hkey.sound
    refine ⟨hsound, hsettings.trans hkey.settings, fun k => ?_⟩
    rw [List.foldl_cons, hbinding, hkey.binding?]
    by_cases hk : k = key <;> simp [hk]

theorem mem_due (h : s.Sound) {now : Nat} {key : String} :
    key ∈ s.due now ↔ s.isDue now key := by
  rw [due, h.deadlines.mem_keysWhere, isDue]

theorem nodup_due (h : s.Sound) (now : Nat) : (s.due now).Nodup :=
  h.deadlines.nodup_keysWhere _

/-- Purging leaves every key with what is live of it. -/
theorem purge (h : s.Sound) (now : Nat) :
    (s.purge now).2.Sound ∧ (s.purge now).2.settings = s.settings ∧
      ∀ k, (s.purge now).2.binding? k = (s.binding? k).filter (·.isLive now) := by
  obtain ⟨hsound, hsettings, hbinding⟩ := h.releaseAll (s.due now)
  refine ⟨hsound, hsettings, fun k => ?_⟩
  rw [h.filter_isLive]
  exact (hbinding k).trans (if_congr h.mem_due rfl rfl)

theorem due_eq_nil (h : s.Sound) {now : Nat} (hdue : ∀ key, s.isDue now key = false) :
    s.due now = [] :=
  List.eq_nil_iff_forall_not_mem.2 fun key hkey => by
    rw [h.mem_due, hdue key] at hkey
    cases hkey

/-- A shard in which all is live has nothing to release. -/
theorem purge_of_not_due (h : s.Sound) {now : Nat} (hdue : ∀ key, s.isDue now key = false) :
    s.purge now = (0, s) := by
  rw [Shard.purge, h.due_eq_nil hdue]
  rfl

/-- After a purge all is live. -/
theorem isDue_purge (h : s.Sound) (now : Nat) (key : String) :
    (s.purge now).2.isDue now key = false := by
  obtain ⟨hs, -, hbinding⟩ := h.purge now
  refine hs.isDue_eq_false ?_
  rw [hbinding, Option.filter_filter]
  simp

/-- What is live of the vectors is what a purge leaves of them. -/
theorem vector?_eq_purge (h : s.Sound) (now : Nat) (key : String) :
    s.vector? now key = (s.purge now).2.store.get? key := by
  rw [h.vector?_eq, ← (h.purge now).2.2, ← vector_eq]

theorem deadline?_eq_purge (h : s.Sound) (now : Nat) (key : String) :
    s.deadline? now key = (s.purge now).2.deadlines.get? key := by
  rw [h.deadline?_eq, ← (h.purge now).2.2, ← (h.purge now).1.deadline_eq]

/-- Flushing leaves nothing. -/
theorem flush (h : s.Sound) :
    s.flush.2.Sound ∧ s.flush.2.settings = s.settings ∧ ∀ k, s.flush.2.binding? k = none := by
  have hdim : s.store.dimension = s.settings.dimension := h.dimension
  have : s.flush.2 = { settings := s.settings, store := Store.empty s.settings.dimension } := by
    rw [Shard.flush, Store.clear, hdim]
  rw [this]
  exact ⟨sound_empty _, rfl, binding?_empty _⟩

end Sound

/-- A binding and then a deadline for it are one change. -/
theorem Binds.insertDeadline {s' : Shard} {key : String} {b : Binding}
    (hb : s.Binds s' key (some b)) (deadline : Nat) :
    s.Binds { s' with deadlines := s'.deadlines.insert key deadline } key
      (some { b with deadline := some deadline }) :=
  hb.trans (hb.sound.insertDeadline ((hb.binding? key).trans (if_pos rfl)) deadline)

end Shard

end Nearest

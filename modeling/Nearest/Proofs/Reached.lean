import Nearest.Proofs.Refinement

/-!
# Shards that operations lead to

The tables of every shard that is reached are in step (`Shard.Reached.sound`), and its settings are
usable (`Shard.Reached.check`). For the operations on keys this is the step of the refinement, seen
from a keyspace that holds what the shard holds (`Shard.exists_keyspace`). A snapshot is read entry
by entry, so `Snapshot.walk_invariant` carries over what its sink preserves.

The other way round, a shard is reached for every keyspace of bindings that are possible
(`Shard.exists_reached`): its keys are bound one after the other.
-/

namespace Nearest

/-! ## A keyspace for every shard -/

/-- Looking up a key in the graph of a partial function on some keys. -/
theorem lookup_graph {α : Type} (keys : List String) (f : String → Option α) (key : String) :
    (keys.filterMap fun k => (f k).map (k, ·)).lookup key = if key ∈ keys then f key else none := by
  induction keys with
  | nil => simp
  | cons k keys ih =>
    cases hf : f k with
    | none =>
      rw [List.filterMap_cons_none (by simp [hf]), ih]
      by_cases hk : key = k <;> simp [hk, hf]
    | some a =>
      rw [List.filterMap_cons_some (by rw [hf]; rfl), lookup_cons_ite, ih]
      by_cases hk : key = k <;> simp [hk, hf]

namespace Shard

variable {s : Shard}

theorem exists_keyspace (h : s.Sound) (now : Nat) : ∃ k : Keyspace, s.Refines k now := by
  obtain ⟨rows, hrows⟩ := h.columns
  let keys := rows.map (·.1) ++ s.plain.toList.map (·.1)
  refine ⟨⟨keys.filterMap fun key => (s.binding? key).map (key, ·)⟩, h, fun key => ?_⟩
  rw [Keyspace.live?, Table.get?, lookup_graph]
  split
  · rfl
  · rename_i hkey
    obtain ⟨hv, hp⟩ := not_or.1 (mt List.mem_append.2 hkey)
    rw [binding?, hrows.get?, lookup_eq_none_iff_notMem.2 hv, Table.get?,
      lookup_eq_none_iff_notMem.2 hp]
    rfl

/-- Every operation leaves the tables in step, and the settings as they are. -/
theorem Sound.run (h : s.Sound) (now : Nat) (op : Op) :
    (s.run now op).2.Sound ∧ (s.run now op).2.settings = s.settings := by
  obtain ⟨k, hk⟩ := exists_keyspace h now
  have := hk.run op
  exact ⟨this.refines.sound, this.settings⟩

theorem Sound.search (h : s.Sound) (now : Nat) (k : Int) (filter : Option String) (query : Bytes) :
    (s.search now k filter query).2.Sound ∧
      (s.search now k filter query).2.settings = s.settings := by
  obtain ⟨hs, hsettings, -⟩ := h.purge now
  unfold Shard.search
  split
  · exact ⟨h, rfl⟩
  · exact ⟨hs, hsettings⟩

end Shard

/-! ## Reading snapshots -/

namespace Snapshot

variable {σ : Type} {sink : Sink σ} {P : σ → Prop}

theorem handOut_invariant (hsink : ∀ state e, P state → P (sink state e).2) {state : σ}
    (h : P state) (body : Bytes) (left index : Nat) :
    P (handOut sink state body left index).2 := by
  induction left generalizing state body index with
  | zero => exact h
  | succ left ih =>
    unfold handOut
    split
    · exact h
    · rename_i entry rest _
      have hnext := hsink state entry h
      split
      · rename_i heq
        rwa [heq] at hnext
      · rename_i heq
        rw [heq] at hnext
        exact ih hnext rest (index + 1)

theorem walk_invariant (hsink : ∀ state e, P state → P (sink state e).2) {state : σ}
    (h : P state) (file : Bytes) (dimension : UInt64) :
    P (walk sink state file dimension).2 := by
  unfold walk
  split
  · exact h
  · rename_i header rest _
    have hend := handOut_invariant hsink h rest header.count.toNat 0
    split <;> rename_i heq <;> rwa [heq] at hend

end Snapshot

namespace Shard

variable {s : Shard}

theorem Sound.receive (h : s.Sound) (now : Nat) (e : Snapshot.Entry) :
    (receive now s e).2.Sound ∧ (receive now s e).2.settings = s.settings := by
  unfold Shard.receive
  split
  · exact ⟨h, rfl⟩
  split
  · exact ⟨h, rfl⟩
  rename_i r _
  by_cases hr : r.dimension = s.dimension.toNat
  · obtain ⟨s', hs', hb⟩ := h.addRecord e.key hr
    rw [hs']
    cases e.expiresAt with
    | none => exact ⟨hb.sound, hb.settings⟩
    | some expiry =>
      have hd := hb.insertDeadline expiry.toNat
      exact ⟨hd.sound, hd.settings⟩
  · rw [h.addRecord_error e.key hr]
    exact ⟨h, rfl⟩

theorem sound_load {settings : Settings} {now : Nat} {file : Option Bytes}
    (h : load settings now file = .ok s) : s.Sound ∧ s.settings = settings := by
  unfold load at h
  split at h
  · cases h
  rename_i s₀ hnew
  have h₀ : s₀.Sound ∧ s₀.settings = settings := ⟨sound_new hnew, settings_new hnew⟩
  split at h
  · cases h
    exact h₀
  · rename_i bytes
    have hwalk := Snapshot.walk_invariant (P := fun s : Shard => s.Sound ∧ s.settings = settings)
      (fun s e hs => ⟨(hs.1.receive now e).1, (hs.1.receive now e).2.trans hs.2⟩) h₀ bytes
      settings.dimension
    split at h <;> rename_i heq <;> cases h
    rwa [heq] at hwalk

theorem check_of_load {settings : Settings} {now : Nat} {file : Option Bytes}
    (h : load settings now file = .ok s) : settings.check = .ok () := by
  unfold load at h
  split at h
  · cases h
  · exact (eq_of_new ‹_›).1

/-! ## Every shard -/

/-- The tables of a shard that is reached are in step, and its settings are usable. -/
theorem Reached.sound_and_check (h : s.Reached) : s.Sound ∧ s.settings.check = .ok () := by
  induction h with
  | new h => exact ⟨sound_new h, settings_new h ▸ (eq_of_new h).1⟩
  | load h => exact ⟨(sound_load h).1, (sound_load h).2 ▸ check_of_load h⟩
  | run _ now op ih => exact ⟨(ih.1.run now op).1, (ih.1.run now op).2 ▸ ih.2⟩
  | search _ now k filter query ih =>
    have hs := ih.1.search now k filter query
    exact ⟨hs.1, hs.2 ▸ ih.2⟩
  | image _ now ih => exact ⟨(ih.1.purge now).1, (ih.1.purge now).2.1 ▸ ih.2⟩
  | @reload s _ now file ih =>
    unfold Shard.reload
    split
    · rename_i hload
      obtain ⟨hs, hsettings⟩ := sound_load hload
      exact ⟨hs, hsettings ▸ ih.2⟩
    · exact ih

theorem Reached.sound (h : s.Reached) : s.Sound :=
  h.sound_and_check.1

theorem Reached.check (h : s.Reached) : s.settings.check = .ok () :=
  h.sound_and_check.2

end Shard

/-! ## A shard for every keyspace -/

/-- A key can be given this to hold in a shard of a dimension. A vector is of the dimension, and a
deadline is one that a time to live can lead to. -/
def Binding.Possible (dimension : UInt64) (b : Binding) : Prop :=
  (∀ r ∈ b.vector?, r.dimension = dimension.toNat) ∧ ∀ d ∈ b.deadline, 0 < d ∧ d ≤ lastMoment

instance (dimension : UInt64) (b : Binding) : Decidable (b.Possible dimension) :=
  inferInstanceAs (Decidable (_ ∧ _))

namespace Shard

variable {s : Shard}

/-- A key without a deadline can be given one at the beginning of time. -/
theorem Sound.run_expire (h : s.Sound) {key : String} {value : Value} {d : Nat}
    (hb : s.binding? key = some ⟨value, none⟩) (hpos : 0 < d) (hle : d ≤ lastMoment) :
    s.Binds (s.run 0 (.expire key d)).2 key (some ⟨value, some d⟩) := by
  have hsettle : s.settle 0 key = s := by
    have hdue : s.isDue 0 key = false := by
      rw [h.isDue_eq, hb]
      rfl
    rw [Shard.settle, hdue]
    rfl
  have hholds : s.holds key = true := by
    rw [h.holds_eq, hb]
    rfl
  have hdeadline : deadlineAfter 0 d = .ok d := by
    rw [deadlineAfter, Nat.zero_add, if_pos hle]
  have hrun : (s.run 0 (.expire key d)).2 =
      { s with deadlines := s.deadlines.insert key d } := by
    simp [Shard.run, Shard.expire, hsettle, hholds, Nat.ne_of_gt hpos, hdeadline]
  rw [hrun]
  exact h.insertDeadline hb d

/-- A key can be given whatever is possible: its value first, and then a deadline. -/
theorem Reached.exists_binds (h : s.Reached) (key : String) {b : Binding}
    (hb : b.Possible s.dimension) : ∃ s' : Shard, s'.Reached ∧ s.Binds s' key (some b) := by
  obtain ⟨value, deadline⟩ := b
  have hvalue : ∃ s₁ : Shard, s₁.Reached ∧ s.Binds s₁ key (some ⟨value, none⟩) := by
    cases value with
    | vector r =>
      obtain ⟨s₁, hadd, hbinds⟩ := h.sound.addRecord key (hb.1 r rfl)
      have hrun := h.run 0 (.addRecord key r)
      rw [Shard.run, hadd] at hrun
      exact ⟨s₁, hrun, hbinds⟩
    | plain value => exact ⟨_, h.run 0 (.setPlain key value), h.sound.setPlain key value⟩
  obtain ⟨s₁, h₁, hbinds⟩ := hvalue
  cases deadline with
  | none => exact ⟨s₁, h₁, hbinds⟩
  | some d =>
    obtain ⟨hpos, hle⟩ := hb.2 d rfl
    have hkey := (hbinds.binding? key).trans (if_pos rfl)
    exact ⟨_, h₁.run 0 (.expire key d), hbinds.trans (hbinds.sound.run_expire hkey hpos hle)⟩

/-- **Every keyspace is that of a shard**, as long as its bindings are possible. -/
theorem exists_reached {settings : Settings} (hcheck : settings.check = .ok ()) (k : Keyspace)
    (hk : ∀ row ∈ k.toList, row.2.Possible settings.dimension) :
    ∃ s : Shard, s.Reached ∧ s.settings = settings ∧ ∀ key, s.binding? key = k.get? key := by
  obtain ⟨rows⟩ := k
  -- a lookup finds the first row of a key, so the first row is bound last
  induction rows with
  | nil =>
    have hnew : new settings = .ok { settings, store := Store.empty settings.dimension } := by
      rw [new, hcheck]
    exact ⟨_, .new hnew, rfl, binding?_empty settings⟩
  | cons row rows ih =>
    obtain ⟨hrow, hrows⟩ := List.forall_mem_cons.1 hk
    obtain ⟨s, hs, rfl, hbinding⟩ := ih hrows
    obtain ⟨s', hs', hbinds⟩ := hs.exists_binds row.1 hrow
    refine ⟨s', hs', hbinds.settings, fun key => ?_⟩
    rw [hbinds.binding?, hbinding]
    exact (lookup_cons_ite rows row.1 key row.2).symm

end Shard

end Nearest

import Mathlib.Data.List.Count
import Nearest.Proofs.Tables

/-!
# Shards refine keyspaces

A shard answers every operation as the reference of `Nearest.Proofs.Keyspace` does, whenever it
happens to release the keys that are due.

* `Shard.Refines s k now` relates a shard to a keyspace: the tables are in step, and what is live of
  the shard is what is live of the keyspace. It lasts while time passes (`Refines.later`).
* `Refines.run` is the step: the same outcome, related states afterwards.
* `Shard.play_refines_keyspace` is the whole run.
-/

namespace Nearest

theorem Binding.isLive_of_le {b : Binding} {now later : Nat} (hle : now ≤ later)
    (h : b.isLive later) : b.isLive now := by
  cases hd : b.deadline with
  | none => simp [isLive, hd]
  | some d =>
    simp only [isLive, hd, Option.all_some, decide_eq_true_eq] at h ⊢
    omega

/-- What is live later is what is live later of what is live now. -/
theorem Binding.filter_isLive_filter {now later : Nat} (hle : now ≤ later) (o : Option Binding) :
    (o.filter (·.isLive now)).filter (·.isLive later) = o.filter (·.isLive later) := by
  rw [Option.filter_filter]
  congr 1
  funext b
  rw [Bool.and_eq_right_iff_imp]
  exact isLive_of_le hle

/-- Without repetitions an element is counted once. -/
theorem countP_of_mem_nodup {α : Type} [DecidableEq α] {l : List α} {a : α} (h : l.Nodup)
    (ha : a ∈ l) (p : α → Bool) :
    l.countP p = (if p a then 1 else 0) + l.countP fun x => decide (x ≠ a) && p x := by
  have hperm := List.perm_cons_erase ha
  have hout : ∀ x ∈ l.erase a, x ≠ a := fun x hx e => by
    rw [e] at hx
    exact h.not_mem_erase hx
  rw [hperm.countP_eq, hperm.countP_eq, List.countP_cons, List.countP_cons,
    List.countP_congr (q := fun x => decide (x ≠ a) && p x) fun x hx => by simp [hout x hx]]
  simp
  omega

namespace Shard

/-- The tables of a shard are in step, and what is live of it is what is live of a keyspace. -/
structure Refines (s : Shard) (k : Keyspace) (now : Nat) : Prop where
  sound : s.Sound
  live : ∀ key, (s.binding? key).filter (·.isLive now) = k.live? now key

/-- A step of a shard and one of a keyspace have the same outcome and lead to related states. -/
structure Matches (s : Shard) (now : Nat) (a : Outcome × Shard) (b : Outcome × Keyspace) :
    Prop where
  outcome : a.1 = b.1
  settings : a.2.settings = s.settings
  refines : a.2.Refines b.2 now

variable {s : Shard} {k : Keyspace} {now : Nat}

theorem Sound.delete_cons (h : s.Sound) (now : Nat) (key : String) (keys : List String) :
    s.delete now (key :: keys) =
      ((if ((s.binding? key).filter (·.isLive now)).isSome then 1 else 0) +
          ((s.release key).2.delete now keys).1,
        ((s.release key).2.delete now keys).2) := by
  have hrel := (h.release key).1
  rw [h.holds_eq] at hrel
  rw [h.filter_isLive, delete]
  cases s.isDue now key
  · cases hb : (s.binding? key).isSome <;> simp [hrel, hb, Nat.add_comm]
  · simp

/-! ## The relation -/

namespace Refines

theorem later (h : s.Refines k now) {later : Nat} (hle : now ≤ later) : s.Refines k later where
  sound := h.sound
  live key := by
    rw [← Binding.filter_isLive_filter hle, h.live, Keyspace.live?, Keyspace.live?,
      Binding.filter_isLive_filter hle]

/-- What is live of a key is what the keyspaces have of it. -/
theorem sameLive (h : s.Refines k now) {s' : Shard} {k' : Keyspace} (h' : s'.Refines k' now)
    {key : String} (heq : k'.live? now key = k.live? now key) : s.SameLive s' now key where
  vector := by rw [h.sound.vector?_eq, h'.sound.vector?_eq, h.live, h'.live, heq]
  plain := by rw [h.sound.plain?_eq, h'.sound.plain?_eq, h.live, h'.live, heq]
  deadline := by rw [h.sound.deadline?_eq, h'.sound.deadline?_eq, h.live, h'.live, heq]

/-- The same change on both sides, as far as it is live. -/
theorem change (h : s.Refines k now) {s' : Shard} {k' : Keyspace} {key : String}
    {b c : Option Binding} (hb : s.Binds s' key b)
    (hc : ∀ x, k'.get? x = if x = key then c else k.get? x)
    (hbc : b.filter (·.isLive now) = c.filter (·.isLive now)) : s'.Refines k' now where
  sound := hb.sound
  live x := by
    rw [hb.binding?, Keyspace.live?, hc]
    split
    · exact hbc
    · exact h.live x

/-- A change that leaves what is live. -/
theorem keep (h : s.Refines k now) {s' : Shard} {key : String} {b : Option Binding}
    (hb : s.Binds s' key b) (hlive : b.filter (·.isLive now) = k.live? now key) :
    s'.Refines k now :=
  h.change hb (fun x => by split <;> simp [*]) hlive

/-- Settling a key leaves it with what the keyspace has of it. -/
theorem settle (h : s.Refines k now) (key : String) :
    (s.settle now key).Refines k now ∧ (s.settle now key).settings = s.settings ∧
      (s.settle now key).binding? key = k.live? now key := by
  have hb := h.sound.settle now key
  rw [h.live] at hb
  refine ⟨h.keep hb ?_, hb.settings, ?_⟩
  · rw [Keyspace.live?, Binding.filter_isLive_filter (Nat.le_refl _)]
  · rw [hb.binding?, if_pos rfl]

/-- Releasing a key is erasing it. -/
theorem release (h : s.Refines k now) (key : String) :
    (s.release key).2.Refines (k.erase key) now :=
  h.change (h.sound.release key).2 (k.get?_erase key) rfl

/-! ## The operations -/

/-- Binding a record, with a deadline or without one. -/
theorem addRecord (h : s.Refines k now) (key : String) (r : Record) :
    s.Matches now (s.run now (.addRecord key r)) (k.bind s.dimension key r) := by
  rw [run, Keyspace.bind]
  by_cases hr : r.dimension = s.dimension.toNat
  · obtain ⟨s', hs', hb⟩ := h.sound.addRecord key hr
    rw [hs', if_pos hr]
    exact ⟨rfl, hb.settings, h.change hb (k.get?_insert key · _) rfl⟩
  · rw [h.sound.addRecord_error key hr, if_neg hr]
    exact ⟨rfl, rfl, h⟩

theorem add (h : s.Refines k now) (key : String) (payload : Bytes) :
    s.Matches now (s.run now (.add key payload)) (k.run s.dimension now (.add key payload)) := by
  rw [run, Keyspace.run, Shard.add]
  cases Record.ofBytes payload s.dimension with
  | ok r => exact h.addRecord key r
  | error e => exact ⟨rfl, rfl, h⟩

theorem setPlain (h : s.Refines k now) (key : String) (value : Bytes) :
    s.Matches now (s.run now (.setPlain key value))
      (k.run s.dimension now (.setPlain key value)) :=
  have hb := h.sound.setPlain key value
  ⟨rfl, hb.settings, h.change hb (k.get?_insert key · _) rfl⟩

/-- Deleting keys one by one counts those that are live at first, each of them once. -/
theorem delete (h : s.Refines k now) (keys : List String) :
    s.Matches now (s.run now (.delete keys)) (k.run s.dimension now (.delete keys)) := by
  rw [run, Keyspace.run]
  induction keys generalizing s k with
  | nil => exact ⟨rfl, rfl, h⟩
  | cons key keys ih =>
    have hrel := (h.sound.release key).2
    obtain ⟨hcount, hsettings, hrefines⟩ := ih (h.release key)
    -- once its key is erased, no later occurrence counts any more
    have hrest : ∀ x, (Keyspace.live? (k.erase key) now x).isSome =
        (decide (x ≠ key) && (k.live? now x).isSome) := by
      intro x
      rw [Keyspace.live?, Table.get?_erase]
      by_cases hx : x = key <;> simp [hx, Keyspace.live?]
    have hall : (key :: keys).dedup.countP (fun x => (k.live? now x).isSome) =
        (if (k.live? now key).isSome then 1 else 0) +
          keys.dedup.countP fun x => (Keyspace.live? (k.erase key) now x).isSome := by
      simp only [hrest]
      by_cases hk : key ∈ keys
      · rw [List.dedup_cons_of_mem hk]
        exact countP_of_mem_nodup (List.nodup_dedup keys) (List.mem_dedup.2 hk) _
      · rw [List.dedup_cons_of_notMem hk, List.countP_cons, Nat.add_comm,
          List.countP_congr (q := fun x => decide (x ≠ key) && (k.live? now x).isSome)]
        intro x hx
        have : x ≠ key := fun e => hk (List.mem_dedup.1 (e ▸ hx))
        simp [this]
    rw [h.sound.delete_cons, h.live]
    refine ⟨congrArg Outcome.count ?_, hsettings.trans hrel.settings, hrefines⟩
    rw [hall, ← Outcome.count.inj hcount]

theorem has (h : s.Refines k now) (key : String) :
    s.Matches now (s.run now (.has key)) (k.run s.dimension now (.has key)) := by
  obtain ⟨hs, hsettings, hb⟩ := h.settle key
  refine ⟨congrArg Outcome.flag ?_, hsettings, hs⟩
  rw [← hb]
  exact hs.sound.holds_eq key

theorem ttl (h : s.Refines k now) (key : String) :
    s.Matches now (s.run now (.ttl key)) (k.run s.dimension now (.ttl key)) := by
  obtain ⟨hs, hsettings, hb⟩ := h.settle key
  refine ⟨congrArg (fun o : Option Nat => Outcome.lifetime (o.map (· - now))) ?_, hsettings, hs⟩
  rw [← hb]
  exact hs.sound.deadline_eq key

theorem get (h : s.Refines k now) (key : String) :
    s.Matches now (s.run now (.get key)) (k.run s.dimension now (.get key)) := by
  obtain ⟨hs, hsettings, hb⟩ := h.settle key
  refine ⟨congrArg Outcome.record ?_, hsettings, hs⟩
  rw [← hb]
  exact Sound.vector_eq key

theorem dump (h : s.Refines k now) (key : String) :
    s.Matches now (s.run now (.dump key)) (k.run s.dimension now (.dump key)) := by
  obtain ⟨hs, hsettings, hb⟩ := h.settle key
  rw [run, Keyspace.run, Shard.dump, Sound.vector_eq, Table.contains_eq_isSome,
    hs.sound.plain_eq, hb]
  rcases k.live? now key with _ | ⟨_ | _, d⟩ <;> exact ⟨rfl, hsettings, hs⟩

theorem expire (h : s.Refines k now) (key : String) (ttl : Nat) :
    s.Matches now (s.run now (.expire key ttl)) (k.run s.dimension now (.expire key ttl)) := by
  obtain ⟨hs, hsettings, hb⟩ := h.settle key
  rw [run, Keyspace.run, Shard.expire, hs.sound.holds_eq, hb]
  cases hl : k.live? now key with
  | none => exact ⟨rfl, hsettings, hs⟩
  | some b =>
    rw [hl] at hb
    by_cases ht : ttl = 0
    · simp only [ht, Option.isSome_some, Bool.not_true, Bool.false_eq_true, if_false, if_true]
      exact ⟨rfl, (hs.sound.release key).2.settings.trans hsettings, hs.release key⟩
    · simp only [ht, Option.isSome_some, Bool.not_true, Bool.false_eq_true, if_false]
      cases deadlineAfter now ttl with
      | error e => exact ⟨rfl, hsettings, hs⟩
      | ok deadline =>
        have hd := hs.sound.insertDeadline hb deadline
        exact ⟨rfl, hd.settings.trans hsettings, hs.change hd (k.get?_insert key · _) rfl⟩

/-- Binding a dumped vector to a key, once the key may be taken. -/
theorem restoreFree (h : s.Refines k now) (key : String) (ttl : Option Nat) (payload : Bytes) :
    s.Matches now
      (match s.restoreFree now key ttl payload with
        | .ok s => (.done, s)
        | .error e => (.fault e, s))
      (match (ttl.filter (· ≠ 0)).mapM (deadlineAfter now) with
        | .error e => (.fault e, k)
        | .ok deadline =>
          match Payload.decode payload s.dimension with
          | .error e => (.fault e, k)
          | .ok r => k.bind s.dimension key r deadline) := by
  unfold Shard.restoreFree
  cases (ttl.filter (· ≠ 0)).mapM (deadlineAfter now) with
  | error e => exact ⟨rfl, rfl, h⟩
  | ok deadline =>
    cases Payload.decode payload s.dimension with
    | error e => exact ⟨rfl, rfl, h⟩
    | ok r =>
      simp only [bind, Except.bind, Keyspace.bind]
      by_cases hr : r.dimension = s.dimension.toNat
      · obtain ⟨s', hs', hb⟩ := h.sound.addRecord key hr
        rw [hs', if_pos hr]
        cases deadline with
        | none => exact ⟨rfl, hb.settings, h.change hb (k.get?_insert key · _) rfl⟩
        | some d =>
          have hd := hb.insertDeadline d
          exact ⟨rfl, hd.settings, h.change hd (k.get?_insert key · _) rfl⟩
      · rw [h.sound.addRecord_error key hr, if_neg hr]
        exact ⟨rfl, rfl, h⟩

theorem restore (h : s.Refines k now) (key : String) (ttl : Option Nat) (payload : Bytes)
    (replace : Bool) :
    s.Matches now (s.run now (.restore key ttl payload replace))
      (k.run s.dimension now (.restore key ttl payload replace)) := by
  have hrun : ∀ s' : Shard, (if replace then s else s.settle now key) = s' →
      s.run now (.restore key ttl payload replace) =
        if !replace && s'.holds key then (.fault .busyKey, s')
        else
          match s'.restoreFree now key ttl payload with
          | .ok s => (.done, s)
          | .error e => (.fault e, s') := by
    intro s' hs'
    rw [run, Shard.restore, hs']
    cases !replace && s'.holds key
    · cases s'.restoreFree now key ttl payload <;> rfl
    · rfl
  cases replace with
  | true =>
    rw [hrun s rfl]
    exact h.restoreFree key ttl payload
  | false =>
    obtain ⟨hs, hsettings, hb⟩ := h.settle key
    rw [hrun (s.settle now key) rfl, Keyspace.run, hs.sound.holds_eq, hb]
    split
    · exact ⟨rfl, hsettings, hs⟩
    · have hfree := hs.restoreFree key ttl payload
      rw [Shard.dimension, hsettings] at hfree
      exact ⟨hfree.outcome, hfree.settings.trans hsettings, hfree.refines⟩

theorem purge (h : s.Refines k now) :
    s.Matches now (s.run now .purge) (k.run s.dimension now .purge) := by
  obtain ⟨hs, hsettings, hb⟩ := h.sound.purge now
  refine ⟨rfl, hsettings, hs, fun key => ?_⟩
  rw [run, hb, Binding.filter_isLive_filter (Nat.le_refl _)]
  exact h.live key

theorem flush (h : s.Refines k now) :
    s.Matches now (s.run now .flush) (k.run s.dimension now .flush) := by
  obtain ⟨hs, hsettings, hb⟩ := h.sound.flush
  refine ⟨rfl, hsettings, hs, fun key => ?_⟩
  rw [run, hb]
  rfl

/-! ## Steps and runs -/

/-- **One operation**: a shard and a keyspace that are related stay so, with the same outcome. -/
theorem run (h : s.Refines k now) (op : Op) :
    s.Matches now (s.run now op) (k.run s.dimension now op) := by
  cases op with
  | add key payload => exact h.add key payload
  | addRecord key r => exact h.addRecord key r
  | setPlain key value => exact h.setPlain key value
  | delete keys => exact h.delete keys
  | has key => exact h.has key
  | expire key ttl => exact h.expire key ttl
  | ttl key => exact h.ttl key
  | get key => exact h.get key
  | dump key => exact h.dump key
  | restore key ttl payload replace => exact h.restore key ttl payload replace
  | purge => exact h.purge
  | flush => exact h.flush

/-- A list of operations in the order of time: the same outcomes, and afterwards the states are
related from the last reading on. -/
theorem play (h : s.Refines k now) {ops : List (Nat × Op)}
    (hops : (now :: ops.map (·.1)).Pairwise (· ≤ ·)) :
    (play Shard.run s ops).1 = (play (Keyspace.run s.dimension) k ops).1 ∧
      ∀ later, now ≤ later → (∀ op ∈ ops, op.1 ≤ later) →
        (play Shard.run s ops).2.Refines
          (play (Keyspace.run s.dimension) k ops).2 later := by
  induction ops generalizing s k now with
  | nil => exact ⟨rfl, fun later hle _ => h.later hle⟩
  | cons step ops ih =>
    obtain ⟨t, op⟩ := step
    obtain ⟨hle, hops⟩ := List.pairwise_cons.1 hops
    have hstep := (h.later (hle t (by simp))).run op
    have hrun := ih hstep.refines hops
    rw [Shard.dimension, hstep.settings] at hrun
    refine ⟨congrArg₂ List.cons hstep.outcome hrun.1, fun later _ hlater => ?_⟩
    exact hrun.2 later (hlater (t, op) (by simp)) fun x hx => hlater x (by simp [hx])

end Refines

theorem refines_new {settings : Settings} (h : new settings = .ok s) : s.Refines {} 0 := by
  refine ⟨sound_new h, fun key => ?_⟩
  obtain ⟨-, rfl⟩ := eq_of_new h
  rw [binding?_empty]
  rfl

theorem settings_new {settings : Settings} (h : new settings = .ok s) : s.settings = settings := by
  obtain ⟨-, rfl⟩ := eq_of_new h
  rfl

/-- **A shard refines a keyspace.** For operations in the order of time on a new shard, every
outcome is the one of the keyspace, and after each of them the live part of the three tables is that
of the keyspace, at that time and ever after. -/
theorem play_refines_keyspace {settings : Settings} (h : new settings = .ok s)
    {ops : List (Nat × Op)} (hops : (ops.map (·.1)).Pairwise (· ≤ ·)) :
    (play Shard.run s ops).1 = (play (Keyspace.run settings.dimension) {} ops).1 ∧
      ∀ n now, (∀ op ∈ ops.take n, op.1 ≤ now) → ∀ key,
        let s' := (play Shard.run s (ops.take n)).2
        let k' := (play (Keyspace.run settings.dimension) {} (ops.take n)).2
        s'.vector? now key = (k'.live? now key).bind (·.vector?) ∧
          s'.plain? now key = (k'.live? now key).bind (·.plain?) ∧
          s'.deadline? now key = (k'.live? now key).bind (·.deadline) := by
  rw [← settings_new h]
  have hpairwise : ∀ n, (0 :: (ops.take n).map (·.1)).Pairwise (· ≤ ·) := fun n =>
    List.pairwise_cons.2 ⟨fun _ _ => Nat.zero_le _, hops.sublist ((List.take_sublist n ops).map _)⟩
  refine ⟨?_, fun n now hnow key => ?_⟩
  · have := ((refines_new h).play (hpairwise ops.length)).1
    rwa [List.take_length] at this
  · have hr := ((refines_new h).play (hpairwise n)).2 now (Nat.zero_le _) hnow
    intro s' k'
    rw [hr.sound.vector?_eq, hr.sound.plain?_eq, hr.sound.deadline?_eq, hr.live]
    exact ⟨rfl, rfl, rfl⟩

/-- A deadline that nothing has noticed yet: the vector is gone when it is asked for. -/
theorem play_refines_keyspace_unnoticed :
    ∃ s, new { dimension := 2 } = .ok s ∧
      (play Shard.run s
        [(1, .addRecord "a" ⟨[1, 2]⟩), (1, .expire "a" 4), (3, .setPlain "b" [7]), (5, .has "a"),
          (6, .get "a")]).1 = [.done, .flag true, .done, .flag false, .record none] := by
  have hnew : new { dimension := 2 } =
      .ok { settings := { dimension := 2 }, store := Store.empty 2 } := rfl
  refine ⟨_, hnew, (play_refines_keyspace hnew (by decide)).1.trans ?_⟩
  rfl

end Shard

end Nearest

import Nearest.Proofs.Payload
import Nearest.Proofs.Shedding

/-!
# Restoring vectors

* `Keyspace.run_restore_of_free` and `Keyspace.run_restore_of_error`: what restoring is for the
  reference, and `Shard.Refines.restored` that it is this for a shard.
* `Sound.binds_of_add`, `Sound.binds_of_addRecord` and `Sound.binds_of_restore`: what the operations
  bind that bind vectors. All others leave the vector of a key or take it away (`Sound.kept_run`).
* `Shard.LastBound key given s`: the bytes that `key` was last bound from. They are those of the
  record that it holds (`LastBound.bytes_eq`).
-/

namespace Nearest

/-! ## What a keyspace does -/

namespace Keyspace

variable {k : Keyspace} {dimension : UInt64} {now : Nat} {key : String} {ttl : Option Nat}
  {payload : Bytes} {replace : Bool}

/-- A payload that cannot be decoded changes nothing. -/
theorem run_restore_of_error {e : Fault} (h : Payload.decode payload dimension = .error e) :
    ∃ why, k.run dimension now (.restore key ttl payload replace) = (.fault why, k) := by
  rw [run]
  split
  · exact ⟨_, rfl⟩
  split
  · exact ⟨_, rfl⟩
  rw [h]
  exact ⟨_, rfl⟩

/-- A key that is live is not taken, unless it may be replaced. -/
theorem run_restore_of_busy (h : (!replace && (k.live? now key).isSome) = true) :
    k.run dimension now (.restore key ttl payload replace) = (.fault .busyKey, k) := by
  rw [run, if_pos h]

/-- Once a key may be taken and has its deadline, the payload decides. -/
theorem run_restore_of_free (hfree : replace = true ∨ k.live? now key = none)
    {deadline : Option Nat} (httl : (ttl.filter (· ≠ 0)).mapM (deadlineAfter now) = .ok deadline) :
    k.run dimension now (.restore key ttl payload replace) =
      match Payload.decode payload dimension with
      | .error e => (.fault e, k)
      | .ok r => k.bind dimension key r deadline := by
  have htake : (!replace && (k.live? now key).isSome) = false := by
    rcases hfree with rfl | hfree
    · rfl
    · rw [hfree, Option.isSome_none, Bool.and_false]
  rw [run, htake, httl]
  rfl

end Keyspace

/-- Whether an operation binds a vector to a key, if it succeeds. -/
def Op.binds (key : String) : Op → Bool
  | .add k _ | .addRecord k _ | .restore k _ _ _ => k == key
  | _ => false

/-! ## What a shard does -/

namespace Shard

variable {s : Shard} {now : Nat} {key : String} {ttl : Option Nat} {payload : Bytes}
  {replace : Bool}

theorem fst_restore_of_fault {e : Fault}
    (h : (s.run now (.restore key ttl payload replace)).1 = .fault e) :
    (s.restore now key ttl payload replace).1 = .error e := by
  rw [run] at h
  split at h
  · cases h
  · rename_i heq
    cases h
    rw [heq]

theorem fst_restore_of_done (h : (s.run now (.restore key ttl payload replace)).1 = .done) :
    (s.restore now key ttl payload replace).1 = .ok () := by
  rw [run] at h
  split at h
  · rename_i heq
    rw [heq]
  · cases h

/-- A shard restores as a keyspace does. -/
theorem Refines.restored {k : Keyspace} (h : s.Refines k now) {o : Outcome} {k' : Keyspace}
    (hrun : k.run s.dimension now (.restore key ttl payload replace) = (o, k')) :
    (s.run now (.restore key ttl payload replace)).1 = o ∧
      (s.restore now key ttl payload replace).2.Refines k' now := by
  have hmatches := h.restore key ttl payload replace
  rw [hrun] at hmatches
  refine ⟨hmatches.outcome, ?_⟩
  rw [← snd_run_restore]
  exact hmatches.refines

/-- A payload that cannot be decoded leaves what is live. -/
theorem Sound.restore_of_error (h : s.Sound) {e : Fault}
    (hdecode : Payload.decode payload s.dimension = .error e) :
    (∃ why, (s.restore now key ttl payload replace).1 = .error why) ∧
      ∀ x, s.SameLive (s.restore now key ttl payload replace).2 now x := by
  obtain ⟨k, hk⟩ := exists_keyspace h now
  obtain ⟨why, hrun⟩ :
      ∃ why, k.run s.dimension now (.restore key ttl payload replace) = (.fault why, k) :=
    Keyspace.run_restore_of_error hdecode
  obtain ⟨hfault, hrefines⟩ := hk.restored hrun
  exact ⟨⟨why, fst_restore_of_fault hfault⟩, fun x => hk.sameLive hrefines rfl⟩

/-! ## What was bound last -/

/-- The second shard holds no vector under a key but the one that the first holds. -/
def Kept (s s' : Shard) (key : String) : Prop :=
  ∀ r, s'.store.get? key = some r → s.store.get? key = some r

theorem kept_self (s : Shard) (key : String) : s.Kept s key :=
  fun _ hr => hr

theorem Kept.trans {s' s'' : Shard} (h : s.Kept s' key) (h' : s'.Kept s'' key) : s.Kept s'' key :=
  fun r hr => h r (h' r hr)

/-- A change at one key that binds no vector to another. -/
theorem Binds.kept {s' : Shard} {k : String} {b : Option Binding} (hb : s.Binds s' k b)
    (hk : key = k → b.bind (·.vector?) = none) : s.Kept s' key := by
  intro r hr
  rw [Sound.vector_eq, hb.binding?] at hr
  split at hr
  · rename_i he
    rw [hk he] at hr
    cases hr
  · rwa [Sound.vector_eq]

/-- Keys that are released lose what they hold. -/
theorem Sound.kept_releaseAll (h : s.Sound) (keys : List String) :
    s.Kept (keys.foldl (fun s key => (s.release key).2) s) key := by
  intro r hr
  rw [Sound.vector_eq, (h.releaseAll keys).2.2] at hr
  split at hr
  · cases hr
  · rwa [Sound.vector_eq]

theorem Sheds.kept {s' : Shard} (h : s.Sheds now s') (hs : s.Sound) : s.Kept s' key := by
  obtain ⟨keys, -, rfl⟩ := h
  exact hs.kept_releaseAll keys

theorem snd_delete (s : Shard) (now : Nat) (keys : List String) :
    (s.delete now keys).2 = keys.foldl (fun s key => (s.release key).2) s := by
  induction keys generalizing s with
  | nil => rfl
  | cons k keys ih =>
    rw [delete, List.foldl_cons, ← ih]
    split <;> rfl

namespace Sound

/-- What binding a record does, if it succeeds. -/
theorem binds_of_addRecord (h : s.Sound) {r : Record} {s' : Shard}
    (hadd : s.addRecord key r = .ok s') : s.Binds s' key (some ⟨.vector r, none⟩) := by
  by_cases hr : r.dimension = s.dimension.toNat
  · obtain ⟨s₁, hs₁, hb⟩ := h.addRecord key hr
    rw [hs₁] at hadd
    cases hadd
    exact hb
  · rw [h.addRecord_error key hr] at hadd
    cases hadd

theorem binds_of_add (h : s.Sound) {s' : Shard} (hadd : s.add key payload = .ok s') :
    ∃ r : Record, r.bytes = payload ∧ s.Binds s' key (some ⟨.vector r, none⟩) := by
  unfold add at hadd
  split at hadd
  · exact ⟨_, Record.bytes_of_ofBytes ‹_›, h.binds_of_addRecord hadd⟩
  · cases hadd

theorem binds_of_restoreFree (h : s.Sound) {s' : Shard}
    (hrestore : s.restoreFree now key ttl payload = .ok s') :
    ∃ r deadline, Payload.decode payload s.dimension = .ok r ∧
      s.Binds s' key (some ⟨.vector r, deadline⟩) := by
  unfold restoreFree at hrestore
  obtain ⟨deadline, -, hrestore⟩ := exists_of_bind_ok hrestore
  obtain ⟨r, hdecode, hrestore⟩ := exists_of_bind_ok hrestore
  obtain ⟨s₁, hadd, hrestore⟩ := exists_of_bind_ok hrestore
  have hb := h.binds_of_addRecord hadd
  refine ⟨r, deadline, hdecode, ?_⟩
  cases deadline with
  | none =>
    cases hrestore
    exact hb
  | some d =>
    cases hrestore
    exact hb.insertDeadline d

theorem binds_of_restore (h : s.Sound) {s' : Shard}
    (hrestore : s.restore now key ttl payload replace = (.ok (), s')) :
    ∃ r deadline, Payload.decode payload s.dimension = .ok r ∧
      s.Binds s' key (some ⟨.vector r, deadline⟩) := by
  have hfree : (if replace then s else s.settle now key).restoreFree now key ttl payload =
      .ok s' := by
    unfold restore at hrestore
    generalize (if replace then s else s.settle now key) = t at hrestore
    dsimp only at hrestore
    split at hrestore
    · cases hrestore
    split at hrestore <;> cases hrestore
    assumption
  cases replace with
  | true => exact h.binds_of_restoreFree hfree
  | false =>
    have hsettle := h.settle now key
    obtain ⟨r, deadline, hdecode, hb⟩ := hsettle.sound.binds_of_restoreFree hfree
    rw [Shard.dimension, hsettle.settings] at hdecode
    exact ⟨r, deadline, hdecode, hsettle.trans hb⟩

end Sound

theorem kept_expire (h : s.Sound) (k : String) (ttl : Nat) : s.Kept (s.expire now k ttl).2 key := by
  have hsettle : s.Kept (s.settle now k) key := (s.sheds_settle now k).kept h
  have hsound := (h.settle now k).sound
  rw [expire]
  generalize s.settle now k = t at hsettle hsound
  split
  · exact hsettle
  split
  · exact hsettle.trans ((hsound.release k).2.kept fun _ => rfl)
  · split <;> exact hsettle

/-- An operation that binds no vector to a key, or fails to, leaves the one that the key has or
takes it away. -/
theorem Sound.kept_run (h : s.Sound) {op : Op}
    (hop : op.binds key = true → ∃ why, (s.run now op).1 = .fault why) :
    s.Kept (s.run now op).2 key := by
  have hsettle : ∀ k, s.Kept (s.settle now k) key := fun k => (s.sheds_settle now k).kept h
  have hother : ∀ {k : String}, ((k == key) = true → ∃ why, Outcome.done = .fault why) →
      key ≠ k := by
    rintro k hk rfl
    obtain ⟨why, hwhy⟩ := hk BEq.rfl
    cases hwhy
  cases op with
  | add k payload =>
    rw [Shard.run] at hop ⊢
    split at hop
    · rename_i s' hadd
      obtain ⟨r, -, hb⟩ := h.binds_of_add hadd
      exact hb.kept fun he => absurd he (hother hop)
    · exact s.kept_self key
  | addRecord k r =>
    rw [Shard.run] at hop ⊢
    split at hop
    · rename_i s' hadd
      exact (h.binds_of_addRecord hadd).kept fun he => absurd he (hother hop)
    · exact s.kept_self key
  | setPlain k value => exact (h.setPlain k value).kept fun _ => rfl
  | delete keys =>
    show s.Kept (s.delete now keys).2 key
    rw [snd_delete]
    exact h.kept_releaseAll keys
  | has k => exact hsettle k
  | expire k ttl =>
    rw [snd_run_expire]
    exact kept_expire h k ttl
  | ttl k => exact hsettle k
  | get k => exact hsettle k
  | dump k =>
    rw [snd_run_dump, snd_dump]
    exact hsettle k
  | restore k ttl payload replace =>
    rw [Shard.run] at hop ⊢
    split at hop
    · rename_i s' hrestore
      obtain ⟨r, deadline, -, hb⟩ := h.binds_of_restore hrestore
      exact hb.kept fun he => absurd he (hother hop)
    · rename_i e s' hrestore
      rw [snd_restore_of_error hrestore]
      split
      · exact s.kept_self key
      · exact hsettle k
  | purge => exact (h.sheds_purge now).kept h
  | flush =>
    intro r hr
    rw [Sound.vector_eq, Shard.run, h.flush.2.2] at hr
    cases hr

/-- The vector that a key has in a shard, if any, was last bound to it from these bytes. -/
inductive LastBound (key : String) : Bytes → Shard → Prop
  | add {s s' : Shard} {payload : Bytes} (h : s.Reached) (hadd : s.add key payload = .ok s') :
    LastBound key payload s'
  | addRecord {s s' : Shard} {r : Record} (h : s.Reached) (hadd : s.addRecord key r = .ok s') :
    LastBound key r.bytes s'
  | restore {s s' : Shard} {now : Nat} {ttl : Option Nat} {payload : Bytes} {replace : Bool}
    {r : Record} (h : s.Reached)
    (hrestore : s.restore now key ttl payload replace = (.ok (), s'))
    (hdecode : Payload.decode payload s.dimension = .ok r) : LastBound key r.bytes s'
  | run {s : Shard} {given : Bytes} (h : LastBound key given s) (now : Nat) (op : Op)
    (hop : op.binds key = true → ∃ why, (s.run now op).1 = .fault why) :
    LastBound key given (s.run now op).2
  | search {s : Shard} {given : Bytes} (h : LastBound key given s) (now : Nat) (k : Int)
    (filter : Option String) (query : Bytes) : LastBound key given (s.search now k filter query).2
  | image {s : Shard} {given : Bytes} (h : LastBound key given s) (now : Nat) :
    LastBound key given (s.image now).2

namespace LastBound

variable {given : Bytes}

theorem reached (h : LastBound key given s) : s.Reached := by
  induction h with
  | @add s s' payload h hadd =>
    have hrun : (s.run 0 (.add key payload)).2 = s' := by rw [Shard.run, hadd]
    exact hrun ▸ h.run 0 _
  | @addRecord s s' r h hadd =>
    have hrun : (s.run 0 (.addRecord key r)).2 = s' := by rw [Shard.run, hadd]
    exact hrun ▸ h.run 0 _
  | @restore s s' now ttl payload replace r h hrestore hdecode =>
    have hrun : (s.run now (.restore key ttl payload replace)).2 = s' := by
      rw [snd_run_restore, hrestore]
    exact hrun ▸ h.run now _
  | run _ now op _ ih => exact ih.run now op
  | search _ now k filter query ih => exact ih.search now k filter query
  | image _ now ih => exact ih.image now

theorem bytes_of_binds {s' : Shard} {r r' : Record} {deadline : Option Nat}
    (hb : s.Binds s' key (some ⟨.vector r, deadline⟩)) (hr' : s'.store.get? key = some r') :
    r'.bytes = r.bytes := by
  rw [Sound.vector_eq, hb.binding?, if_pos rfl] at hr'
  cases hr'
  rfl

/-- The bytes of a record are those that it was bound from. -/
theorem bytes_eq (h : LastBound key given s) :
    ∀ r, s.store.get? key = some r → r.bytes = given := by
  induction h with
  | add h hadd =>
    obtain ⟨r, rfl, hb⟩ := h.sound.binds_of_add hadd
    exact fun _ => bytes_of_binds hb
  | addRecord h hadd => exact fun _ => bytes_of_binds (h.sound.binds_of_addRecord hadd)
  | restore h hrestore hdecode =>
    obtain ⟨r, deadline, hdecode', hb⟩ := h.sound.binds_of_restore hrestore
    rw [hdecode] at hdecode'
    cases hdecode'
    exact fun _ => bytes_of_binds hb
  | run h now op hop ih => exact fun r hr => ih r (h.reached.sound.kept_run hop r hr)
  | search h now k filter query ih =>
    have hs := h.reached.sound
    exact fun r hr => ih r ((hs.sheds_search now k filter query).kept hs r hr)
  | image h now ih =>
    have hs := h.reached.sound
    exact fun r hr => ih r ((hs.sheds_purge now).kept hs r hr)

end LastBound

end Shard

end Nearest

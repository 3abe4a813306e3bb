import Nearest.Proofs.Reached

/-!
# Releasing what is due

What a shard does besides its work: it releases keys that were due.

* `Shard.Sheds s now s'`: `s'` is `s` after the release of keys that were due. Nothing that is live
  is touched by that (`Sheds.live`).
* Settling, purging and searching do no more (`sheds_settle`, `Sound.sheds_purge`,
  `Sound.sheds_search`), nor do the operations that fail (`snd_expire_of_error`,
  `snd_restore_of_error`).
-/

namespace Nearest

namespace Shard

/-! ## Releasing what is due -/

/-- The second shard is what is left of the first after some keys that were due have been
released. -/
def Sheds (s : Shard) (now : Nat) (s' : Shard) : Prop :=
  ∃ keys : List String, (∀ key ∈ keys, s.isDue now key = true) ∧
    s' = keys.foldl (fun s key => (s.release key).2) s

theorem sheds_self (s : Shard) (now : Nat) : s.Sheds now s :=
  ⟨[], by simp, rfl⟩

theorem sheds_settle (s : Shard) (now : Nat) (key : String) : s.Sheds now (s.settle now key) := by
  rw [settle]
  split
  · exact ⟨[key], by simpa, rfl⟩
  · exact s.sheds_self now

variable {s s' : Shard} {now : Nat}

theorem Sound.sheds_purge (h : s.Sound) (now : Nat) : s.Sheds now (s.purge now).2 :=
  ⟨s.due now, fun _ hkey => h.mem_due.1 hkey, rfl⟩

theorem Sheds.filter_isLive (h : s.Sheds now s') (hs : s.Sound) (key : String) :
    (s'.binding? key).filter (·.isLive now) = (s.binding? key).filter (·.isLive now) := by
  obtain ⟨keys, hdue, rfl⟩ := h
  rw [(hs.releaseAll keys).2.2]
  split
  · rename_i hkey
    rw [hs.filter_isLive, hdue key hkey]
    rfl
  · rfl

/-- Nothing that is live is touched. -/
theorem Sheds.live (h : s.Sheds now s') (hs : s.Sound) (key : String) :
    s'.vector? now key = s.vector? now key ∧ s'.plain? now key = s.plain? now key ∧
      s'.deadline? now key = s.deadline? now key := by
  have hs' : s'.Sound := by
    obtain ⟨keys, -, rfl⟩ := h
    exact (hs.releaseAll keys).1
  rw [hs'.vector?_eq, hs'.plain?_eq, hs'.deadline?_eq, h.filter_isLive hs, hs.vector?_eq,
    hs.plain?_eq, hs.deadline?_eq]
  exact ⟨rfl, rfl, rfl⟩

/-! ## What a run leaves -/

theorem snd_run_expire (s : Shard) (now : Nat) (key : String) (ttl : Nat) :
    (s.run now (.expire key ttl)).2 = (s.expire now key ttl).2 := by
  rw [run]
  split <;> rename_i heq <;> rw [heq]

theorem snd_run_dump (s : Shard) (now : Nat) (key : String) :
    (s.run now (.dump key)).2 = (s.dump now key).2 := by
  rw [run]
  split <;> rename_i heq <;> rw [heq]

theorem snd_run_restore (s : Shard) (now : Nat) (key : String) (ttl : Option Nat)
    (payload : Bytes) (replace : Bool) :
    (s.run now (.restore key ttl payload replace)).2 =
      (s.restore now key ttl payload replace).2 := by
  rw [run]
  split <;> rename_i heq <;> rw [heq]

/-! ## Operations that fail -/

theorem snd_expire_of_error {key : String} {ttl : Nat} {e : Fault}
    (h : s.expire now key ttl = (.error e, s')) : s' = s.settle now key := by
  unfold expire at h
  generalize s.settle now key = t at h ⊢
  simp only at h
  split at h
  · cases h
  split at h
  · cases h
  split at h
  · cases h
  · cases h
    rfl

theorem snd_restore_of_error {key : String} {ttl : Option Nat} {payload : Bytes} {replace : Bool}
    {e : Fault} (h : s.restore now key ttl payload replace = (.error e, s')) :
    s' = if replace then s else s.settle now key := by
  unfold restore at h
  generalize (if replace then s else s.settle now key) = t at h ⊢
  simp only at h
  split at h
  · cases h
    rfl
  split at h
  · cases h
  · cases h
    rfl

theorem snd_dump (s : Shard) (now : Nat) (key : String) :
    (s.dump now key).2 = s.settle now key := by
  unfold dump
  simp only
  split <;> rfl

theorem Sound.sheds_search (h : s.Sound) (now : Nat) (k : Int) (filter : Option String)
    (query : Bytes) : s.Sheds now (s.search now k filter query).2 := by
  unfold Shard.search
  split
  · exact s.sheds_self now
  · exact h.sheds_purge now

end Shard

end Nearest

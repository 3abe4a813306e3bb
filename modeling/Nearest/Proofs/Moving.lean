import Nearest.Proofs.Restoring

/-!
# Moving vectors between shards

A vector is dumped by one shard and restored by another.

* `Sound.restore_of_decode` and `Sound.restore_of_corrupt`: what restoring does with a key that may
  be taken, by what the payload is decoded as.
* `Shard.Moved a b b' now key target r deadline`: `b'` is `b` after `target` has been given the
  vector that `a` holds under `key`.
* `Reached.restore_dump`: restoring a dumped payload moves the vector, whatever `target` held.
-/

namespace Nearest

namespace Shard

variable {s : Shard} {now : Nat} {key : String} {r : Record} {ttl : Option Nat} {payload : Bytes}
  {replace : Bool}

/-! ## Dumping -/

/-- A live vector is resident, and its key is not due. -/
theorem resident_of_vector? (h : s.vector? now key = some r) :
    s.isDue now key = false ∧ s.store.get? key = some r := by
  unfold vector? at h
  split at h
  · cases h
  · rename_i hdue
    exact ⟨Bool.not_eq_true _ ▸ hdue, h⟩

theorem settle_of_not_due (h : s.isDue now key = false) : s.settle now key = s := by
  rw [settle, h]
  rfl

theorem dump_of_vector? (h : s.vector? now key = some r) :
    s.dump now key = (.ok (some (Payload.encode r)), s) := by
  obtain ⟨hdue, hget⟩ := resident_of_vector? h
  rw [dump, settle_of_not_due hdue, hget]

/-- A resident record has the dimension of the shard. -/
theorem Sound.dimension_of_get? (h : s.Sound) (hr : s.store.get? key = some r) :
    r.dimension = s.dimension.toNat := by
  obtain ⟨rows, hrows⟩ := h.columns
  rw [hrows.get?, Option.map_eq_some_iff] at hr
  obtain ⟨v, hv, rfl⟩ := hr
  rw [← h.dimension]
  exact hrows.width _ (mem_of_lookup hv)

/-! ## Restoring -/

/-- The deadline that a time to live gives, if it is not too long. -/
theorem mapM_deadlineAfter (h : ∀ t ∈ ttl, t = 0 ∨ now + t ≤ lastMoment) :
    (ttl.filter (· ≠ 0)).mapM (deadlineAfter now) = .ok ((ttl.filter (· ≠ 0)).map (now + ·)) := by
  cases hfilter : ttl.filter (· ≠ 0) with
  | none => rfl
  | some t =>
    obtain ⟨ht, hne⟩ := Option.filter_eq_some_iff.1 hfilter
    have hle : now + t ≤ lastMoment := (h t ht).resolve_left (of_decide_eq_true hne)
    rw [Option.mapM_some, deadlineAfter, if_pos hle]
    rfl

/-- It has not passed yet. -/
theorem lt_of_mem_deadline {d : Nat} (h : d ∈ (ttl.filter (· ≠ 0)).map (now + ·)) : now < d := by
  obtain ⟨t, ht, rfl⟩ := Option.map_eq_some_iff.1 h
  exact Nat.lt_add_of_pos_right
    (Nat.pos_of_ne_zero (of_decide_eq_true (Option.filter_eq_some_iff.1 ht).2))

theorem Refines.live?_eq_none {k : Keyspace} (h : s.Refines k now)
    (hexists : (s.exists? now key).1 = false) : k.live? now key = none := by
  have hflag : Outcome.flag (s.exists? now key).1 = .flag (k.live? now key).isSome :=
    (h.has key).outcome
  rw [hexists] at hflag
  exact Option.not_isSome_iff_eq_none.1 (Bool.not_eq_true _ ▸ (Outcome.flag.inj hflag).symm)

/-- Restoring a payload into a key that may be taken binds what it is decoded as. -/
theorem Sound.restore_of_decode (h : s.Sound)
    (hfree : replace = true ∨ (s.exists? now key).1 = false)
    (httl : ∀ t ∈ ttl, t = 0 ∨ now + t ≤ lastMoment)
    (hdecode : Payload.decode payload s.dimension = .ok r) (hr : r.dimension = s.dimension.toNat) :
    (s.restore now key ttl payload replace).1 = .ok () ∧
      (s.restore now key ttl payload replace).2.Sound ∧
      (s.restore now key ttl payload replace).2.binding? key =
        some ⟨.vector r, (ttl.filter (· ≠ 0)).map (now + ·)⟩ ∧
      ∀ x, x ≠ key → s.SameLive (s.restore now key ttl payload replace).2 now x := by
  obtain ⟨k, hk⟩ := exists_keyspace h now
  have hrun : k.run s.dimension now (.restore key ttl payload replace) =
      (.done, k.insert key ⟨.vector r, (ttl.filter (· ≠ 0)).map (now + ·)⟩) := by
    rw [Keyspace.run_restore_of_free (hfree.imp_right hk.live?_eq_none) (mapM_deadlineAfter httl),
      hdecode]
    exact if_pos hr
  obtain ⟨hdone, hk'⟩ := hk.restored hrun
  have hnew : Binding.isLive now ⟨.vector r, (ttl.filter (· ≠ 0)).map (now + ·)⟩ = true :=
    (Option.all_eq_true _ _).2 fun d hd => decide_eq_true (lt_of_mem_deadline hd)
  refine ⟨fst_restore_of_done hdone, hk'.sound, ?_, fun x hx => ?_⟩
  · have hlive := hk'.live key
    rw [Keyspace.live?, Table.get?_insert, if_pos rfl, Option.filter_some_pos hnew] at hlive
    exact (Option.filter_eq_some_iff.1 hlive).1
  · refine hk.sameLive hk' ?_
    rw [Keyspace.live?, Table.get?_insert, if_neg hx, Keyspace.live?]

/-- A payload that is corrupt for a shard, restored into a key that may be taken. -/
theorem Sound.restore_of_corrupt (h : s.Sound)
    (hfree : replace = true ∨ (s.exists? now key).1 = false)
    (httl : ∀ t ∈ ttl, t = 0 ∨ now + t ≤ lastMoment) {why : Corruption}
    (hdecode : Payload.decode payload s.dimension = .error (.corrupt why)) :
    (s.restore now key ttl payload replace).1 = .error (.corrupt why) := by
  obtain ⟨k, hk⟩ := exists_keyspace h now
  have hrun : k.run s.dimension now (.restore key ttl payload replace) =
      (.fault (.corrupt why), k) := by
    rw [Keyspace.run_restore_of_free (hfree.imp_right hk.live?_eq_none) (mapM_deadlineAfter httl),
      hdecode]
  exact fst_restore_of_fault (hk.restored hrun).1

/-! ## Moving -/

/-- The third shard is the second after the vector under `key` of the first has been moved to it, to
be held under `target` until a deadline. -/
structure Moved (a b b' : Shard) (now : Nat) (key target : String) (r : Record)
    (deadline : Option Nat) : Prop where
  get : ∀ t, (∀ d ∈ deadline, t < d) → (b'.get t target).1 = some r
  norm : ∃ i j, a.store.slot? key = some i ∧ b'.store.slot? target = some j ∧
    b'.store.norm j = a.store.norm i
  plain : b'.plain.get? target = none
  deadline_eq : b'.deadlines.get? target = deadline
  others : ∀ x, x ≠ target → b.SameLive b' now x

/-- The norms of equal vectors are equal. -/
theorem Sound.norm_eq {a b : Shard} (ha : a.Sound) (hb : b.Sound) {target : String}
    (hkey : a.store.get? key = some r) (htarget : b.store.get? target = some r) :
    ∃ i j, a.store.slot? key = some i ∧ b.store.slot? target = some j ∧
      b.store.norm j = a.store.norm i := by
  obtain ⟨rows, hrows⟩ := ha.columns
  obtain ⟨rows', hrows'⟩ := hb.columns
  obtain ⟨i, hi, hr⟩ := Option.map_eq_some_iff.1 hkey
  obtain ⟨j, hj, hr'⟩ := Option.map_eq_some_iff.1 htarget
  refine ⟨i, j, hi, hj, ?_⟩
  rw [(hrows.of_slot hi).2, (hrows'.of_slot hj).2]
  exact congrArg Similarity.norm (Record.mk.inj (hr'.trans hr.symm))

/-- **A dumped vector is restored as it was**, at any later time and into any shard of the same
dimension, under any key that may be taken; a shard of another dimension refuses it. What moves are
the bytes that were bound last. -/
theorem Reached.restore_dump {a : Shard} (h : a.Reached) (hdim : a.dimension.toNat < 2 ^ 32)
    (hkey : a.vector? now key = some r) :
    ∃ payload, (a.dump now key).1 = .ok (some payload) ∧
      (∀ given, LastBound key given a → r.bytes = given) ∧
      ∀ b : Shard, b.Reached → ∀ later target ttl replace,
        (replace = true ∨ (b.exists? later target).1 = false) →
        (∀ t ∈ ttl, t = 0 ∨ later + t ≤ lastMoment) →
        (b.dimension = a.dimension →
          (b.restore later target ttl payload replace).1 = .ok () ∧
            a.Moved b (b.restore later target ttl payload replace).2 later key target r
              ((ttl.filter (· ≠ 0)).map (later + ·))) ∧
        (b.dimension ≠ a.dimension →
          (∃ why, (b.restore later target ttl payload replace).1 = .error (.corrupt why)) ∧
            ∀ x, b.SameLive (b.restore later target ttl payload replace).2 later x) := by
  obtain ⟨-, hget⟩ := resident_of_vector? hkey
  have hr := h.sound.dimension_of_get? hget
  refine ⟨Payload.encode r, by rw [dump_of_vector? hkey],
    fun given hgiven => hgiven.bytes_eq r hget,
    fun b hb later target ttl replace hfree httl => ⟨fun hsame => ?_, fun hother => ?_⟩⟩
  · have hdecode : Payload.decode (Payload.encode r) b.dimension = .ok r := by
      rw [hsame]
      exact Payload.decode_encode hr hdim
    obtain ⟨hdone, hsound, hbinding, hothers⟩ :=
      hb.sound.restore_of_decode hfree httl hdecode (hsame ▸ hr)
    generalize (b.restore later target ttl (Payload.encode r) replace).2 = b' at *
    have htarget : b'.store.get? target = some r := by
      rw [Sound.vector_eq, hbinding]
      rfl
    have hdeadline : b'.deadlines.get? target = (ttl.filter (· ≠ 0)).map (later + ·) := by
      rw [hsound.deadline_eq, hbinding]
      rfl
    refine ⟨hdone, fun t ht => ?_, h.sound.norm_eq hsound hget htarget, ?_, hdeadline, hothers⟩
    · have hdue : b'.isDue t target = false := by
        rw [isDue, hdeadline, Option.any_eq_false]
        exact fun d hd => by simpa using ht d hd
      rw [get, settle_of_not_due hdue]
      exact htarget
    · rw [hsound.plain_eq, hbinding]
      rfl
  · obtain ⟨why, hdecode⟩ := Payload.decode_encode_of_ne hr hdim hother
    exact ⟨⟨why, hb.sound.restore_of_corrupt hfree httl hdecode⟩,
      (hb.sound.restore_of_error hdecode).2⟩

/-- The pattern of a NaN moves to a key whose plain value has expired and is still there, and is not
taken by a shard of dimension two. -/
theorem restore_dump_expired : ∃ a b c : Shard, ∃ payload, a.Reached ∧ b.Reached ∧ c.Reached ∧
    (a.dump 2 "a").1 = .ok (some payload) ∧ b.plain.get? "k" = some [7] ∧
    (b.restore 9 "k" (some 100) payload false).1 = .ok () ∧
    ((b.restore 9 "k" (some 100) payload false).2.get 50 "k").1.map Record.bytes =
      some [1, 0, 0xc0, 0x7f] ∧
    (b.restore 9 "k" (some 100) payload false).2.deadlines.get? "k" = some 109 ∧
    (b.restore 9 "k" (some 100) payload false).2.plain.get? "k" = none ∧
    ∃ why, (c.restore 9 "k" none payload true).1 = .error (.corrupt why) := by
  have h₁ : Shard.new { dimension := 1 } =
    .ok { settings := { dimension := 1 }, store := Store.empty 1 } := rfl
  have h₂ : Shard.new { dimension := 2 } =
    .ok { settings := { dimension := 2 }, store := Store.empty 2 } := rfl
  -- the vector that is dumped
  obtain ⟨a, hadd⟩ : ∃ a, Shard.add { settings := { dimension := 1 }, store := Store.empty 1 } "a"
      [1, 0, 0xc0, 0x7f] = .ok a :=
    ((sound_new h₁).addRecord "a" (r := ⟨[0x7fc00001]⟩) rfl).imp fun _ => And.left
  have hlast : LastBound "a" [1, 0, 0xc0, 0x7f] a := .add (.new h₁) hadd
  obtain ⟨r, -, ha⟩ := (sound_new h₁).binds_of_add hadd
  have hkey : a.vector? 2 "a" = some r := by
    rw [ha.sound.vector?_eq, ha.binding?]
    rfl
  have hadim : a.dimension = 1 := congrArg Settings.dimension ha.settings
  -- the shard that it is restored into
  obtain ⟨b, hb, hbset, hbinding⟩ := exists_reached
    (rfl : Settings.check { dimension := 1 } = .ok ()) ⟨[("k", ⟨.plain [7], some 5⟩)]⟩ (by decide)
  have hplain : b.plain.get? "k" = some [7] := by
    rw [hb.sound.plain_eq, hbinding]
    rfl
  have hk : b.Refines ⟨[("k", ⟨.plain [7], some 5⟩)]⟩ 9 :=
    ⟨hb.sound, fun key => by rw [hbinding, Keyspace.live?]⟩
  have hgone : (b.exists? 9 "k").1 = false := Outcome.flag.inj (hk.has "k").outcome
  have hsmall : a.dimension.toNat < 2 ^ 32 := by
    rw [hadim]
    decide
  obtain ⟨payload, hdump, hbytes, hrestore⟩ := hlast.reached.restore_dump hsmall hkey
  obtain ⟨hdone, hmoved⟩ := (hrestore b hb 9 "k" (some 100) false (.inr hgone)
    (by simp [lastMoment])).1 ((congrArg Settings.dimension hbset).trans hadim.symm)
  obtain ⟨hwhy, -⟩ := (hrestore _ (.new h₂) 9 "k" none true (.inl rfl) (by simp)).2
    (by rw [hadim]; decide)
  refine ⟨a, b, _, payload, hlast.reached, hb, .new h₂, hdump, hplain, hdone, ?_,
    hmoved.deadline_eq, hmoved.plain, hwhy⟩
  rw [hmoved.get 50 (by simp), Option.map_some, hbytes _ hlast]

end Shard

end Nearest

import Nearest.Proofs.Acceptance
import Nearest.Proofs.Moving
import Nearest.Proofs.Rejection

/-!
# Times to live

What the commands make of a time to live, for all amounts and all times that are signed words.

* `InTime now ms`: both the milliseconds and the moment that far from now are signed words. It is
  what the commands ask for (`Command.ttlMillis_eq`).
* `Shard.live?` is what a key holds, unless it is due, and `Shard.Sets` a change of it at one key.
  `Shard.Sound.expire_sets` and `Shard.Sound.restore_sets` say which change the operations make.
* `Command.lifetimes_exact` puts this together for the commands.
-/

namespace Nearest

/-! ## What is live -/

namespace Shard

/-- What a key holds, unless it is due. -/
def live? (s : Shard) (now : Nat) (key : String) : Option Binding :=
  (s.binding? key).filter (·.isLive now)

/-- The key has this in the second shard; what is live under other keys is as in the first. -/
def Sets (s s' : Shard) (now : Nat) (key : String) (b : Option Binding) : Prop :=
  ∀ x, s'.live? now x = if x = key then b else s.live? now x

variable {s s' : Shard} {now : Nat} {key : String}

theorem Binds.sets {b : Option Binding} (h : s.Binds s' key b) (now : Nat) :
    s.Sets s' now key (b.filter (·.isLive now)) := by
  intro x
  rw [live?, h.binding?]
  split <;> rfl

/-- A time to live is given to the keys that exist. One of zero deletes them. -/
theorem Sound.expire_sets (h : s.Sound) (key : String) {ttl : Nat}
    (hfits : now + ttl ≤ lastMoment) :
    (s.expire now key ttl).1 = .ok (s.live? now key).isSome ∧
      s.Sets (s.expire now key ttl).2 now key ((s.live? now key).bind fun b =>
        if ttl = 0 then none else some { b with deadline := some (now + ttl) }) := by
  have hsettle : s.Binds (s.settle now key) key (s.live? now key) := h.settle now key
  have hbinding : (s.settle now key).binding? key = s.live? now key :=
    (hsettle.binding? key).trans (if_pos rfl)
  rw [expire, hsettle.sound.holds_eq, hbinding]
  cases hlive : s.live? now key with
  | none =>
    rw [hlive] at hsettle
    exact ⟨rfl, hsettle.sets now⟩
  | some b =>
    by_cases hzero : ttl = 0
    · simp only [hzero, Option.isSome_some, Bool.not_true, Bool.false_eq_true, if_false, if_true]
      exact ⟨trivial, (hsettle.trans (hsettle.sound.release key).2).sets now⟩
    · have hdeadline : deadlineAfter now ttl = .ok (now + ttl) := if_pos hfits
      simp only [hzero, Option.isSome_some, Bool.not_true, Bool.false_eq_true, if_false, hdeadline]
      have hsets := (hsettle.trans (hsettle.sound.insertDeadline (hbinding.trans hlive)
        (now + ttl))).sets now
      have hnew : Binding.isLive now { b with deadline := some (now + ttl) } = true :=
        decide_eq_true (Nat.lt_add_of_pos_right (Nat.pos_of_ne_zero hzero))
      rw [Option.filter_some_pos hnew] at hsets
      exact ⟨trivial, hsets⟩

/-- Restoring with a time to live. The key may be taken if it does not exist or may be replaced;
then the payload decides. -/
theorem Sound.restore_sets (h : s.Sound) (key : String) {ttl : Option Nat}
    (httl : ∀ t ∈ ttl, t = 0 ∨ now + t ≤ lastMoment) (payload : Bytes) (replace : Bool) :
    (s.restore now key ttl payload replace).1 =
        (if !replace && (s.live? now key).isSome then .error .busyKey
          else (Payload.decode payload s.dimension).map fun _ => ()) ∧
      ∀ r, Payload.decode payload s.dimension = .ok r →
        (s.restore now key ttl payload replace).1 = .ok () →
        s.Sets (s.restore now key ttl payload replace).2 now key
          (some ⟨.vector r, (ttl.filter (· ≠ 0)).map (now + ·)⟩) := by
  -- A keyspace that holds the same restores without looking at tables.
  obtain ⟨k, hk⟩ := exists_keyspace h now
  have hlive : s.live? now = k.live? now := funext hk.live
  have hdeadline := mapM_deadlineAfter httl
  cases hbusy : !replace && (s.live? now key).isSome with
  | true =>
    have hfault : (s.restore now key ttl payload replace).1 = .error .busyKey :=
      fst_restore_of_fault (hk.restored (Keyspace.run_restore_of_busy (hlive ▸ hbusy))).1
    refine ⟨hfault, fun r _ hok => ?_⟩
    rw [hfault] at hok
    cases hok
  | false =>
    have hfree : replace = true ∨ k.live? now key = none := by
      rw [← hlive]
      simpa [or_iff_not_imp_left] using hbusy
    cases hdecode : Payload.decode payload s.dimension with
    | error e =>
      have hrun : k.run s.dimension now (.restore key ttl payload replace) = (.fault e, k) := by
        rw [Keyspace.run_restore_of_free hfree hdeadline, hdecode]
      exact ⟨fst_restore_of_fault (hk.restored hrun).1, nofun⟩
    | ok r =>
      obtain ⟨f, rest, -, hframe⟩ := Payload.decode_eq_ok_iff.1 hdecode
      have hr := (Payload.ofFrame_eq_ok_iff.1 hframe).2.1
      have hrun : k.run s.dimension now (.restore key ttl payload replace) =
          (.done, k.insert key ⟨.vector r, (ttl.filter (· ≠ 0)).map (now + ·)⟩) := by
        rw [Keyspace.run_restore_of_free hfree hdeadline, hdecode]
        exact if_pos hr
      obtain ⟨hdone, hk'⟩ := hk.restored hrun
      refine ⟨fst_restore_of_done hdone, ?_⟩
      rintro _ ⟨⟩ - x
      have hnew : Binding.isLive now ⟨.vector r, (ttl.filter (· ≠ 0)).map (now + ·)⟩ = true :=
        (Option.all_eq_true _ _).2 fun d hd => decide_eq_true (lt_of_mem_deadline hd)
      rw [hlive, live?, hk'.live, Keyspace.live?, Table.get?_insert]
      split
      · exact Option.filter_some_pos hnew
      · rfl

end Shard

/-! ## Amounts of time -/

/-- Both so many milliseconds and the moment that far from now are signed words. -/
def InTime (now : Nat) (ms : Int) : Prop :=
  -2 ^ 63 ≤ ms ∧ ms ≤ 2 ^ 63 - 1 ∧ ms + now ≤ 2 ^ 63 - 1

instance (now : Nat) (ms : Int) : Decidable (InTime now ms) :=
  inferInstanceAs (Decidable (_ ∧ _ ∧ _))

/-- What is in time is a time to live that can be given. -/
theorem InTime.fits {now : Nat} {ms : Int} (h : InTime now ms) (hnow : now ≤ 2 ^ 63 - 1) :
    now + ms.toNat ≤ lastMoment := by
  obtain ⟨-, -, hle⟩ := h
  rw [lastMoment]
  omega

/-- The time to live that is asked for with so many milliseconds, none by zero. -/
def lifetime (ms : Int) : Option Nat :=
  if 0 < ms then some ms.toNat else none

theorem InTime.lifetime_fits {now : Nat} {ms : Int} (h : InTime now ms) (hnow : now ≤ 2 ^ 63 - 1) :
    ∀ t ∈ lifetime ms, t = 0 ∨ now + t ≤ lastMoment := by
  intro t ht
  unfold lifetime at ht
  split at ht
  · cases ht
    exact .inr (h.fits hnow)
  · cases ht

theorem deadline_lifetime (now : Nat) {ms : Int} (hpos : 0 ≤ ms) :
    ((lifetime ms).filter (· ≠ 0)).map (now + ·) =
      if ms = 0 then none else some (now + ms.toNat) := by
  unfold lifetime
  by_cases hzero : ms = 0
  · simp [hzero]
  · have hms : 0 < ms := by omega
    simp [hms, hzero]

namespace Command

variable {s : Shard} {now : Nat} {name keyArg amount payload : Bytes} {option : Option Bytes}
  {key : String} {n unit : Int}

theorem ttlMillis_eq (hnow : now ≤ 2 ^ 63 - 1) (name : String) (amount unit : Int) :
    ttlMillis name now amount unit =
      if InTime now (amount * unit) then .ok (amount * unit) else .error (.expireTime name) := by
  have hmin : min now 0x7fffffffffffffff = now := Nat.min_eq_left hnow
  simp only [ttlMillis, hmin, InTime, Bool.and_eq_true, decide_eq_true_eq, and_assoc]
  rfl

theorem execute_of_ok {argv : List Bytes} {r : Reply} {s' : Shard}
    (h : attempt s now argv = (.ok r, s')) : execute s now argv = (r, s') := by
  rw [execute, h]

theorem execute_of_error {argv : List Bytes} {why : Rejection} {s' : Shard}
    (h : attempt s now argv = (.error why, s')) :
    execute s now argv = (.error why.message, s') := by
  rw [execute, h]

/-! ## Giving a time to live -/

/-- The commands that give a time to live, and the milliseconds of their units. -/
def timers : List (String × Int) :=
  [("EXPIRE", 1000), ("PEXPIRE", 1)]

section Expire

variable (hnow : now ≤ 2 ^ 63 - 1) (hname : ((Utf8.lossy name).toUpper, unit) ∈ timers)
  (hkey : keyOf keyArg = .ok key) (hn : integerOf amount .notInteger = .ok n)
include hnow hname hkey hn

theorem attempt_expire :
    attempt s now [name, keyArg, amount] =
      if InTime now (n * unit) then
        match s.expire now key (n * unit).toNat with
        | (.ok applied, s) => (.ok (.integer (if applied then 1 else 0)), s)
        | (.error .expireTime, s) => (.error (.expireTime (Utf8.lossy name).toUpper), s)
        | (.error why, s) => (.error (.failed why), s)
      else (.error (.expireTime (Utf8.lossy name).toUpper), s) := by
  have hrun : attempt s now [name, keyArg, amount] =
      (expire (Utf8.lossy name).toUpper unit s now [keyArg, amount]).getD
        (.error (.arity (Utf8.lossy name).toUpper), s) := by
    rw [attempt]
    generalize (Utf8.lossy name).toUpper = upper at hname
    simp only [timers, List.mem_cons, Prod.mk.injEq, List.not_mem_nil, or_false] at hname
    rcases hname with ⟨rfl, rfl⟩ | ⟨rfl, rfl⟩ <;> rfl
  rw [hrun, expire, hkey, hn]
  simp only [bind, Except.bind, ttlMillis_eq hnow]
  by_cases htime : InTime now (n * unit) <;> simp only [htime, if_true, if_false] <;> rfl

/-- An amount that is not in time is rejected before the key is looked at. -/
theorem execute_expire_of_not_inTime (htime : ¬InTime now (n * unit)) :
    execute s now [name, keyArg, amount] =
      (.error (Rejection.expireTime (Utf8.lossy name).toUpper).message, s) := by
  apply execute_of_error
  rw [attempt_expire hnow hname hkey hn, if_neg htime]

/-- One that is in time is given to the key if it exists. -/
theorem execute_expire_of_inTime (h : s.Sound) (htime : InTime now (n * unit)) :
    execute s now [name, keyArg, amount] =
      (.integer (if (s.live? now key).isSome then 1 else 0),
        (s.expire now key (n * unit).toNat).2) := by
  apply execute_of_ok
  have hexpire := (h.expire_sets key (htime.fits hnow)).1
  rw [attempt_expire hnow hname hkey hn, if_pos htime]
  rcases hresult : s.expire now key (n * unit).toNat with ⟨result, s'⟩
  rw [hresult] at hexpire
  obtain rfl : result = .ok (s.live? now key).isSome := hexpire
  rfl

end Expire

/-! ## Restoring with a time to live -/

theorem message_expireTime :
    (Rejection.expireTime "RESTORE").message = "ERR invalid expire time in 'restore' command" := by
  decide +kernel

theorem append_ne_of_not_prefix {a c : String} (h : ¬(a.toList <+: c.toList)) (b : String) :
    a ++ b ≠ c := by
  rintro rfl
  exact h (by simp)

/-- What restoring fails with is not reported as a time that cannot be. -/
theorem message_failed_ne {why : Fault} {dimension : UInt64}
    (h : why = .busyKey ∨ (∃ c, why = .corrupt c) ∨ ∃ length, why = .vectorSize dimension length) :
    (Rejection.failed why).message ≠ "ERR invalid expire time in 'restore' command" := by
  rcases h with rfl | ⟨c, rfl⟩ | ⟨length, rfl⟩
  · decide
  · show "ERR " ++ ("corrupt payload: " ++ c.message) ≠ _
    rw [← String.append_assoc]
    exact append_ne_of_not_prefix (by decide) _
  · show "ERR " ++ ("given blob is not a float vector of size " ++ toString dimension) ≠ _
    rw [← String.append_assoc]
    exact append_ne_of_not_prefix (by decide) _

theorem restoreArguments_eq (hnow : now ≤ 2 ^ 63 - 1) (hkey : keyOf keyArg = .ok key)
    (hn : integerOf amount .negativeTtl = .ok n) (hpos : 0 ≤ n)
    (hoption : ∀ o ∈ option, isWord o "REPLACE" = true) (name : String) :
    restoreArguments name now keyArg amount option =
      if InTime now n then .ok (key, n, option.isSome) else .error (.expireTime name) := by
  rw [restoreArguments, hkey, hn]
  have hneg : ¬n < 0 := by omega
  cases option with
  | none =>
    simp only [bind, Except.bind, hneg, if_false, pure, Except.pure, ttlMillis_eq hnow, Int.mul_one]
    by_cases htime : InTime now n <;> simp [htime]
  | some o =>
    simp only [bind, Except.bind, hneg, if_false, pure, Except.pure, ttlMillis_eq hnow, Int.mul_one,
      hoption o rfl, if_true]
    by_cases htime : InTime now n <;> simp [htime]

section Restore

variable (hnow : now ≤ 2 ^ 63 - 1) (hname : (Utf8.lossy name).toUpper = "RESTORE")
  (hkey : keyOf keyArg = .ok key) (hn : integerOf amount .negativeTtl = .ok n) (hpos : 0 ≤ n)
  (hoption : ∀ o ∈ option, isWord o "REPLACE" = true)
include hnow hname hkey hn hpos hoption

theorem attempt_restore :
    attempt s now (name :: keyArg :: amount :: payload :: option.toList) =
      if InTime now n then
        match s.restore now key (lifetime n) payload option.isSome with
        | (.ok (), s) => (.ok .ok, s)
        | (.error .expireTime, s) => (.error (.expireTime "RESTORE"), s)
        | (.error why, s) => (.error (.failed why), s)
      else (.error (.expireTime "RESTORE"), s) := by
  have hrun : attempt s now (name :: keyArg :: amount :: payload :: option.toList) =
      restoreWith "RESTORE" s now keyArg amount payload option := by
    rw [attempt, hname]
    cases option <;> rfl
  rw [hrun, restoreWith, restoreArguments_eq hnow hkey hn hpos hoption]
  by_cases htime : InTime now n <;> simp only [htime, if_true, if_false] <;> rfl

theorem execute_restore_of_not_inTime (htime : ¬InTime now n) :
    execute s now (name :: keyArg :: amount :: payload :: option.toList) =
      (.error "ERR invalid expire time in 'restore' command", s) := by
  rw [← message_expireTime]
  apply execute_of_error
  rw [attempt_restore hnow hname hkey hn hpos hoption, if_neg htime]

/-- If it is in time, the command answers as the shard does. -/
theorem execute_restore_of_inTime (h : s.Sound) (htime : InTime now n) :
    ∃ reply, execute s now (name :: keyArg :: amount :: payload :: option.toList) =
        (reply, (s.restore now key (lifetime n) payload option.isSome).2) ∧
      (reply = .ok ↔ (s.restore now key (lifetime n) payload option.isSome).1 = .ok ()) ∧
      reply ≠ .error "ERR invalid expire time in 'restore' command" := by
  have hrestore := (h.restore_sets key (htime.lifetime_fits hnow) payload option.isSome).1
  have hattempt : attempt s now (name :: keyArg :: amount :: payload :: option.toList) = _ :=
    attempt_restore hnow hname hkey hn hpos hoption
  rw [if_pos htime] at hattempt
  rcases hresult : s.restore now key (lifetime n) payload option.isSome with ⟨why | _, s'⟩ <;>
    rw [hresult] at hattempt hrestore
  · have hwhy : why = .busyKey ∨ (∃ c, why = .corrupt c) ∨
        ∃ length, why = .vectorSize s.dimension length := by
      split at hrestore
      · cases hrestore
        exact .inl rfl
      · cases hdecode : Payload.decode payload s.dimension with
        | ok r =>
          rw [hdecode] at hrestore
          cases hrestore
        | error e =>
          rw [hdecode] at hrestore
          cases hrestore
          exact .inr (Payload.refused_of_decode hdecode)
    -- None of these is the fault that a command reports as its time.
    have hfailed : attempt s now (name :: keyArg :: amount :: payload :: option.toList) =
        (.error (.failed why), s') := by
      rw [hattempt]
      rcases hwhy with rfl | ⟨c, rfl⟩ | ⟨length, rfl⟩ <;> rfl
    refine ⟨_, execute_of_error hfailed, ⟨nofun, nofun⟩, fun he => ?_⟩
    exact message_failed_ne hwhy (Reply.error.inj he)
  · exact ⟨.ok, execute_of_ok hattempt, ⟨fun _ => rfl, fun _ => rfl⟩, nofun⟩

end Restore

/-! ## The commands -/

/-- What a command comes to that gives a key so many milliseconds to live. -/
structure Timed (s : Shard) (now : Nat) (key : String) (ms : Int) (rejection : Reply)
    (o : Reply × Shard) : Prop where
  rejected : o.1 = rejection ↔ ¬InTime now ms
  untouched : ¬InTime now ms → o.2 = s
  absent : InTime now ms → s.live? now key = none →
    o.1 = .integer 0 ∧ ∀ x, o.2.live? now x = s.live? now x
  given : InTime now ms → ∀ b, s.live? now key = some b → o.1 = .integer 1 ∧
    s.Sets o.2 now key (if ms ≤ 0 then none else some { b with deadline := some (now + ms.toNat) })

/-- What a command comes to that restores a payload with so many milliseconds to live. -/
structure Revived (s : Shard) (now : Nat) (key : String) (ms : Int) (payload : Bytes)
    (replace : Bool) (rejection : Reply) (o : Reply × Shard) : Prop where
  rejected : o.1 = rejection ↔ ¬InTime now ms
  untouched : ¬InTime now ms → o.2 = s
  succeeds : o.1 = .ok ↔ InTime now ms ∧ (replace = true ∨ s.live? now key = none) ∧
    ∃ r, Payload.decode payload s.dimension = .ok r
  bound : o.1 = .ok → ∃ r, Payload.decode payload s.dimension = .ok r ∧
    s.Sets o.2 now key (some ⟨.vector r, if ms = 0 then none else some (now + ms.toNat)⟩)

theorem timed_expire (h : s.Sound) (hnow : now ≤ 2 ^ 63 - 1)
    (hname : ((Utf8.lossy name).toUpper, unit) ∈ timers) (hkey : keyOf keyArg = .ok key)
    (hn : integerOf amount .notInteger = .ok n) :
    Timed s now key (n * unit) (.error (Rejection.expireTime (Utf8.lossy name).toUpper).message)
      (execute s now [name, keyArg, amount]) := by
  by_cases htime : InTime now (n * unit)
  · obtain ⟨-, hsets⟩ := h.expire_sets key (htime.fits hnow)
    rw [execute_expire_of_inTime hnow hname hkey hn h htime]
    refine ⟨⟨nofun, absurd htime⟩, absurd htime, fun _ hlive => ?_, fun _ b hlive => ?_⟩
    · rw [hlive] at hsets ⊢
      refine ⟨rfl, fun x => ?_⟩
      rw [hsets x]
      split
      · rename_i hx
        rw [hx, hlive]
        rfl
      · rfl
    · rw [hlive] at hsets ⊢
      refine ⟨rfl, ?_⟩
      simpa only [Option.bind_some, Int.toNat_eq_zero] using hsets
  · rw [execute_expire_of_not_inTime hnow hname hkey hn htime]
    exact ⟨⟨fun _ => htime, fun _ => rfl⟩, fun _ => rfl, fun hin => absurd hin htime,
      fun hin => absurd hin htime⟩

theorem revived_restore (h : s.Sound) (hnow : now ≤ 2 ^ 63 - 1)
    (hname : (Utf8.lossy name).toUpper = "RESTORE") (hkey : keyOf keyArg = .ok key)
    (hn : integerOf amount .negativeTtl = .ok n) (hpos : 0 ≤ n)
    (hoption : ∀ o ∈ option, isWord o "REPLACE" = true) :
    Revived s now key n payload option.isSome
      (.error "ERR invalid expire time in 'restore' command")
      (execute s now (name :: keyArg :: amount :: payload :: option.toList)) := by
  by_cases htime : InTime now n
  · obtain ⟨hresult, hsets⟩ :=
      h.restore_sets key (htime.lifetime_fits hnow) payload option.isSome
    obtain ⟨reply, hexecute, hok, hne⟩ : ∃ reply,
        execute s now (name :: keyArg :: amount :: payload :: option.toList) = (reply, _) ∧ _ :=
      execute_restore_of_inTime hnow hname hkey hn hpos hoption h htime
    have hsucceeds : (s.restore now key (lifetime n) payload option.isSome).1 = .ok () ↔
        (option.isSome = true ∨ s.live? now key = none) ∧
          ∃ r, Payload.decode payload s.dimension = .ok r := by
      rw [hresult]
      cases option.isSome <;> cases s.live? now key <;>
        cases Payload.decode payload s.dimension <;> simp [Except.map]
    rw [hexecute]
    refine ⟨⟨fun he => absurd he hne, absurd htime⟩, absurd htime, ?_, fun he => ?_⟩
    · rw [hok, hsucceeds]
      exact ⟨fun hr => ⟨htime, hr⟩, And.right⟩
    · obtain ⟨-, r, hdecode⟩ := hsucceeds.1 (hok.1 he)
      have hbound := hsets r hdecode (hok.1 he)
      rw [deadline_lifetime now hpos] at hbound
      exact ⟨r, hdecode, hbound⟩
  · rw [execute_restore_of_not_inTime hnow hname hkey hn hpos hoption htime]
    exact ⟨⟨fun _ => htime, fun _ => rfl⟩, fun _ => rfl, ⟨nofun, fun hin => absurd hin.1 htime⟩,
      nofun⟩

/-- **Times to live are exact up to their limits.** Let the time be a signed word.

An EXPIRE or PEXPIRE with an integer amount is rejected for its time iff the amount in milliseconds,
or the moment that far from now, is no signed word; then nothing has been touched. Otherwise it
answers 0 and changes nothing if the key is not live. If it is, the answer is 1, and the key is
deleted by an amount up to zero and has its deadline exactly that far from now by any other. A
RESTORE with an amount from zero on is rejected for its time under the same condition, and if it
succeeds the key has the decoded vector with that deadline, or without one if the amount is zero. So
an EXPIRE and a PEXPIRE of a thousand times the amount have the same effect. -/
theorem lifetimes_exact (h : s.Reached) (hnow : now ≤ 2 ^ 63 - 1)
    (hkey : keyOf keyArg = .ok key) :
    (∀ name unit amount n, ((Utf8.lossy name).toUpper, unit) ∈ timers →
      integerOf amount .notInteger = .ok n →
      Timed s now key (n * unit) (.error (Rejection.expireTime (Utf8.lossy name).toUpper).message)
        (execute s now [name, keyArg, amount])) ∧
    (∀ name amount payload (option : Option Bytes) n, (Utf8.lossy name).toUpper = "RESTORE" →
      integerOf amount .negativeTtl = .ok n → 0 ≤ n →
      (∀ o ∈ option, isWord o "REPLACE" = true) →
      Revived s now key n payload option.isSome
        (.error "ERR invalid expire time in 'restore' command")
        (execute s now (name :: keyArg :: amount :: payload :: option.toList))) ∧
    ∀ name name' amount amount' n, (Utf8.lossy name).toUpper = "EXPIRE" →
      (Utf8.lossy name').toUpper = "PEXPIRE" → integerOf amount .notInteger = .ok n →
      integerOf amount' .notInteger = .ok (1000 * n) →
      (execute s now [name, keyArg, amount]).2 = (execute s now [name', keyArg, amount']).2 ∧
      ∀ m, (execute s now [name, keyArg, amount]).1 = .integer m ↔
        (execute s now [name', keyArg, amount']).1 = .integer m := by
  refine ⟨fun name unit amount n hname hn => timed_expire h.sound hnow hname hkey hn,
    fun name amount payload option n hname hn hpos hoption =>
      revived_restore h.sound hnow hname hkey hn hpos hoption,
    fun name name' amount amount' n hname hname' hn hn' => ?_⟩
  have hms : 1000 * n * 1 = n * 1000 := by omega
  have hseconds : ((Utf8.lossy name).toUpper, (1000 : Int)) ∈ timers := by simp [hname, timers]
  have hmillis : ((Utf8.lossy name').toUpper, (1 : Int)) ∈ timers := by simp [hname', timers]
  by_cases htime : InTime now (n * 1000)
  · rw [execute_expire_of_inTime hnow hseconds hkey hn h.sound htime,
      execute_expire_of_inTime hnow hmillis hkey hn' h.sound (hms ▸ htime), hms]
    exact ⟨rfl, fun m => Iff.rfl⟩
  · rw [execute_expire_of_not_inTime hnow hseconds hkey hn htime,
      execute_expire_of_not_inTime hnow hmillis hkey hn' (hms ▸ htime)]
    exact ⟨rfl, fun m => ⟨nofun, nofun⟩⟩

/-- At the last moment that is a signed word a key may only be deleted. -/
theorem lifetimes_exact_last : ∃ s : Shard, s.Reached ∧ (s.live? (2 ^ 63 - 1) "a").isSome ∧
    (execute s (2 ^ 63 - 1) [Bytes.ofText "Expire", Bytes.ofText "a", Bytes.ofText "1"]).1 =
      .error "ERR invalid expire time in 'expire' command" ∧
    (execute s (2 ^ 63 - 1) [Bytes.ofText "expire", Bytes.ofText "a", Bytes.ofText " -3"]).1 =
      .integer 1 ∧
    (execute s (2 ^ 63 - 1) [Bytes.ofText "expire", Bytes.ofText "a", Bytes.ofText " -3"]).2.live?
      (2 ^ 63 - 1) "a" = none := by
  obtain ⟨s, hreached, -, -, -, -, hvector⟩ := Shard.exists_single
  have hlive : (s.live? (2 ^ 63 - 1) "a").isSome := by
    have hsome := hreached.sound.vector?_eq (2 ^ 63 - 1) "a"
    rw [(hvector _).1] at hsome
    rw [Shard.live?]
    cases hb : (s.binding? "a").filter (·.isLive (2 ^ 63 - 1)) with
    | none =>
      rw [hb] at hsome
      cases hsome
    | some b => rfl
  have hkey : keyOf (Bytes.ofText "a") = .ok "a" := by rw [keyOf, Bytes.text?_ofText]
  have hnumber : ∀ {text : String} {n : Int}, Numeral.int64? (Text.trim text.toList) = some n →
      integerOf (Bytes.ofText text) .notInteger = .ok n := by
    intro text n hn
    rw [integerOf, Bytes.text?_ofText, Option.bind_some, hn]
  have hupper : (Utf8.lossy (Bytes.ofText "Expire")).toUpper = "EXPIRE" := by decide +kernel
  have hupper' : (Utf8.lossy (Bytes.ofText "expire")).toUpper = "EXPIRE" := by decide +kernel
  have hmessage : (Rejection.expireTime "EXPIRE").message =
    "ERR invalid expire time in 'expire' command" := by decide +kernel
  obtain ⟨hexpire, -⟩ := lifetimes_exact hreached (Nat.le_refl (2 ^ 63 - 1)) hkey
  have hlong := hexpire (Bytes.ofText "Expire") 1000 (Bytes.ofText "1") 1
    (by rw [hupper]; decide) (hnumber (by decide +kernel))
  have hdelete := hexpire (Bytes.ofText "expire") 1000 (Bytes.ofText " -3") (-3)
    (by rw [hupper']; decide) (hnumber (by decide +kernel))
  obtain ⟨b, hb⟩ := Option.isSome_iff_exists.1 hlive
  obtain ⟨hreply, hsets⟩ := hdelete.given (by decide) b hb
  refine ⟨s, hreached, hlive, ?_, hreply, ?_⟩
  · rw [← hmessage, ← hupper]
    exact hlong.rejected.2 (by decide)
  · exact (hsets "a").trans (if_pos rfl)

end Command

end Nearest

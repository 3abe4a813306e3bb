import Nearest.Command
import Nearest.Proofs.Shedding

/-!
# Rejected commands

Every command checks its arguments before it touches the shard, and what fails after that has done
no more than to settle a key or to purge: the shard has shed keys (`Shard.Sheds`).

* `Command.Proper` is what holds of the outcome of every command. It is shown for each command and
  put together in `Command.proper_attempt`; `Command.reached_execute` follows from it.
* `Command.live_of_execute_error` is what it means for a command that is answered by an error.
-/

namespace Nearest

/-- Whether a reply reports an error. -/
def Reply.isError : Reply → Bool
  | .error _ => true
  | _ => false

namespace Command

variable {s s' : Shard} {now : Nat}

/-- What holds of the outcome of every command: a reply is no error, a rejection has released
nothing but keys that were due, and operations lead to the shard. -/
structure Proper (s : Shard) (now : Nat) (o : Outcome) : Prop where
  reply : ∀ r, o.1 = .ok r → r.isError = false
  rejected : ∀ why, o.1 = .error why → s.Sheds now o.2
  reached : s.Reached → o.2.Reached

/-- A command that answers a reply. -/
theorem proper_ok {r : Reply} (hr : r.isError = false) (hreached : s.Reached → s'.Reached) :
    Proper s now (.ok r, s') where
  reply _ h := Except.ok.inj h ▸ hr
  rejected _ h := by cases h
  reached := hreached

/-- A command that is rejected after keys that were due have been released. -/
theorem proper_error (why : Rejection) (hsheds : s.Sheds now s')
    (hreached : s.Reached → s'.Reached) : Proper s now (.error why, s') where
  reply _ h := by cases h
  rejected _ _ := hsheds
  reached := hreached

/-- A rejection before anything is done. -/
theorem proper_refused (s : Shard) (now : Nat) (why : Rejection) : Proper s now (.error why, s) :=
  proper_error why (s.sheds_self now) id

/-- A command that has done one operation. -/
theorem proper_done (op : Op) {r : Reply} (hr : r.isError = false) (hs' : (s.run now op).2 = s') :
    Proper s now (.ok r, s') :=
  proper_ok hr fun h => hs' ▸ h.run now op

/-- A command whose operation has failed. -/
theorem proper_failed (op : Op) (why : Rejection) (hsheds : s.Sheds now s')
    (hs' : (s.run now op).2 = s') : Proper s now (.error why, s') :=
  proper_error why hsheds fun h => hs' ▸ h.run now op

theorem Proper.checked {α : Type} {check : Except Rejection α} {run : α → Outcome}
    (h : ∀ a, Proper s now (run a)) : Proper s now (checked s check run) := by
  unfold Command.checked
  split
  · exact h _
  · exact proper_refused s now _

theorem Proper.replied {α : Type} (result : Except Fault α) {reply : α → Reply}
    (hreply : ∀ a, (reply a).isError = false) (hsheds : s.Sheds now s')
    (hreached : s.Reached → s'.Reached) : Proper s now (replied s' result reply) := by
  unfold Command.replied
  split
  · exact proper_ok (hreply _) hreached
  · exact proper_error _ hsheds hreached

/-! ## Each command -/

theorem proper_addVector (s : Shard) (now : Nat) (args : List Bytes) :
    ∀ o ∈ addVector s args, Proper s now o := by
  unfold addVector
  split
  case h_1 key payload =>
    rintro o ⟨⟩
    refine .checked fun key => ?_
    cases hadd : s.add key payload with
    | ok s' => exact proper_done (.add key payload) rfl (by rw [Shard.run, hadd])
    | error why => exact proper_refused s now _
  case h_2 => rintro _ ⟨⟩

theorem proper_searchWith (h : s.Sound) (now : Nat) (k : Int) (filter : Option String)
    (query : Bytes) : Proper s now (searchWith s now k filter query) :=
  .replied _ (fun _ => rfl) (h.sheds_search now k filter query) fun hs =>
    hs.search now k filter query

theorem proper_searchVector (h : s.Sound) (now : Nat) (args : List Bytes) :
    ∀ o ∈ searchVector s now args, Proper s now o := by
  unfold searchVector
  split
  case h_1 k query =>
    rintro o ⟨⟩
    exact .checked fun k => proper_searchWith h now k none query
  case h_2 k filter query =>
    rintro o ⟨⟩
    exact .checked fun k => .checked fun filter => proper_searchWith h now k filter query
  case h_3 => rintro _ ⟨⟩

theorem proper_delete (s : Shard) (now : Nat) (args : List Bytes) :
    ∀ o ∈ delete s now args, Proper s now o := by
  unfold delete
  split
  case h_1 => rintro _ ⟨⟩
  case h_2 =>
    rintro o ⟨⟩
    exact .checked fun keys => proper_done (.delete keys) rfl rfl

theorem proper_flush (s : Shard) (now : Nat) (args : List Bytes) :
    ∀ o ∈ flush s args, Proper s now o := by
  unfold flush
  split
  case h_1 =>
    rintro o ⟨⟩
    exact proper_done .flush rfl rfl
  case h_2 mode =>
    rintro o ⟨⟩
    split
    · exact proper_done .flush rfl rfl
    · exact proper_refused s now _
  case h_3 => rintro _ ⟨⟩

theorem proper_dump (s : Shard) (now : Nat) (args : List Bytes) :
    ∀ o ∈ dump s now args, Proper s now o := by
  unfold dump
  split
  case h_1 key =>
    rintro o ⟨⟩
    refine .checked fun key => ?_
    have hsheds : s.Sheds now (s.dump now key).2 := s.snd_dump now key ▸ s.sheds_settle now key
    exact .replied _ (fun p => by cases p <;> rfl) hsheds fun hs =>
      s.snd_run_dump now key ▸ hs.run now (.dump key)
  case h_2 => rintro _ ⟨⟩

theorem proper_restoreWith (name : String) (s : Shard) (now : Nat) (key ttl payload : Bytes)
    (option : Option Bytes) : Proper s now (restoreWith name s now key ttl payload option) := by
  refine .checked fun (key, ttl, replace) => ?_
  dsimp only
  let op : Op := .restore key (if 0 < ttl then some ttl.toNat else none) payload replace
  have hsheds : s.Sheds now (if replace then s else s.settle now key) := by
    cases replace
    · exact s.sheds_settle now key
    · exact s.sheds_self now
  split
  · rename_i heq
    exact proper_done op rfl (by rw [Shard.run, heq])
  all_goals
    rename_i heq
    exact proper_failed op _ (Shard.snd_restore_of_error heq ▸ hsheds) (by rw [Shard.run, heq])

theorem proper_restore (name : String) (s : Shard) (now : Nat) (args : List Bytes) :
    ∀ o ∈ restore name s now args, Proper s now o := by
  unfold restore
  split
  case h_1 key ttl payload =>
    rintro o ⟨⟩
    exact proper_restoreWith name s now key ttl payload none
  case h_2 key ttl payload option =>
    rintro o ⟨⟩
    exact proper_restoreWith name s now key ttl payload (some option)
  case h_3 => rintro _ ⟨⟩

theorem proper_size (s : Shard) (now : Nat) (args : List Bytes) :
    ∀ o ∈ size s now args, Proper s now o := by
  unfold size
  split
  case h_1 =>
    rintro o ⟨⟩
    exact proper_ok rfl id
  case h_2 => rintro _ ⟨⟩

theorem proper_expire (name : String) (unit : Int) (s : Shard) (now : Nat) (args : List Bytes) :
    ∀ o ∈ expire name unit s now args, Proper s now o := by
  unfold expire
  split
  case h_1 key amount =>
    rintro o ⟨⟩
    refine .checked fun (key, ms) => ?_
    dsimp only
    split
    · rename_i heq
      exact proper_done (.expire key ms.toNat) rfl (by rw [Shard.run, heq])
    all_goals
      rename_i heq
      exact proper_failed (.expire key ms.toNat) _
        (Shard.snd_expire_of_error heq ▸ s.sheds_settle now key) (by rw [Shard.run, heq])
  case h_2 => rintro _ ⟨⟩

theorem proper_set (s : Shard) (now : Nat) (args : List Bytes) :
    ∀ o ∈ set s args, Proper s now o := by
  unfold set
  split
  case h_1 key value =>
    rintro o ⟨⟩
    exact .checked fun key => proper_done (.setPlain key value) rfl rfl
  case h_2 => rintro _ ⟨⟩

/-! ## Every command -/

theorem proper_run (h : s.Sound) (name given : String) (now : Nat) (args : List Bytes) :
    ∀ o ∈ run name given s now args, Proper s now o := by
  unfold run
  split
  · exact proper_addVector s now args
  · exact proper_searchVector h now args
  · exact proper_delete s now args
  · exact proper_flush s now args
  · exact proper_flush s now args
  · exact proper_dump s now args
  · exact proper_restore _ s now args
  · exact proper_size s now args
  · exact proper_expire _ _ s now args
  · exact proper_expire _ _ s now args
  · exact proper_set s now args
  · rintro o ⟨⟩
    exact proper_refused s now _

theorem proper_attempt (h : s.Sound) (now : Nat) (argv : List Bytes) :
    Proper s now (attempt s now argv) := by
  unfold attempt
  split
  · exact proper_refused s now _
  · rename_i name args
    dsimp only
    cases hrun : run (Utf8.lossy name).toUpper (Utf8.lossy name) s now args with
    | none => exact proper_refused s now _
    | some o => exact proper_run h _ _ now args o hrun

theorem snd_execute (s : Shard) (now : Nat) (argv : List Bytes) :
    (execute s now argv).2 = (attempt s now argv).2 := by
  unfold execute
  dsimp only
  split <;> rfl

/-- Commands lead from shards that operations lead to, to such shards. -/
theorem reached_execute (h : s.Reached) (now : Nat) (argv : List Bytes) :
    (execute s now argv).2.Reached :=
  snd_execute s now argv ▸ (proper_attempt h.sound now argv).reached h

/-- An error answers nothing but a rejection. -/
theorem attempt_of_error (h : s.Sound) {argv : List Bytes} {text : String}
    (herror : (execute s now argv).1 = .error text) :
    ∃ why, (attempt s now argv).1 = .error why := by
  unfold execute at herror
  dsimp only at herror
  cases hresult : (attempt s now argv).1 with
  | error why => exact ⟨why, rfl⟩
  | ok r =>
    rw [hresult] at herror
    have hr := (proper_attempt h now argv).reply r hresult
    rw [show r = .error text from herror] at hr
    cases hr

/-! ## Rejections that touch nothing -/

theorem keysOf_of_not_text {args : List Bytes} (h : ∃ arg ∈ args, Bytes.text? arg = none) :
    keysOf args = .error .keyNotUtf8 := by
  induction args with
  | nil => simp at h
  | cons arg args ih =>
    rw [keysOf, keyOf]
    cases htext : Bytes.text? arg with
    | none => rfl
    | some key =>
      rw [ih (by simpa [htext] using h)]
      rfl

/-- A deletion with a key that is no text deletes none of its keys. -/
theorem execute_delete_of_not_text (s : Shard) (now : Nat) {name : Bytes} {args : List Bytes}
    (hname : (Utf8.lossy name).toUpper = "DEL") (h : ∃ arg ∈ args, Bytes.text? arg = none) :
    execute s now (name :: args) = (.error Rejection.keyNotUtf8.message, s) := by
  have hrun : delete s now args = some (.error .keyNotUtf8, s) := by
    unfold delete
    split
    · simp at h
    · rw [keysOf_of_not_text h]
      rfl
  rw [execute, attempt, hname, run, hrun]
  rfl

theorem restoreArguments_replace {name : String} {key ttl option : Bytes}
    {a : String × Int × Bool} (h : restoreArguments name now key ttl (some option) = .ok a) :
    a.2.2 = true := by
  simp only [restoreArguments, bind, Except.bind, pure, Except.pure, throw, throwThe,
    MonadExceptOf.throw] at h
  repeat' split at h
  all_goals cases h
  all_goals rfl

/-- A restoring that may replace touches nothing unless it succeeds. -/
theorem snd_restoreWith_of_error {name : String} {key ttl payload option : Bytes} {why : Rejection}
    (h : (restoreWith name s now key ttl payload (some option)).1 = .error why) :
    (restoreWith name s now key ttl payload (some option)).2 = s := by
  unfold restoreWith checked at h ⊢
  split
  · rename_i a hargs
    obtain ⟨key, ttl, replace⟩ := a
    cases restoreArguments_replace hargs
    rw [hargs] at h
    dsimp only at h ⊢
    split
    · rename_i heq
      rw [heq] at h
      cases h
    all_goals
      rename_i heq
      exact Shard.snd_restore_of_error heq
  · rfl

theorem execute_restore_of_error (h : s.Sound) {name key ttl payload option : Bytes} {text : String}
    (hname : (Utf8.lossy name).toUpper = "RESTORE")
    (herror : (execute s now [name, key, ttl, payload, option]).1 = .error text) :
    (execute s now [name, key, ttl, payload, option]).2 = s := by
  have hattempt : attempt s now [name, key, ttl, payload, option] =
      restoreWith "RESTORE" s now key ttl payload (some option) := by
    rw [attempt, hname]
    rfl
  obtain ⟨why, hwhy⟩ := attempt_of_error h herror
  rw [hattempt] at hwhy
  rw [snd_execute, hattempt]
  exact snd_restoreWith_of_error hwhy

/-! ## Rejected commands -/

/-- **A rejected command leaves the keyspace.** Whatever the arguments are, if the answer is an
error then nothing has happened to the shard but the release of keys that were due, so every key has
the vector, the plain value and the deadline that it had. In particular a deletion with one key that
is no text deletes none, and a restoring that may replace leaves the shard unless it succeeds. -/
theorem live_of_execute_error (h : s.Reached) (now : Nat) :
    (∀ argv text, (execute s now argv).1 = .error text →
      s.Sheds now (execute s now argv).2 ∧
        ∀ key, (execute s now argv).2.vector? now key = s.vector? now key ∧
          (execute s now argv).2.plain? now key = s.plain? now key ∧
          (execute s now argv).2.deadline? now key = s.deadline? now key) ∧
    (∀ name args, (Utf8.lossy name).toUpper = "DEL" → (∃ arg ∈ args, Bytes.text? arg = none) →
      execute s now (name :: args) = (.error Rejection.keyNotUtf8.message, s)) ∧
    ∀ name key ttl payload option text, (Utf8.lossy name).toUpper = "RESTORE" →
      (execute s now [name, key, ttl, payload, option]).1 = .error text →
        (execute s now [name, key, ttl, payload, option]).2 = s := by
  refine ⟨fun argv text herror => ?_, fun name args => execute_delete_of_not_text s now,
    fun name key ttl payload option text => execute_restore_of_error h.sound⟩
  obtain ⟨why, hwhy⟩ := attempt_of_error h.sound herror
  have hsheds : s.Sheds now (execute s now argv).2 :=
    snd_execute s now argv ▸ (proper_attempt h.sound now argv).rejected why hwhy
  exact ⟨hsheds, hsheds.live h.sound⟩

/-- A vector with a deadline, which neither a restoring of a corrupt payload nor a deletion with a
second key that is no text takes away. -/
theorem live_of_execute_error_replace : ∃ s : Shard, s.Reached ∧
    let restore := [Bytes.ofText "Restore", Bytes.ofText "a", Bytes.ofText "0", [1, 2],
      Bytes.ofText "replace"]
    let delete := [Bytes.ofText "del", Bytes.ofText "a", [0xff]]
    (execute s 7 restore).1 = .error "ERR corrupt payload: payload too short (2 bytes)" ∧
      (execute s 7 restore).2.vector? 7 "a" = some ⟨[0x3f800000]⟩ ∧
      (execute s 7 restore).2.deadline? 7 "a" = some 5000 ∧
      execute s 7 delete = (.error "ERR key is not valid UTF-8", s) := by
  obtain ⟨s, hreached, -, hbinding⟩ := Shard.exists_reached
    (rfl : Settings.check { dimension := 1 } = .ok ())
    ⟨[("a", ⟨.vector ⟨[0x3f800000]⟩, some 5000⟩)]⟩ (by decide)
  have hvector : s.vector? 7 "a" = some ⟨[0x3f800000]⟩ := by
    rw [hreached.sound.vector?_eq, hbinding]
    rfl
  have hdeadline : s.deadline? 7 "a" = some 5000 := by
    rw [hreached.sound.deadline?_eq, hbinding]
    rfl
  have hrestore : (Utf8.lossy (Bytes.ofText "Restore")).toUpper = "RESTORE" := by decide +kernel
  have hdelete : (Utf8.lossy (Bytes.ofText "del")).toUpper = "DEL" := by decide +kernel
  have harguments : restoreArguments "RESTORE" 7 (Bytes.ofText "a") (Bytes.ofText "0")
      (some (Bytes.ofText "replace")) = .ok ("a", 0, true) := rfl
  have herror : (execute s 7 [Bytes.ofText "Restore", Bytes.ofText "a", Bytes.ofText "0", [1, 2],
      Bytes.ofText "replace"]).1 = .error "ERR corrupt payload: payload too short (2 bytes)" := by
    rw [execute, attempt, hrestore, run, restore, restoreWith, harguments]
    rfl
  obtain ⟨hkept, hnone, -⟩ := live_of_execute_error hreached 7
  have ha := (hkept _ _ herror).2 "a"
  exact ⟨s, hreached, herror, ha.1.trans hvector, ha.2.2.trans hdeadline,
    hnone _ _ hdelete ⟨[0xff], by simp, by decide +kernel⟩⟩

end Command

end Nearest

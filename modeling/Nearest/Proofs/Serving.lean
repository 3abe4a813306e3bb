import Nearest.CommandLine.Run
import Nearest.Proofs.Exactness
import Nearest.Proofs.Images
import Nearest.Proofs.Restoring

/-!
# Requests to a shard in memory

The reference for runs of the command line: one shard that stays in memory and is asked again and
again, without ever being saved or loaded.

* `CommandLine.Request` is what can be asked, `CommandLine.Answer` what comes of it.
* `Shard.serve` serves one request, `Shard.serveAll` a list of them, each at its time.
* `Shard.Refines.serve_congr`: shards that refine the same keyspace give the same answer, and
  `Shard.Refines.serve` says which keyspace they refine afterwards.
* `Shard.Sound.ofRequest_of_answer` says what a request can be refused for.
-/

namespace Nearest

namespace CommandLine

/-- What is asked of the shard in a data directory. -/
inductive Request
  /-- A search for the best `k` with a vector as it is written. -/
  | query (k : Int) (filter : Option String) (vector : String)
  | count
  | del (keys : List String)
  | flush

namespace Request

/-- The action that asks for it. -/
def action : Request → Action
  | query k filter vector => .query k filter (some vector)
  | count => .count
  | del keys => .del keys
  | flush => .flush

/-- Whether it may change what is stored. -/
def saves : Request → Bool
  | query .. | count => false
  | del _ | flush => true

/-- What it does to the keys. -/
def op : Request → Op
  | query .. | count => .purge
  | del keys => .delete keys
  | flush => .flush

end Request

/-- What comes of a request. -/
inductive Answer
  | found (r : Response)
  | refused (why : Fault)
  | counted (vectors keys : Nat)
  | deleted (removed asked : Nat)
  | flushed (released : Nat)

/-- What comes of a search. -/
def Answer.ofSearch : Except Fault Response → Answer
  | .ok r => .found r
  | .error why => .refused why

end CommandLine

open CommandLine (Request Answer)

namespace Shard

/-- Answers a request. -/
def answer (s : Shard) (now : Nat) : Request → Answer × Shard
  | .query k filter vector =>
    match Record.componentsOfText vector with
    | .error why => (.refused why, s)
    | .ok v =>
      let (result, s) := s.search now k filter (Bytes.ofWords32 v)
      (.ofSearch result, s)
  | .count => (.counted (s.vectorCount now) (s.keyCount now), s)
  | .del keys =>
    let (removed, s) := s.delete now keys
    (.deleted removed keys.length, s)
  | .flush =>
    let (released, s) := s.flush
    (.flushed released, s)

/-- Serves a request: what is due is released, then it is answered. -/
def serve (s : Shard) (now : Nat) (request : Request) : Answer × Shard :=
  (s.purge now).2.answer now request

/-- Serves requests one after the other, each at its time. -/
def serveAll : Shard → List (Nat × Request) → List Answer × Shard
  | s, [] => ([], s)
  | s, (now, request) :: rest =>
    let (answer, s) := s.serve now request
    let (answers, s) := s.serveAll rest
    (answer :: answers, s)

variable {s s' : Shard} {k : Keyspace} {now : Nat}

/-! ## What is served -/

/-- Releasing what is due leaves the keyspace that a shard refines. -/
theorem Refines.sheds (h : s.Refines k now) (hs : s.Sheds now s') : s'.Refines k now where
  sound := by
    obtain ⟨keys, -, rfl⟩ := hs
    exact (h.sound.releaseAll keys).1
  live key := (hs.filter_isLive h.sound key).trans (h.live key)

/-- Answering a request binds nothing. -/
theorem Sound.binding?_of_answer (h : s.Sound) (request : Request) {key : String} {b : Binding}
    (hb : (s.answer now request).2.binding? key = some b) : s.binding? key = some b := by
  have hreleased : ∀ keys : List String,
      (keys.foldl (fun s key => (s.release key).2) s).binding? key = some b →
        s.binding? key = some b := by
    intro keys hkeys
    rw [(h.releaseAll keys).2.2] at hkeys
    split at hkeys
    · cases hkeys
    · exact hkeys
  cases request with
  | query count filter vector =>
    rw [Shard.answer] at hb
    cases hv : Record.componentsOfText vector with
    | error why => rwa [hv] at hb
    | ok v =>
      rw [hv] at hb
      obtain ⟨keys, -, hkeys⟩ := h.sheds_search now count filter (Bytes.ofWords32 v)
      exact hreleased keys (hkeys ▸ hb)
  | count => exact hb
  | del keys =>
    have hdelete : (s.delete now keys).2.binding? key = some b := hb
    rw [snd_delete] at hdelete
    exact hreleased keys hdelete
  | flush =>
    have hflush : s.flush.2.binding? key = some b := hb
    rw [h.flush.2.2] at hflush
    cases hflush

/-- A shard in which all is live has nothing to release before. -/
theorem Sound.serve_of_not_due (h : s.Sound) (hdue : ∀ key, s.isDue now key = false)
    (request : Request) : s.serve now request = s.answer now request := by
  rw [serve, h.purge_of_not_due hdue]

namespace Refines

theorem answer (h : s.Refines k now) (request : Request) :
    (s.answer now request).2.settings = s.settings ∧
      (s.answer now request).2.Refines (k.run s.dimension now request.op).2 now := by
  cases request with
  | query count filter vector =>
    rw [Shard.answer]
    cases Record.componentsOfText vector with
    | error why => exact ⟨rfl, h⟩
    | ok v =>
      have hsheds := h.sound.sheds_search now count filter (Bytes.ofWords32 v)
      exact ⟨(h.sound.search now count filter _).2, h.sheds hsheds⟩
  | count => exact ⟨rfl, h⟩
  | del keys => exact ⟨(h.delete keys).settings, (h.delete keys).refines⟩
  | flush => exact ⟨h.flush.settings, h.flush.refines⟩

/-- Serving a request does to a shard what it does to the keyspace. -/
theorem serve (h : s.Refines k now) (request : Request) :
    (s.serve now request).2.settings = s.settings ∧
      (s.serve now request).2.Refines (k.run s.dimension now request.op).2 now := by
  have hanswer := h.purge.refines.answer request
  rw [Shard.dimension, h.purge.settings] at hanswer
  exact hanswer

theorem vector?_congr (h : s.Refines k now) (h' : s'.Refines k now) (key : String) :
    s'.vector? now key = s.vector? now key :=
  (h.sameLive h' rfl).vector

/-- **Shards that refine the same keyspace give the same answers**, whatever they have not yet
released, in whatever order they hold their vectors and however they search. -/
theorem serve_congr (h : s.Refines k now) (h' : s'.Refines k now)
    (hdim : s'.dimension = s.dimension) (request : Request) :
    (s'.serve now request).1 = (s.serve now request).1 := by
  have hp : (s.purge now).2.Refines k now := h.purge.refines
  have hp' : (s'.purge now).2.Refines k now := h'.purge.refines
  have hdim' : (s'.purge now).2.dimension = (s.purge now).2.dimension := by
    rw [Shard.dimension, Shard.dimension, (h.sound.purge now).2.1, (h'.sound.purge now).2.1]
    exact hdim
  have hvectors := hp.vector?_congr hp'
  have hcount := hp.sound.vectorCount_congr hp'.sound hvectors
  rw [Shard.serve, Shard.serve]
  cases request with
  | query count filter vector =>
    rw [Shard.answer, Shard.answer]
    cases Record.componentsOfText vector with
    | error why => rfl
    | ok v =>
      exact congrArg Answer.ofSearch
        (hp.sound.search_congr hp'.sound hdim' hvectors count filter (Bytes.ofWords32 v))
  | count =>
    have hkeys := hp.sound.keyCount_congr hp'.sound fun key =>
      (hp'.live key).trans (hp.live key).symm
    exact congrArg₂ Answer.counted hcount hkeys
  | del keys =>
    have hremoved := (hp'.delete keys).outcome.trans (hdim' ▸ (hp.delete keys).outcome).symm
    exact congrArg (Answer.deleted · keys.length) (Outcome.count.inj hremoved)
  | flush =>
    -- what is resident after a purge is live, so as many vectors are released as are counted
    have hsize := hp.sound.vectorCount_of_not_due (h.sound.isDue_purge now)
    have hsize' := hp'.sound.vectorCount_of_not_due (h'.sound.isDue_purge now)
    exact congrArg Answer.flushed (hsize'.symm.trans (hcount.trans hsize))

end Refines

end Shard

/-! ## What is refused -/

/-- Faults that lie in a request itself. -/
def Fault.OfRequest (dimension : UInt64) (why : Fault) : Prop :=
  (∃ objection, why = .argument objection) ∨ ∃ length, why = .vectorSize dimension length

theorem Record.argument_of_componentsOfText {text : String} {why : Fault}
    (h : Record.componentsOfText text = .error why) : ∃ objection, why = .argument objection := by
  rw [Record.componentsOfText] at h
  generalize text.toList.splitOn ',' = parts at h
  induction parts with
  | nil => cases h
  | cons part parts ih =>
    rw [List.mapM_cons] at h
    cases hpart : Record.componentOfText part with
    | error e =>
      rw [hpart] at h
      cases h
      rw [Record.componentOfText] at hpart
      split at hpart <;> cases hpart
      exact ⟨_, rfl⟩
    | ok w =>
      rw [hpart] at h
      cases hrest : parts.mapM Record.componentOfText with
      | error e =>
        rw [hrest] at h
        cases h
        exact ih hrest
      | ok ws =>
        rw [hrest] at h
        cases h

theorem KeyFilter.argument_of_parse {text : String} {why : Fault}
    (h : KeyFilter.parse text = .error why) : ∃ objection, why = .argument objection := by
  by_cases hempty : text = ""
  · rw [hempty, parse_empty] at h
    exact ⟨_, (Except.error.inj h).symm⟩
  by_cases hstar : text = "*"
  · rw [hstar, parse_star] at h
    cases h
  by_cases hmark : ∃ c ∈ text.toList, isMark c = true
  · rw [parse_of_marked hstar hmark] at h
    split at h
    · cases h
    · exact ⟨_, (Except.error.inj h).symm⟩
  · have hunmarked : ∀ c ∈ text.toList, isMark c = false := by simpa using hmark
    rw [parse_of_unmarked hempty hunmarked] at h
    cases h

namespace Shard.Sound

variable {s : Shard} {now : Nat} {why : Fault}

theorem ofRequest_of_search (hs : s.Sound) {k : Int} {filter : Option String} {query : Bytes}
    (h : (s.search now k filter query).1 = .error why) : why.OfRequest s.dimension := by
  cases hfilter : filter.elim (.ok .all) KeyFilter.parse with
  | error e =>
    rw [Shard.search, hfilter] at h
    cases h
    cases filter with
    | none => cases hfilter
    | some text => exact .inl (KeyFilter.argument_of_parse hfilter)
  | ok f =>
    by_cases hk : 0 < k
    · rw [hs.search_eq_map now hk hfilter] at h
      cases hq : Record.ofBytes query s.dimension with
      | ok q =>
        rw [hq] at h
        cases h
      | error e =>
        rw [hq] at h
        cases h
        exact .inr ⟨_, (Record.ofBytes_eq_error_iff.1 hq).2⟩
    · rw [search_of_not_pos s now hk hfilter] at h
      exact .inl ⟨_, (Except.error.inj h).symm⟩

/-- **A request is refused for a fault of its own only**: whether it is depends on no file. -/
theorem ofRequest_of_answer (hs : s.Sound) {request : Request}
    (h : (s.answer now request).1 = .refused why) : why.OfRequest s.dimension := by
  cases request with
  | query k filter vector =>
    rw [Shard.answer] at h
    cases hv : Record.componentsOfText vector with
    | error e =>
      rw [hv] at h
      cases h
      exact .inl (Record.argument_of_componentsOfText hv)
    | ok v =>
      rcases hsearch : s.search now k filter (Bytes.ofWords32 v) with ⟨e | r, s'⟩ <;>
        simp only [hv, hsearch] at h <;> cases h
      exact hs.ofRequest_of_search (congrArg Prod.fst hsearch)
  | count => cases h
  | del keys => cases h
  | flush => cases h

end Shard.Sound

end Nearest

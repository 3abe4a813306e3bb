import Mathlib.Algebra.Order.BigOperators.Group.Finset
import Nearest.Proofs.Counts

/-!
# Shards that report to a tally

Shards work on, and now and then one of them reports its count: to one tally that they share, under
any name, or elsewhere. A name that reports again replaces what it has reported, and a count is as
old as its report, since keys expire without anyone noticing.

* `Cluster.step` is one thing that happens to the shards and the tally, `Cluster.run` any number.
* `Cluster.accepted` is the log of the reports that succeed, each with its name and with how many
  vectors were live in the shard at that moment (`Shard.population`).
* `Cluster.Keeps` relates a cluster to its log. Every step keeps it (`Keeps.step`), so every run
  does (`Keeps.run`), and the tally has the last count of each name, their number and their sum
  (`Keeps.follows`).
* `Cluster.Alike` forgets the order in which the names have come. Reports under different names lead
  to clusters that are alike (`Cluster.alike_step_step`), and these answer the same from then on
  (`Alike.run`).
* `Cluster.tally_follows_reports` puts this together.
-/

namespace Nearest

open Finset

/-! ## Logs of reports -/

/-- The last count that a log has for a name. -/
def latest (log : List (String × ℕ)) (id : String) : Option ℕ :=
  log.reverse.lookup id

/-- The names in a log. -/
def reporters (log : List (String × ℕ)) : Finset String :=
  (log.map (·.1)).toFinset

theorem latest_append (log : List (String × ℕ)) (key id : String) (n : ℕ) :
    latest (log ++ [(key, n)]) id = if id = key then some n else latest log id := by
  rw [latest, List.reverse_concat, lookup_cons_ite]
  rfl

theorem mem_reporters {log : List (String × ℕ)} {id : String} :
    id ∈ reporters log ↔ (latest log id).isSome := by
  simp [reporters, latest]

/-! ## What a tally adds up -/

namespace Tally

variable {t t' : Tally}

/-- The names that have reported. -/
def names (t : Tally) : Finset String :=
  (t.counts.toList.map (·.1)).toFinset

theorem mem_names {id : String} : id ∈ t.names ↔ (t.count? id).isSome := by
  rw [names, List.mem_toFinset, ← lookup_isSome_iff_mem]
  rfl

theorem shards_eq (h : t.counts.Distinct) : t.shards = #t.names := by
  rw [names, List.toFinset_card_of_nodup h, List.length_map]
  rfl

/-- Words are added modulo their number. -/
theorem toNat_foldl_add (l : List (String × UInt64)) (start : UInt64) :
    (l.foldl (fun n (_, count) => n + count) start).toNat =
      (start.toNat + (l.map (·.2.toNat)).sum) % 2 ^ 64 := by
  induction l generalizing start with
  | nil =>
    have := start.toNat_lt
    simp only [List.foldl_nil, List.map_nil, List.sum_nil]
    omega
  | cons row l ih =>
    rw [List.foldl_cons, ih, UInt64.toNat_add, List.map_cons, List.sum_cons]
    omega

/-- The total depends on the counts of the names alone, and not on their order. -/
theorem toNat_total (h : t.counts.Distinct) :
    t.total.toNat = (∑ id ∈ t.names, ((t.count? id).getD 0).toNat) % 2 ^ 64 := by
  have hcount : ∀ row ∈ t.counts.toList, ((t.count? row.1).getD 0).toNat = row.2.toNat := by
    intro row hrow
    have hlookup : t.count? row.1 = some row.2 := (mem_iff_lookup h).1 hrow
    rw [hlookup, Option.getD_some]
  rw [total, toNat_foldl_add, names, List.sum_toFinset _ h, List.map_map,
    ← List.map_congr_left hcount]
  simp [Function.comp_def]

theorem names_congr (heq : ∀ id, t.count? id = t'.count? id) : t.names = t'.names := by
  ext id
  rw [mem_names, mem_names, heq]

theorem shards_congr (h : t.counts.Distinct) (h' : t'.counts.Distinct)
    (heq : ∀ id, t.count? id = t'.count? id) : t.shards = t'.shards := by
  rw [shards_eq h, shards_eq h', names_congr heq]

theorem total_congr (h : t.counts.Distinct) (h' : t'.counts.Distinct)
    (heq : ∀ id, t.count? id = t'.count? id) : t.total = t'.total := by
  apply UInt64.toNat_inj.1
  simp only [toNat_total h, toNat_total h', names_congr heq, heq]

end Tally

/-! ## Reports -/

namespace Shard

variable {s : Shard} {now : Nat}

/-- Reports the number of vectors under a name to whatever takes it. -/
def reportTo {α : Type} (s : Shard) (now : Nat) (id : String)
    (take : String → UInt64 → Except Fault α) : Except Fault (Nat × α) :=
  let count := s.vectorCount now
  (take id (UInt64.ofNat count)).map fun a => (count, a)

/-- A tally is one of those that take reports. -/
theorem report_eq_reportTo (s : Shard) (now : Nat) (id : String) (t : Tally) :
    s.report now id t = s.reportTo now id t.report :=
  rfl

/-- How many vectors are live. -/
noncomputable def population (s : Shard) (now : Nat) : ℕ :=
  {key | (s.vector? now key).isSome}.ncard

theorem Sound.encard_live (h : s.Sound) (now : Nat) :
    {key | (s.vector? now key).isSome}.encard = s.vectorCount now := by
  rw [← h.encard_vectors]
  congr 1
  ext key
  exact h.isSome_vector?

theorem Sound.vectorCount_eq_population (h : s.Sound) (now : Nat) :
    s.vectorCount now = s.population now := by
  rw [population, Set.ncard, h.encard_live, ENat.toNat_natCast]

end Shard

/-! ## Clusters -/

/-- What a shard does besides reporting. -/
inductive Work
  | operate (op : Op)
  | search (k : Int) (filter : Option String) (query : Bytes)
  | image
  | reload (file : Option Bytes)

/-- The shard that is left by some work. -/
def Shard.work (s : Shard) (now : Nat) : Work → Shard
  | .operate op => (s.run now op).2
  | .search k filter query => (s.search now k filter query).2
  | .image => (s.image now).2
  | .reload file => (s.reload now file).2

theorem Shard.Reached.work {s : Shard} (h : s.Reached) (now : Nat) (w : Work) :
    (s.work now w).Reached := by
  cases w with
  | operate op => exact h.run now op
  | search k filter query => exact h.search now k filter query
  | image => exact h.image now
  | reload file => exact h.reload now file

/-- Something that happens among shards: one of them works, or it reports under a name, to the tally
or to something else. -/
inductive Event (ι : Type)
  | work (i : ι) (w : Work)
  | report (i : ι) (id : String)
  | reportTo (i : ι) (id : String) (take : String → UInt64 → Except Fault Unit)

/-- Shards with a tally. -/
structure Cluster (ι : Type) where
  shards : ι → Shard
  tally : Tally := {}

namespace Cluster

variable {ι : Type} {c c' : Cluster ι} {log : List (String × ℕ)}

/-- Binds a name to a count in the tally. -/
def record (c : Cluster ι) (id : String) (n : ℕ) : Cluster ι :=
  { c with tally := ⟨c.tally.counts.insert id (UInt64.ofNat n)⟩ }

@[simp]
theorem shards_record (c : Cluster ι) (id : String) (n : ℕ) : (c.record id n).shards = c.shards :=
  rfl

theorem count?_record (c : Cluster ι) (id x : String) (n : ℕ) :
    (c.record id n).tally.count? x =
      if x = id then some (UInt64.ofNat n) else c.tally.count? x :=
  Table.get?_insert c.tally.counts id x (UInt64.ofNat n)

theorem distinct_record (h : c.tally.counts.Distinct) (id : String) (n : ℕ) :
    (c.record id n).tally.counts.Distinct :=
  h.insert id (UInt64.ofNat n)

/-! ## What a log says -/

/-- The tally has the last counts of a log, as words. -/
structure Keeps (c : Cluster ι) (log : List (String × ℕ)) : Prop where
  reached : ∀ i, (c.shards i).Reached
  distinct : c.tally.counts.Distinct
  count? : ∀ id, c.tally.count? id = (latest log id).map UInt64.ofNat
  named : ∀ id ∈ reporters log, id ≠ ""

theorem keeps_nil {shards : ι → Shard} (h : ∀ i, (shards i).Reached) :
    Keeps { shards } [] where
  reached := h
  distinct := Table.distinct_empty
  count? _ := rfl
  named := nofun

/-- The tally says what the last reports of a log say. -/
structure Follows (c : Cluster ι) (log : List (String × ℕ)) : Prop where
  count? : ∀ id, (c.tally.count? id).map UInt64.toNat = latest log id
  shards : c.tally.shards = #(reporters log)
  total : c.tally.total.toNat = ∑ id ∈ reporters log, (latest log id).getD 0

namespace Keeps

theorem record (h : c.Keeps log) {id : String} (hid : id ≠ "") (n : ℕ) :
    (c.record id n).Keeps (log ++ [(id, n)]) := by
  refine ⟨h.reached, distinct_record h.distinct id n, fun x => ?_, fun x hx => ?_⟩
  · rw [count?_record, latest_append, h.count?]
    split <;> rfl
  · rw [mem_reporters, latest_append] at hx
    split at hx
    · rwa [‹x = id›]
    · exact h.named x (mem_reporters.2 hx)

theorem names_eq (h : c.Keeps log) : c.tally.names = reporters log := by
  ext id
  rw [Tally.mem_names, mem_reporters, h.count?, Option.isSome_map]

/-- If the last counts add up to less than the number of words, none of them is cut off. -/
theorem follows (h : c.Keeps log)
    (hsum : ∑ id ∈ reporters log, (latest log id).getD 0 < 2 ^ 64) : c.Follows log := by
  have hcount : ∀ id, (c.tally.count? id).map UInt64.toNat = latest log id := by
    intro id
    rw [h.count?]
    cases hlast : latest log id with
    | none => rfl
    | some n =>
      have hmem : id ∈ reporters log := mem_reporters.2 (by rw [hlast]; rfl)
      have hle : (latest log id).getD 0 ≤ ∑ id ∈ reporters log, (latest log id).getD 0 :=
        single_le_sum (f := fun x => (latest log x).getD 0) (fun _ _ => Nat.zero_le _) hmem
      rw [hlast, Option.getD_some] at hle
      rw [Option.map_some, Option.map_some, UInt64.toNat_ofNat_of_lt' (lt_of_le_of_lt hle hsum)]
  have hterm : ∀ id, ((c.tally.count? id).getD 0).toNat = (latest log id).getD 0 := by
    intro id
    rw [← hcount id]
    cases c.tally.count? id <;> rfl
  -- The total of words is the sum modulo 2^64; only here does the bound on the sum come in again.
  refine ⟨hcount, ?_, ?_⟩
  · rw [Tally.shards_eq h.distinct, h.names_eq]
  · simp only [Tally.toNat_total h.distinct, h.names_eq, hterm]
    exact Nat.mod_eq_of_lt hsum

end Keeps

/-! ## Clusters that answer alike -/

/-- The shards are the same, and the tallies have the same counts in some order. -/
structure Alike (c c' : Cluster ι) : Prop where
  shards : c.shards = c'.shards
  distinct : c.tally.counts.Distinct
  distinct' : c'.tally.counts.Distinct
  count? : ∀ id, c.tally.count? id = c'.tally.count? id

/-- The shards are the same, and the tallies answer the same. -/
structure Same (c c' : Cluster ι) : Prop where
  shards : c.shards = c'.shards
  count? : ∀ id, c.tally.count? id = c'.tally.count? id
  names : c.tally.shards = c'.tally.shards
  total : c.tally.total = c'.tally.total

theorem alike_self (h : c.tally.counts.Distinct) : c.Alike c :=
  ⟨rfl, h, h, fun _ => rfl⟩

theorem Alike.record (h : c.Alike c') (id : String) (n : ℕ) :
    (c.record id n).Alike (c'.record id n) := by
  refine ⟨h.shards, distinct_record h.distinct id n, distinct_record h.distinct' id n, fun x => ?_⟩
  rw [count?_record, count?_record, h.count?]

theorem alike_record_record (h : c.tally.counts.Distinct) {id id' : String} (hne : id ≠ id')
    (n m : ℕ) : ((c.record id n).record id' m).Alike ((c.record id' m).record id n) := by
  refine ⟨rfl, distinct_record (distinct_record h id n) id' m,
    distinct_record (distinct_record h id' m) id n, fun x => ?_⟩
  simp only [count?_record]
  by_cases hx : x = id
  · rw [if_neg (hx ▸ hne), if_pos hx, if_pos hx]
  · rw [if_neg hx, if_neg hx]

theorem Alike.same (h : c.Alike c') : c.Same c' where
  shards := h.shards
  count? := h.count?
  names := Tally.shards_congr h.distinct h.distinct' h.count?
  total := Tally.total_congr h.distinct h.distinct' h.count?

/-! ## Steps and runs -/

variable [DecidableEq ι] {now : Nat}

/-- Lets something happen, and answers a report. -/
def step (c : Cluster ι) (now : Nat) : Event ι → Option (Except Fault Nat) × Cluster ι
  | .work i w => (none, { c with shards := Function.update c.shards i ((c.shards i).work now w) })
  | .report i id =>
    match (c.shards i).report now id c.tally with
    | .ok (count, tally) => (some (.ok count), { c with tally })
    | .error why => (some (.error why), c)
  | .reportTo i id take => (some (((c.shards i).reportTo now id take).map (·.1)), c)

/-- Lets one thing happen after the other, each at its time. -/
def run (c : Cluster ι) : List (Nat × Event ι) → List (Option (Except Fault Nat)) × Cluster ι
  | [] => ([], c)
  | (now, e) :: events =>
    let (answer, c) := c.step now e
    let (answers, c) := c.run events
    (answer :: answers, c)

/-- What a report to the tally adds to the log if it succeeds: its name, and how many vectors are
live in the shard. -/
noncomputable def accepts (c : Cluster ι) (now : Nat) : Event ι → List (String × ℕ)
  | .report i id =>
    match (c.step now (.report i id)).1 with
    | some (.ok _) => [(id, (c.shards i).population now)]
    | _ => []
  | _ => []

/-- The log of a run. -/
noncomputable def accepted (c : Cluster ι) : List (Nat × Event ι) → List (String × ℕ)
  | [] => []
  | (now, e) :: events => c.accepts now e ++ (c.step now e).2.accepted events

theorem run_cons_cons (c : Cluster ι) (now now' : Nat) (e e' : Event ι)
    (after : List (Nat × Event ι)) :
    c.run ((now, e) :: (now', e') :: after) =
      ((c.step now e).1 :: ((c.step now e).2.step now' e').1 ::
        (((c.step now e).2.step now' e').2.run after).1,
        (((c.step now e).2.step now' e').2.run after).2) :=
  rfl

theorem step_report_empty (c : Cluster ι) (now : Nat) (i : ι) :
    c.step now (.report i "") = (some (.error (.argument .emptyShardId)), c) :=
  rfl

theorem step_report (c : Cluster ι) (now : Nat) (i : ι) {id : String} (hid : id ≠ "") :
    c.step now (.report i id) = (some (.ok ((c.shards i).vectorCount now)),
      c.record id ((c.shards i).vectorCount now)) := by
  rw [step, Shard.report, Tally.report, if_neg hid]
  rfl

theorem accepts_report (c : Cluster ι) (now : Nat) (i : ι) {id : String} (hid : id ≠ "") :
    c.accepts now (.report i id) = [(id, (c.shards i).population now)] := by
  simp only [accepts, step_report c now i hid]

/-- A report that fails changes nothing. -/
theorem snd_step_of_error {e : Event ι} {why : Fault} (h : (c.step now e).1 = some (.error why)) :
    (c.step now e).2 = c := by
  cases e with
  | work i w => cases h
  | report i id =>
    by_cases hid : id = ""
    · rw [hid, step_report_empty]
    · rw [step_report c now i hid] at h
      cases h
  | reportTo i id take => rfl

theorem Keeps.step (h : c.Keeps log) (now : Nat) (e : Event ι) :
    (c.step now e).2.Keeps (log ++ c.accepts now e) := by
  cases e with
  | work i w =>
    simp only [accepts, List.append_nil]
    refine ⟨fun j => ?_, h.distinct, h.count?, h.named⟩
    by_cases hj : j = i
    · subst hj
      simpa [Cluster.step] using (h.reached j).work now w
    · simpa [Cluster.step, hj] using h.reached j
  | report i id =>
    by_cases hid : id = ""
    · subst hid
      simp only [accepts, step_report_empty, List.append_nil]
      exact h
    · rw [accepts_report c now i hid, step_report c now i hid,
        (h.reached i).sound.vectorCount_eq_population]
      exact h.record hid _
  | reportTo i id take =>
    simp only [accepts, List.append_nil]
    exact h

theorem Keeps.run (h : c.Keeps log) (events : List (Nat × Event ι)) :
    (c.run events).2.Keeps (log ++ c.accepted events) := by
  -- On the events, with any log before them: what a step adds goes in front of the rest.
  induction events generalizing c log with
  | nil => rwa [accepted, List.append_nil]
  | cons event events ih =>
    obtain ⟨now, e⟩ := event
    rw [accepted, ← List.append_assoc]
    exact ih (h.step now e)

theorem Alike.step (h : c.Alike c') (now : Nat) (e : Event ι) :
    (c.step now e).1 = (c'.step now e).1 ∧ (c.step now e).2.Alike (c'.step now e).2 := by
  cases e with
  | work i w =>
    refine ⟨rfl, ?_, h.distinct, h.distinct', h.count?⟩
    simp only [Cluster.step, h.shards]
  | report i id =>
    by_cases hid : id = ""
    · subst hid
      exact ⟨rfl, h⟩
    · rw [step_report c now i hid, step_report c' now i hid, h.shards]
      exact ⟨rfl, h.record id _⟩
  | reportTo i id take =>
    refine ⟨?_, h⟩
    simp only [Cluster.step, h.shards]

theorem Alike.run (h : c.Alike c') (events : List (Nat × Event ι)) :
    (c.run events).1 = (c'.run events).1 ∧ (c.run events).2.Alike (c'.run events).2 := by
  induction events generalizing c c' with
  | nil => exact ⟨rfl, h⟩
  | cons event events ih =>
    obtain ⟨now, e⟩ := event
    obtain ⟨hanswer, hstep⟩ := h.step now e
    obtain ⟨hanswers, hrun⟩ := ih hstep
    exact ⟨congrArg₂ List.cons hanswer hanswers, hrun⟩

/-- Of two reports under different names neither answers otherwise for the other. -/
theorem alike_step_step (h : c.tally.counts.Distinct) {id id' : String} (hne : id ≠ id')
    (now now' : Nat) (i j : ι) :
    ((c.step now (.report i id)).2.step now' (.report j id')).1 =
        (c.step now' (.report j id')).1 ∧
      ((c.step now' (.report j id')).2.step now (.report i id)).1 =
        (c.step now (.report i id)).1 ∧
      ((c.step now (.report i id)).2.step now' (.report j id')).2.Alike
        ((c.step now' (.report j id')).2.step now (.report i id)).2 := by
  by_cases hid : id = ""
  · subst hid
    rw [step_report_empty, step_report c now' j hne.symm]
    exact ⟨rfl, rfl, alike_self (distinct_record h id' _)⟩
  by_cases hid' : id' = ""
  · subst hid'
    rw [step_report_empty, step_report c now i hid, step_report_empty, step_report c now i hid]
    exact ⟨rfl, rfl, alike_self (distinct_record h id _)⟩
  simp only [step_report _ _ _ hid, step_report _ _ _ hid', shards_record]
  exact ⟨trivial, trivial, alike_record_record h hne _ _⟩

/-! ## What a tally comes to -/

/-- **A tally follows the last reports.** Shards that have been reached work at any times, and
report to a tally under any names or to something else.

If the last counts add up to less than 2^64, the tally has for each name the number of vectors that
were live in the shard at the last report under it that succeeded, the number of these names, and
the sum over them. A report under a name succeeds and answers how many vectors are live; a report
that fails leaves the tally and the shards. Two reports under different names give the same answers
in either order, and so does all that happens after them. -/
theorem tally_follows_reports {shards : ι → Shard} (h : ∀ i, (shards i).Reached)
    (events : List (Nat × Event ι)) :
    let start : Cluster ι := { shards }
    let log := start.accepted events
    let c := (start.run events).2
    (∑ id ∈ reporters log, (latest log id).getD 0 < 2 ^ 64 → c.Follows log) ∧
    (∀ id ∈ reporters log, id ≠ "") ∧
    (∀ now i id, ∃ n : ℕ, {key | ((c.shards i).vector? now key).isSome}.encard = n ∧
      (c.step now (.report i id)).1 =
        some (if id = "" then .error (.argument .emptyShardId) else .ok n)) ∧
    (∀ now e why, (c.step now e).1 = some (.error why) → (c.step now e).2 = c) ∧
    ∀ now i id now' j id' after, id ≠ id' → ∃ a b answers c₁ c₂,
      c.run ((now, .report i id) :: (now', .report j id') :: after) = (a :: b :: answers, c₁) ∧
      c.run ((now', .report j id') :: (now, .report i id) :: after) = (b :: a :: answers, c₂) ∧
      c₁.Same c₂ := by
  intro start log c
  have hkeeps : c.Keeps log := (keeps_nil h).run events
  refine ⟨hkeeps.follows, hkeeps.named, fun now i id => ?_,
    fun now e why => snd_step_of_error, fun now i id now' j id' after hne => ?_⟩
  · refine ⟨(c.shards i).vectorCount now, (hkeeps.reached i).sound.encard_live now, ?_⟩
    by_cases hid : id = ""
    · rw [hid, step_report_empty, if_pos rfl]
    · rw [step_report c now i hid, if_neg hid]
  · obtain ⟨hsecond, hfirst, halike⟩ := alike_step_step hkeeps.distinct hne now now' i j
    obtain ⟨hanswers, hlater⟩ := halike.run after
    refine ⟨_, _, _, _, _, run_cons_cons .., ?_, hlater.same⟩
    rw [run_cons_cons, hfirst, hsecond, hanswers]

/-- A key expires between two reports under one name. Reports without a name, or to something that
rejects them, do not count. -/
theorem tally_follows_reports_expired : ∃ s : Shard, s.Reached ∧
    let start : Cluster Bool := { shards := fun _ => s }
    let events : List (Nat × Event Bool) := [(1, .report true "x"), (1, .report false "y"),
      (2, .report true ""), (2, .reportTo false "z" fun _ _ => .error .busyKey),
      (9, .report true "x")]
    let c := (start.run events).2
    c.tally.count? "x" = some 0 ∧ c.tally.shards = 2 ∧ c.tally.total = 1 := by
  obtain ⟨s, hreached, -, hbinding⟩ := Shard.exists_reached
    (rfl : Settings.check { dimension := 1 } = .ok ()) ⟨[("a", ⟨.vector ⟨[1]⟩, some 4⟩)]⟩
    (by decide)
  have hlive : ∀ now key, (s.vector? now key).isSome ↔ key = "a" ∧ now < 4 := by
    intro now key
    rw [hreached.sound.vector?_eq, hbinding, Table.get?, lookup_cons_ite]
    split
    · by_cases hnow : now < 4
      · rw [Option.filter_some_pos (by simpa [Binding.isLive] using hnow)]
        exact iff_of_true rfl ⟨‹_›, hnow⟩
      · rw [Option.filter_some_neg (by simpa [Binding.isLive] using hnow)]
        exact iff_of_false Bool.false_ne_true fun h => hnow h.2
    · exact iff_of_false Bool.false_ne_true fun h => ‹¬key = "a"› h.1
  have hbefore : s.population 1 = 1 := by
    rw [Shard.population, Set.ncard_eq_one]
    exact ⟨"a", Set.ext fun key => (hlive 1 key).trans (by simp)⟩
  have hafter : s.population 9 = 0 := by
    have hnone : {key | (s.vector? 9 key).isSome} = ∅ :=
      Set.eq_empty_of_forall_notMem fun key hkey => absurd ((hlive 9 key).1 hkey).2 (by decide)
    rw [Shard.population, hnone, Set.ncard_empty]
  refine ⟨s, hreached, ?_⟩
  intro start events c
  have hlog : start.accepted events =
      [("x", s.population 1), ("y", s.population 1), ("x", s.population 9)] := rfl
  rw [hbefore, hafter] at hlog
  obtain ⟨hfollows, -⟩ := tally_follows_reports (fun _ => hreached) events
  have hc : c.Follows [("x", 1), ("y", 1), ("x", 0)] := by
    rw [← hlog]
    apply hfollows
    rw [hlog]
    decide
  have hx : (c.tally.count? "x").map UInt64.toNat = some (UInt64.toNat 0) := hc.count? "x"
  exact ⟨Option.map_injective (fun _ _ => UInt64.toNat_inj.1) hx, hc.shards,
    UInt64.toNat_inj.1 hc.total⟩

end Cluster

end Nearest

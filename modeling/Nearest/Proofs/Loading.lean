import Nearest.Proofs.Payload
import Nearest.Proofs.Reached
import Nearest.Proofs.Snapshot

/-!
# What is loaded from an image

`Shard.load_bytes`: the file of an image loads. The shard has the rows of the image whose expiry has
not passed, in the order of the image (`Shard.Restored`). The rows are taken in one by one, and each
of them has a key that is new to the shard (`Restored.taken`).
-/

namespace Nearest

/-- Whether the expiry of a row has not passed. -/
def Snapshot.isKept (expiry : String → Option UInt64) (now : Nat)
    (row : String × List UInt32) : Bool :=
  !(expiry row.1).any (·.toNat ≤ now)

open Snapshot (entryOf isKept)

namespace Shard

/-- A shard that has taken in these rows, and nothing else. -/
structure Restored (s : Shard) (settings : Settings) (expiry : String → Option UInt64)
    (rows : List (String × List UInt32)) : Prop where
  settings_eq : s.settings = settings
  dimension_eq : s.store.dimension = settings.dimension
  holds : s.store.Holds rows
  plain_eq : s.plain = {}
  deadline_eq : ∀ key, s.deadlines.get? key =
    if key ∈ rows.map (·.1) then (expiry key).map (·.toNat) else none

theorem restored_new {settings : Settings} {s : Shard} (h : new settings = .ok s)
    (expiry : String → Option UInt64) : s.Restored settings expiry [] := by
  obtain ⟨-, rfl⟩ := eq_of_new h
  exact ⟨rfl, rfl, Store.holds_empty _, rfl, fun _ => rfl⟩

namespace Restored

variable {s : Shard} {settings : Settings} {expiry : String → Option UInt64}
  {rows : List (String × List UInt32)} {now : Nat}

theorem taken_due (s : Shard) {row : String × List UInt32} (hrow : isKept expiry now row = false) :
    Snapshot.taken (receive now) s (entryOf expiry row) = some s := by
  rw [isKept, Bool.not_eq_false'] at hrow
  have hdue : (entryOf expiry row).expiresAt.any (·.toNat ≤ now) = true := hrow
  rw [Snapshot.taken, receive, if_pos hdue]

/-- A row with a new key whose expiry has not passed goes to the end. -/
theorem taken (h : s.Restored settings expiry rows) (hdim : settings.dimension.toNat < 2 ^ 32)
    {row : String × List UInt32} (hrow : isKept expiry now row = true)
    (hlength : row.2.length = settings.dimension.toNat) (hnew : row.1 ∉ rows.map (·.1)) :
    ∃ s', Snapshot.taken (receive now) s (entryOf expiry row) = some s' ∧
      s'.Restored settings expiry (rows ++ [row]) := by
  rw [isKept, Bool.not_eq_true'] at hrow
  have hdue : ¬(entryOf expiry row).expiresAt.any (·.toNat ≤ now) = true :=
    Bool.not_eq_true _ ▸ hrow
  have hrecord : Record.ofDeclared (entryOf expiry row).dimension (entryOf expiry row).data
      s.dimension = .ok ⟨row.2⟩ := by
    rw [Shard.dimension, h.settings_eq]
    exact Record.ofDeclared_bytes hlength hdim
  obtain ⟨store, hup, hstoreDim, hholds⟩ := h.holds.upsert row.1 (r := ⟨row.2⟩)
    (by rw [Store.width, h.dimension_eq]; exact hlength)
  rw [Table.insertInto_of_notMem hnew] at hholds
  have hadd : s.addRecord (entryOf expiry row).key ⟨row.2⟩ = .ok { s with
      store, plain := s.plain.erase row.1, deadlines := s.deadlines.erase row.1 } := by
    rw [addRecord, entryOf, hup]
  have hplain : s.plain.erase row.1 = {} := by
    rw [h.plain_eq]
    rfl
  have htaken : ∃ deadlines, Snapshot.taken (receive now) s (entryOf expiry row) =
        some { s with store, plain := s.plain.erase row.1, deadlines } ∧
      ∀ key, deadlines.get? key =
        if key = row.1 then (expiry row.1).map (·.toNat) else s.deadlines.get? key := by
    rw [Snapshot.taken, receive, if_neg hdue, hrecord]
    simp only [hadd]
    have hexpiry : (entryOf expiry row).expiresAt = expiry row.1 := rfl
    rw [hexpiry]
    cases expiry row.1 with
    | none => exact ⟨_, rfl, s.deadlines.get?_erase row.1⟩
    | some e =>
      refine ⟨_, rfl, fun key => ?_⟩
      have hkey : (entryOf expiry row).key = row.1 := rfl
      rw [hkey, Table.get?_insert, Table.get?_erase]
      split <;> rfl
  obtain ⟨deadlines, htaken, hget⟩ := htaken
  refine ⟨_, htaken, ?_⟩
  refine ⟨h.settings_eq, hstoreDim.trans h.dimension_eq, hholds, hplain, fun key => ?_⟩
  rw [hget, h.deadline_eq]
  simp only [List.map_append, List.map_singleton, List.mem_append, List.mem_singleton]
  by_cases hkey : key = row.1
  · simp [hkey]
  · rw [if_neg hkey]
    exact if_congr (or_iff_left hkey).symm rfl rfl

/-- Rows with new keys are taken in one after the other, without those whose expiry has passed. -/
theorem foldlM_taken (h : s.Restored settings expiry rows) (now : Nat)
    (hdim : settings.dimension.toNat < 2 ^ 32) {todo : List (String × List UInt32)}
    (hlength : ∀ row ∈ todo, row.2.length = settings.dimension.toNat)
    (hdistinct : DistinctKeys (rows ++ todo)) :
    ∃ s', (todo.map (entryOf expiry)).foldlM (Snapshot.taken (receive now)) s = some s' ∧
      s'.Restored settings expiry (rows ++ todo.filter (isKept expiry now)) := by
  induction todo generalizing s rows with
  | nil =>
    refine ⟨s, rfl, ?_⟩
    rwa [List.filter_nil, List.append_nil]
  | cons row todo ih =>
    obtain ⟨hrow, htodo⟩ := List.forall_mem_cons.1 hlength
    rw [List.map_cons, List.foldlM_cons]
    cases hkept : isKept expiry now row with
    | false =>
      rw [taken_due s hkept, List.filter_cons_of_neg (by simp [hkept])]
      exact ih h htodo (hdistinct.sublist ((List.sublist_cons_self row todo).append_left rows))
    | true =>
      have hnew : row.1 ∉ rows.map (·.1) := by
        have hperm := (hdistinct.perm List.perm_middle)
        rw [DistinctKeys, List.map_cons, List.nodup_cons, List.map_append] at hperm
        exact fun hm => hperm.1 (List.mem_append_left _ hm)
      obtain ⟨s', hs', hrestored⟩ := h.taken hdim hkept hrow hnew
      rw [hs', List.filter_cons_of_pos hkept, List.append_cons]
      refine ih hrestored htodo ?_
      rwa [List.append_assoc, List.singleton_append]

end Restored

/-- **The file of an image loads**, and gives back the rows whose expiry has not passed. -/
theorem load_bytes {settings : Settings} (hcheck : settings.check = .ok ())
    {image : Snapshot.Image} (hfits : image.Fits)
    (hdim : image.store.dimension = settings.dimension) {rows : List (String × List UInt32)}
    (hrows : image.store.Holds rows) (now : Nat) :
    ∃ s, load settings now (some image.bytes) = .ok s ∧
      s.Restored settings image.expiries.get?
        (rows.filter (isKept image.expiries.get? now)) := by
  have hnew : new settings = .ok { settings, store := Store.empty settings.dimension } := by
    rw [new, hcheck]
  obtain ⟨s, hs, hrestored⟩ := (restored_new hnew image.expiries.get?).foldlM_taken now
    (hdim ▸ hfits.dimension) (fun row hrow => by
      rw [hrows.width row hrow, Store.width, hdim]) hrows.distinct
  rw [← hrows.toList, ← Snapshot.Image.entries_eq] at hs
  have hwalk := Snapshot.walk_bytes hfits hs
  rw [hdim] at hwalk
  refine ⟨s, ?_, hrestored⟩
  rw [load, hnew]
  simp only [hwalk]

end Shard

end Nearest

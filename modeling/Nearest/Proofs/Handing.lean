import Nearest.Proofs.Damage

/-!
# How far a walk goes

The count in the header of a snapshot is whatever its writer put there. What bounds a walk is the
file: an entry is at least 21 bytes long, so no more entries are handed out than there is room for.

* `Passes` spells out, place by place, what is checked before the first entry. It holds of the
  files that are opened and of no others (`opened_iff_passes`).
* `Decodes` says which entries a byte string goes on with, one after the other.
* `logged sink` does what `sink` does and keeps a list of its calls.
* `walk_logged` says which calls any sink gets on any bytes, and how the walk ends.
-/

namespace Nearest.Snapshot

/-! ## Files that are opened -/

/-- The word at a place of a byte string. -/
def wordAt (b : Bytes) (place : Nat) : UInt32 :=
  Checksum.declared ((b.drop place).take 4)

theorem ofWord32_wordAt {b : Bytes} {place : Nat} (h : place + 4 ≤ b.length) :
    Bytes.ofWord32 (wordAt b place) = (b.drop place).take 4 := by
  apply Checksum.ofWord32_declared
  rw [List.length_take, List.length_drop]
  omega

/-- The header that the first twenty bytes of a file stand for. -/
def leading (file : Bytes) : Header where
  magic := file.take 4
  version := wordAt file 4
  dimension := wordAt file 8
  count := Bytes.word64 (wordAt file 12) (wordAt file 16)

/-- The bytes between the header and the checksum. -/
def content (file : Bytes) : Bytes :=
  (file.drop 20).take (file.length - 24)

/-- What is checked before the first entry is handed out. -/
structure Passes (file : Bytes) (dimension : UInt64) : Prop where
  length : 24 ≤ file.length
  checksum : Checksum.sum (file.take (file.length - 4)) = wordAt file (file.length - 4)
  opens : (leading file).Opens dimension

theorem bytes_leading {file : Bytes} (h : 20 ≤ file.length) :
    (leading file).bytes = file.take 20 := by
  have hsplit : file.take 20 = file.take 4 ++ (file.drop 4).take 4 ++ (file.drop 8).take 4 ++
      (file.drop 12).take 4 ++ (file.drop 16).take 4 := by
    rw [← List.take_add, ← List.take_add, ← List.take_add, ← List.take_add]
  rw [hsplit, Header.bytes, leading, Bytes.ofWord64_word64]
  simp only [ofWord32_wordAt (show 4 + 4 ≤ file.length by omega),
    ofWord32_wordAt (show 8 + 4 ≤ file.length by omega),
    ofWord32_wordAt (show 12 + 4 ≤ file.length by omega),
    ofWord32_wordAt (show 16 + 4 ≤ file.length by omega), List.append_assoc]

theorem leading_sealed {h : Header} (hmagic : h.magic = magic) (body : Bytes) :
    leading (Checksum.sealed (h.bytes ++ body)) = h := by
  obtain ⟨_, version, dimension, count⟩ := h
  obtain rfl : _ = magic := hmagic
  have hlow := Checksum.declared_ofWord32 count.toUInt32
  have hhigh := Checksum.declared_ofWord32 (count / 0x100000000).toUInt32
  rw [leading, Header.mk.injEq]
  refine ⟨rfl, Checksum.declared_ofWord32 version, Checksum.declared_ofWord32 dimension, ?_⟩
  refine Eq.trans ?_ (Bytes.word64_halves count)
  exact congrArg₂ Bytes.word64 hlow hhigh

theorem length_content {file : Bytes} (h : 24 ≤ file.length) :
    (content file).length = file.length - 24 := by
  rw [content, List.length_take, List.length_drop]
  omega

theorem content_sealed {h : Header} (hmagic : h.magic = magic) (body : Bytes) :
    content (Checksum.sealed (h.bytes ++ body)) = body := by
  have hlength := h.length_bytes hmagic
  have hroom : (Checksum.sealed (h.bytes ++ body)).length - 24 = body.length := by
    rw [Checksum.length_sealed, List.length_append]
    omega
  rw [content, hroom, Checksum.sealed, List.append_assoc, ← hlength, List.drop_left, List.take_left]

/-- The files that are opened are those that pass. -/
theorem opened_iff_passes {file body : Bytes} {dimension : UInt64} {h : Header} :
    (Checksum.unsealed file >>= (open? · dimension)) = .ok (h, body) ↔
      Passes file dimension ∧ h = leading file ∧ body = content file := by
  rw [unseal_open?_eq_ok_iff]
  constructor
  · rintro ⟨hopens, rfl⟩
    have hlength := h.length_bytes hopens.magic
    have hleading := leading_sealed hopens.magic body
    refine ⟨⟨?_, ?_, ?_⟩, hleading.symm, (content_sealed hopens.magic body).symm⟩
    · rw [Checksum.length_sealed, List.length_append]
      omega
    · have hframe : (Checksum.sealed (h.bytes ++ body)).length - 4 = (h.bytes ++ body).length := by
        rw [Checksum.length_sealed, Nat.add_sub_cancel]
      rw [wordAt, hframe, Checksum.sealed, List.take_left, List.drop_left]
      exact (Checksum.declared_ofWord32 _).symm
    · rwa [hleading]
  · rintro ⟨⟨hlength, hsum, hopens⟩, rfl, rfl⟩
    have hframe : (leading file).bytes ++ content file = file.take (file.length - 4) := by
      rw [bytes_leading (by omega), content, ← List.take_add]
      congr 1
      omega
    have hword : (file.drop (file.length - 4)).take 4 = file.drop (file.length - 4) := by
      apply List.take_of_length_le
      rw [List.length_drop]
      omega
    refine ⟨hopens, ?_⟩
    rw [hframe, Checksum.sealed, hsum, ofWord32_wordAt (by omega), hword, List.take_append_drop]

theorem Passes.opened {file : Bytes} {dimension : UInt64} (h : Passes file dimension) :
    (Checksum.unsealed file >>= (open? · dimension)) = .ok (leading file, content file) :=
  opened_iff_passes.2 ⟨h, rfl, rfl⟩

/-- What does not pass is corrupt. -/
theorem corrupt_of_not_passes {file : Bytes} {dimension : UInt64} (h : ¬Passes file dimension) :
    ∃ why, (Checksum.unsealed file >>= (open? · dimension)) = .error (.corrupt why) := by
  cases hopen : Checksum.unsealed file >>= (open? · dimension) with
  | ok x => exact absurd (opened_iff_passes.1 hopen).1 h
  | error e =>
    cases hfile : Checksum.unsealed file with
    | error e' =>
      obtain ⟨why, rfl⟩ := Checksum.corrupt_of_unsealed hfile
      rw [hfile] at hopen
      cases hopen
      exact ⟨why, rfl⟩
    | ok body =>
      rw [hfile] at hopen
      obtain ⟨why, rfl⟩ := corrupt_of_open? hopen
      exact ⟨why, rfl⟩

/-! ## Successive entries -/

/-- The bytes go on with these entries, one after the other, and then with the other bytes. -/
inductive Decodes : Bytes → List Entry → Bytes → Prop
  | nil (b : Bytes) : Decodes b [] b
  | cons {b next rest : Bytes} {e : Entry} {entries : List Entry}
      (head : Entry.read b = .ok (e, next)) (tail : Decodes next entries rest) :
      Decodes b (e :: entries) rest

/-- There are no more entries than there is room for. -/
theorem Decodes.length_le {b rest : Bytes} {entries : List Entry} (h : Decodes b entries rest) :
    21 * entries.length + rest.length ≤ b.length := by
  induction h with
  | nil b => simp
  | @cons b next rest e entries head _ ih =>
    obtain ⟨-, rfl⟩ := (Entry.exact_read _ _ _).1 head
    have := e.length_bytes_ge
    rw [List.length_append, List.length_cons]
    omega

/-! ## The calls of a sink -/

section HandOut

variable {σ : Type} (sink : Sink σ)

/-- The sink, which also keeps the entries that it is called with. -/
def logged : Sink (σ × List Entry) := fun (state, calls) e =>
  ((sink state e).1, (sink state e).2, calls ++ [e])

variable {sink} {state s : σ}

theorem foldlM_taken_logged {entries : List Entry}
    (h : entries.foldlM (taken sink) state = some s) (calls : List Entry) :
    entries.foldlM (taken (logged sink)) (state, calls) = some (s, calls ++ entries) := by
  induction entries generalizing state calls with
  | nil =>
    cases h
    rw [List.append_nil]
    rfl
  | cons e entries ih =>
    rw [List.foldlM_cons, Option.bind_eq_bind, Option.bind_eq_some_iff] at h
    obtain ⟨next, hnext, hrest⟩ := h
    have hlogged : taken (logged sink) (state, calls) e = some (next, calls ++ [e]) := by
      rw [taken_eq_some_iff, logged, eq_ok_of_taken hnext]
    rw [List.foldlM_cons, hlogged, List.append_cons calls e entries]
    exact ih hrest (calls ++ [e])

/-- Handing out goes on after the entries that the sink takes. -/
theorem handOut_of_decodes {body rest : Bytes} {before : List Entry}
    (h : Decodes body before rest) (hs : before.foldlM (taken sink) state = some s)
    (left index : Nat) :
    handOut sink state body (before.length + left) index =
      handOut sink s rest left (index + before.length) := by
  induction h generalizing state index with
  | nil b =>
    cases hs
    rw [List.length_nil, Nat.zero_add, Nat.add_zero]
  | @cons b next rest e entries head _ ih =>
    rw [List.foldlM_cons, Option.bind_eq_bind, Option.bind_eq_some_iff] at hs
    obtain ⟨state', hstate', hs⟩ := hs
    rw [List.length_cons, Nat.add_right_comm, handOut, head]
    simp only [eq_ok_of_taken hstate', ih hs, Nat.add_assoc, Nat.add_comm 1]

/-- What is handed out are successive entries of the body. -/
theorem handOut_logged (sink : Sink σ) (state : σ) (calls : List Entry) (body : Bytes)
    (left index : Nat) :
    ∃ made rest, handOut (logged sink) (state, calls) body left index =
        ((handOut sink state body left index).1, (handOut sink state body left index).2,
          calls ++ made) ∧
      Decodes body made rest ∧ made.length ≤ left := by
  induction left generalizing state calls body index with
  | zero => exact ⟨[], body, by rw [List.append_nil]; rfl, .nil body, Nat.le_refl 0⟩
  | succ left ih =>
    unfold handOut
    cases hread : Entry.read body with
    | error why => exact ⟨[], body, by rw [List.append_nil], .nil body, Nat.zero_le _⟩
    | ok x =>
      obtain ⟨e, rest⟩ := x
      rcases hsink : sink state e with ⟨_ | _, state'⟩
      · refine ⟨[e], rest, ?_, .cons hread (.nil rest), ?_⟩
        · simp only [logged, hsink]
        · rw [List.length_singleton]
          omega
      · obtain ⟨made, rest', hmade, hdecodes, hlength⟩ := ih state' (calls ++ [e]) rest (index + 1)
        refine ⟨e :: made, rest', ?_, .cons hread hdecodes, Nat.succ_le_succ hlength⟩
        simp only [logged, hsink, List.append_cons calls e made]
        exact hmade

end HandOut

/-! ## Walks -/

section Walk

variable {σ : Type} {sink : Sink σ} {state s : σ} {file body rest : Bytes} {dimension : UInt64}
  {h : Header} {before : List Entry}

/-- Walking is handing out the entries of a file that is opened, and a look at what is left. -/
theorem walk_of_opened (hopen : (Checksum.unsealed file >>= (open? · dimension)) = .ok (h, body)) :
    walk sink state file dimension =
      ((handOut sink state body h.count.toNat 0).1.bind fun left =>
        if left = [] then .ok h.count else .error (.corrupt (.trailing left.length)),
      (handOut sink state body h.count.toNat 0).2) := by
  simp only [walk, hopen]
  rcases handOut sink state body h.count.toNat 0 with ⟨_ | _ | _, _⟩ <;> rfl

/-- The calls of a walk are with successive entries of the body, as many as announced at most. -/
theorem exists_calls_of_opened (sink : Sink σ) (state : σ)
    (hopen : (Checksum.unsealed file >>= (open? · dimension)) = .ok (h, body)) :
    ∃ calls rest, walk (logged sink) (state, []) file dimension =
        ((walk sink state file dimension).1, (walk sink state file dimension).2, calls) ∧
      Decodes body calls rest ∧ calls.length ≤ h.count.toNat := by
  obtain ⟨calls, rest, hcalls, hdecodes, hle⟩ :=
    handOut_logged sink state [] body h.count.toNat 0
  refine ⟨calls, rest, ?_, hdecodes, hle⟩
  rw [walk_of_opened hopen, walk_of_opened hopen, hcalls, List.nil_append]

/-- Walking goes on after the entries that the sink takes. -/
theorem walk_of_decodes (hpasses : Passes file dimension) (left : Nat)
    (hcount : before.length + left = (leading file).count.toNat)
    (hbefore : Decodes (content file) before rest)
    (hs : before.foldlM (taken sink) state = some s) :
    walk sink state file dimension =
      ((handOut sink s rest left before.length).1.bind fun b =>
        if b = [] then .ok (leading file).count else .error (.corrupt (.trailing b.length)),
      (handOut sink s rest left before.length).2) := by
  have hskip := handOut_of_decodes hbefore hs left 0
  rw [Nat.zero_add] at hskip
  rw [walk_of_opened hpasses.opened, ← hcount, hskip]

end Walk

/-- **A walk goes as far as the file does**, whatever its header announces. Let `calls` be the
entries that a sink is called with. There are at most as many of them as entries of 21 bytes have
room between header and checksum. A file that does not pass is corrupt, and there is no call. In one
that does, the calls are with successive entries of the body, at most as many as announced. Consider
any successive entries that the sink takes one after the other, from the first on. If another one
is announced that cannot be decoded, then these are the calls and the file is corrupt; if the sink
refuses it, then it is the last call and its fault is the answer. If no other is announced, then
these are the calls, and the walk succeeds iff nothing is left. -/
theorem walk_logged {σ : Type} (sink : Sink σ) (state : σ) (file : Bytes) (dimension : UInt64) :
    ∃ calls : List Entry,
      walk (logged sink) (state, []) file dimension =
        ((walk sink state file dimension).1, (walk sink state file dimension).2, calls) ∧
      calls.length ≤ (file.length - 24) / 21 ∧
      (¬Passes file dimension →
        calls = [] ∧ ∃ why, walk sink state file dimension = (.error (.corrupt why), state)) ∧
      (Passes file dimension →
        (∃ rest, Decodes (content file) calls rest) ∧
        calls.length ≤ (leading file).count.toNat ∧
        ∀ before rest s, Decodes (content file) before rest →
          before.foldlM (taken sink) state = some s →
          (before.length < (leading file).count.toNat →
            (∀ why, Entry.read rest = .error why → calls = before ∧
              walk sink state file dimension =
                (.error (.corrupt (.entry before.length why)), s)) ∧
            ∀ e next fault s', Entry.read rest = .ok (e, next) → sink s e = (.error fault, s') →
              calls = before ++ [e] ∧ walk sink state file dimension = (.error fault, s')) ∧
          (before.length = (leading file).count.toNat → calls = before ∧
            walk sink state file dimension =
              (if rest = [] then .ok (leading file).count
                else .error (.corrupt (.trailing rest.length)), s))) := by
  by_cases hpasses : Passes file dimension
  · obtain ⟨calls, left, hlogged, hdecodes, hle⟩ :=
      exists_calls_of_opened sink state hpasses.opened
    -- where the calls stop for the sink they stop for the one with the list
    have hcalls_of {result : Except Fault UInt64} {made : List Entry} {s : σ}
        (h : walk (logged sink) (state, []) file dimension = (result, s, made)) :
        calls = made ∧ walk sink state file dimension = (result, s) := by
      rw [hlogged, Prod.mk.injEq, Prod.mk.injEq] at h
      exact ⟨h.2.2, Prod.ext h.1 h.2.1⟩
    refine ⟨calls, hlogged, ?_, fun h => absurd hpasses h, fun _ => ⟨⟨left, hdecodes⟩, hle, ?_⟩⟩
    · have hroom := hdecodes.length_le
      rw [length_content hpasses.length] at hroom
      rw [Nat.le_div_iff_mul_le (by decide)]
      omega
    intro before rest s hbefore hs
    have hs' := foldlM_taken_logged hs []
    rw [List.nil_append] at hs'
    refine ⟨fun hlt => ?_, fun heq => ?_⟩
    · obtain ⟨n, hn⟩ := Nat.exists_eq_add_of_lt hlt
      have hgo := walk_of_decodes hpasses (n + 1) hn.symm hbefore hs'
      refine ⟨fun why hwhy => hcalls_of ?_, fun e next fault s' hread hsink => hcalls_of ?_⟩
      · rw [hgo, handOut, hwhy]
        rfl
      · rw [hgo, handOut, hread]
        simp only [logged, hsink]
        rfl
    · refine hcalls_of ?_
      rw [walk_of_decodes hpasses 0 heq hbefore hs', handOut]
      rfl
  · obtain ⟨why, hopen⟩ := corrupt_of_not_passes hpasses
    refine ⟨[], ?_, Nat.zero_le _, fun _ => ⟨rfl, why, ?_⟩, fun h => absurd h hpasses⟩
    all_goals simp only [walk, hopen]

/-- A file that announces 2^64 - 1 entries and has two of them; the sink takes the first only. -/
theorem walk_logged_second :
    let a : Entry := ⟨"a", 1, [], none⟩
    let b : Entry := ⟨"b", 1, [7], some 5⟩
    let full := file ⟨magic, 1, 1, 0xffffffffffffffff⟩ [a, b]
    let sink : Sink Nat := fun n _ => if n = 1 then (.error .busyKey, n) else (.ok (), n + 1)
    Passes full 1 ∧ walk (logged sink) (0, []) full 1 = (.error .busyKey, 1, [a, b]) := by
  intro a b full sink
  let h : Header := ⟨magic, 1, 1, 0xffffffffffffffff⟩
  have hpasses : Passes full 1 :=
    (opened_iff_passes.1 (unseal_open?_eq_ok_iff.2 ⟨⟨rfl, by decide, rfl⟩, rfl⟩)).1
  have hcount : (leading full).count.toNat = 0xffffffffffffffff := by
    rw [show leading full = h from leading_sealed rfl _]
    rfl
  have hfirst : Decodes (content full) [a] b.bytes := by
    rw [show content full = a.bytes ++ (b.bytes ++ []) from content_sealed rfl _, List.append_nil]
    exact .cons (Entry.read_bytes ⟨by decide, by decide⟩ _) (.nil _)
  have hsecond : Entry.read b.bytes = .ok (b, []) := by
    rw [← List.append_nil b.bytes]
    exact Entry.read_bytes ⟨by decide, by decide⟩ []
  obtain ⟨calls, hwalk, -, -, hcalls⟩ := walk_logged sink 0 full 1
  obtain ⟨-, -, hends⟩ := hcalls hpasses
  obtain ⟨hmore, -⟩ := hends [a] b.bytes 1 hfirst rfl
  obtain ⟨hlast, hfault⟩ := (hmore (by rw [hcount]; decide)).2 b [] .busyKey 1 hsecond rfl
  refine ⟨hpasses, ?_⟩
  rw [hwalk, hfault, hlast]
  rfl

end Nearest.Snapshot

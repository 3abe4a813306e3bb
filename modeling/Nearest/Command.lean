import Nearest.Shard.Basic
import Nearest.Text.Classes

/-!
# Commands

A command is a list of byte strings, its name first; `Command.execute` runs one on a shard and gives
a reply.

  RG.VEC_ADD key vector                 OK
  RG.VEC_SIM k [filter] vector          the hits and the errors
  DEL key [key ...]                     how many keys there were
  FLUSHALL, FLUSHDB [ASYNC | SYNC]      OK
  DUMP key                              a payload, or nil
  RESTORE key ttl payload [REPLACE]     OK
  DBSIZE                                how many keys there are
  EXPIRE key seconds                    1, or 0 if there is no such key
  PEXPIRE key milliseconds              likewise
  SET key value                         OK

The arguments are checked from the left before anything is touched.
-/

namespace Nearest

/-- What a command answers. -/
inductive Reply
  | ok
  | nil
  | integer (n : Int)
  | double (s : Score)
  | bulk (b : Bytes)
  | array (rs : List Reply)
  | error (text : String)

/-- A response as a reply: the hits as pairs, and the errors. -/
def Response.reply (r : Response) : Reply :=
  .array [.array (r.results.map fun h => .array [.bulk (Bytes.ofText h.key), .double h.score]),
    .array (r.errors.map fun e => .bulk (Bytes.ofText e))]

namespace Command

/-- Why a command is rejected. -/
inductive Rejection
  | empty
  | unknown (name : String)
  | arity (name : String)
  | keyNotUtf8
  /-- The count of results is no integer. -/
  | resultCount
  /-- A time to live is no integer, or negative. -/
  | negativeTtl
  | notInteger
  | syntaxError
  /-- A time to live whose deadline does not fit into the times. -/
  | expireTime (name : String)
  | failed (why : Fault)

/-- The text that reports a rejection. -/
def Rejection.message : Rejection → String
  | .empty => "ERR empty command"
  | .unknown name => s!"ERR unknown command '{name}'"
  | .arity name => s!"ERR wrong number of arguments for '{name.toLower}' command"
  | .keyNotUtf8 => "ERR key is not valid UTF-8"
  | .resultCount => "ERR Failed extracting <k>"
  | .negativeTtl => "ERR Invalid TTL value, must be >= 0"
  | .notInteger => "ERR value is not an integer or out of range"
  | .syntaxError => "ERR syntax error"
  | .expireTime name => s!"ERR invalid expire time in '{name.toLower}' command"
  | .failed .busyKey => "BUSYKEY Target key name already exists."
  | .failed .wrongType => "WRONGTYPE Operation against a key holding the wrong kind of value"
  | .failed why => s!"ERR {why.message}"

/-- What a command comes to, and the shard after it. -/
abbrev Outcome := Except Rejection Reply × Shard

/-! ## Arguments -/

/-- The key that an argument names. -/
def keyOf (arg : Bytes) : Except Rejection String :=
  match Bytes.text? arg with
  | some key => .ok key
  | none => .error .keyNotUtf8

/-- The keys that arguments name. -/
def keysOf : List Bytes → Except Rejection (List String)
  | [] => .ok []
  | arg :: args => do
    let key ← keyOf arg
    return key :: (← keysOf args)

/-- The integer that an argument writes, blanks around it aside. -/
def integerOf (arg : Bytes) (otherwise : Rejection) : Except Rejection Int :=
  match (Bytes.text? arg).bind fun text => Numeral.int64? (Text.trim text.toList) with
  | some n => .ok n
  | none => .error otherwise

/-- A byte with a small letter for a capital one. -/
def lower (b : UInt8) : UInt8 :=
  if 0x41 ≤ b && b ≤ 0x5a then b + 0x20 else b

/-- Whether an argument is this word, in any case. -/
def isWord (arg : Bytes) (word : String) : Bool :=
  arg.map lower == (Bytes.ofText word).map lower

/-- An amount of `unit` milliseconds each, in milliseconds; neither it nor the moment that far from
now may leave the range of a signed word. -/
def ttlMillis (name : String) (now : Nat) (amount unit : Int) : Except Rejection Int :=
  let ms := amount * unit
  if -0x8000000000000000 ≤ ms && ms ≤ 0x7fffffffffffffff &&
      ms + min now 0x7fffffffffffffff ≤ 0x7fffffffffffffff then .ok ms
  else .error (.expireTime name)

/-! ## The commands -/

/-- Makes an outcome of a check: a rejection leaves the shard. -/
def checked {α : Type} (s : Shard) (check : Except Rejection α) (run : α → Outcome) : Outcome :=
  match check with
  | .ok a => run a
  | .error why => (.error why, s)

/-- Makes an outcome of an operation's result. -/
def replied {α : Type} (s : Shard) (result : Except Fault α) (reply : α → Reply) : Outcome :=
  match result with
  | .ok a => (.ok (reply a), s)
  | .error why => (.error (.failed why), s)

/-- Binds a vector. -/
def addVector (s : Shard) : List Bytes → Option Outcome
  | [key, payload] => some <|
    checked s (keyOf key) fun key =>
      match s.add key payload with
      | .ok s => (.ok .ok, s)
      | .error why => (.error (.failed why), s)
  | _ => none

/-- Searches with a filter that is there or not. -/
def searchWith (s : Shard) (now : Nat) (k : Int) (filter : Option String) (query : Bytes) :
    Outcome :=
  let (result, s) := s.search now k filter query
  replied s result Response.reply

/-- Searches. -/
def searchVector (s : Shard) (now : Nat) : List Bytes → Option Outcome
  | [k, query] => some <|
    checked s (integerOf k .resultCount) fun k => searchWith s now k none query
  | [k, filter, query] => some <|
    checked s (integerOf k .resultCount) fun k =>
      checked s (keyOf filter) fun filter => searchWith s now k (some filter) query
  | _ => none

/-- Deletes keys. -/
def delete (s : Shard) (now : Nat) : List Bytes → Option Outcome
  | [] => none
  | args => some <|
    checked s (keysOf args) fun keys =>
      let (count, s) := s.delete now keys
      (.ok (.integer count), s)

/-- Deletes all keys. -/
def flush (s : Shard) : List Bytes → Option Outcome
  | [] => some (.ok .ok, s.flush.2)
  | [mode] => some <|
    if isWord mode "ASYNC" || isWord mode "SYNC" then (.ok .ok, s.flush.2)
    else (.error .syntaxError, s)
  | _ => none

/-- Makes a payload. -/
def dump (s : Shard) (now : Nat) : List Bytes → Option Outcome
  | [key] => some <|
    checked s (keyOf key) fun key =>
      let (result, s) := s.dump now key
      replied s result fun payload => payload.elim .nil .bulk
  | _ => none

/-- The checked arguments of a restoring: the key, the time to live in milliseconds, and whether an
existing key may be replaced. -/
def restoreArguments (name : String) (now : Nat) (key ttl : Bytes) (option : Option Bytes) :
    Except Rejection (String × Int × Bool) := do
  let key ← keyOf key
  let ttl ← integerOf ttl .negativeTtl
  if ttl < 0 then throw .negativeTtl
  let replace ← match option with
    | none => pure false
    | some option => if isWord option "REPLACE" then pure true else throw .syntaxError
  return (key, ← ttlMillis name now ttl 1, replace)

/-- Restores a payload. -/
def restoreWith (name : String) (s : Shard) (now : Nat) (key ttl payload : Bytes)
    (option : Option Bytes) : Outcome :=
  checked s (restoreArguments name now key ttl option) fun (key, ttl, replace) =>
    match s.restore now key (if 0 < ttl then some ttl.toNat else none) payload replace with
    | (.ok (), s) => (.ok .ok, s)
    | (.error .expireTime, s) => (.error (.expireTime name), s)
    | (.error why, s) => (.error (.failed why), s)

/-- Restores a payload, with or without an option. -/
def restore (name : String) (s : Shard) (now : Nat) : List Bytes → Option Outcome
  | [key, ttl, payload] => some (restoreWith name s now key ttl payload none)
  | [key, ttl, payload, option] => some (restoreWith name s now key ttl payload (some option))
  | _ => none

/-- Counts the keys. -/
def size (s : Shard) (now : Nat) : List Bytes → Option Outcome
  | [] => some (.ok (.integer (s.keyCount now)), s)
  | _ => none

/-- Gives a key a time to live of so many units. -/
def expire (name : String) (unit : Int) (s : Shard) (now : Nat) : List Bytes → Option Outcome
  | [key, amount] => some <|
    let arguments := do
      let key ← keyOf key
      let amount ← integerOf amount .notInteger
      return (key, ← ttlMillis name now amount unit)
    checked s arguments fun (key, ms) =>
      match s.expire now key ms.toNat with
      | (.ok applied, s) => (.ok (.integer (if applied then 1 else 0)), s)
      | (.error .expireTime, s) => (.error (.expireTime name), s)
      | (.error why, s) => (.error (.failed why), s)
  | _ => none

/-- Binds a plain value. -/
def set (s : Shard) : List Bytes → Option Outcome
  | [key, value] => some <|
    checked s (keyOf key) fun key => (.ok .ok, s.setPlain key value)
  | _ => none

/-- Runs the command with this name in capital letters; nothing if the count of arguments is not one
that it takes. The name is as it was given in the second place. -/
def run (name given : String) (s : Shard) (now : Nat) (args : List Bytes) : Option Outcome :=
  match name with
  | "RG.VEC_ADD" => addVector s args
  | "RG.VEC_SIM" => searchVector s now args
  | "DEL" => delete s now args
  | "FLUSHALL" | "FLUSHDB" => flush s args
  | "DUMP" => dump s now args
  | "RESTORE" => restore name s now args
  | "DBSIZE" => size s now args
  | "EXPIRE" => expire name 1000 s now args
  | "PEXPIRE" => expire name 1 s now args
  | "SET" => set s args
  | _ => some (.error (.unknown given), s)

/-- Runs a command. Its name may be in any case, and bytes of it that are not UTF-8 are read as the
replacement character. -/
def attempt (s : Shard) (now : Nat) : List Bytes → Outcome
  | [] => (.error .empty, s)
  | name :: args =>
    let given := Utf8.lossy name
    (run given.toUpper given s now args).getD (.error (.arity given.toUpper), s)

/-- Runs a command and answers the reply, a rejection as an error. -/
def execute (s : Shard) (now : Nat) (argv : List Bytes) : Reply × Shard :=
  let (result, s) := attempt s now argv
  match result with
  | .ok reply => (reply, s)
  | .error why => (.error why.message, s)

end Command

end Nearest

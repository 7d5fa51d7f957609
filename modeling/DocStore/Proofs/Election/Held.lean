import DocStore.Election.Session
import DocStore.Proofs.Sql.Tally
import Mathlib.Algebra.Group.Int.Defs
import Mathlib.Data.Set.Basic

/-!
# Whether a lock is held

The server lists the locks of all sessions.  A held key shows there as two numbers of 32
bits without a sign (`ListedLock.Shows`), among rows of other sessions, of other kinds of
locks, and of keys that were taken as two numbers.

A session asks with the two halves of a key how many rows of its own there are.
`counts?_heldTally` says which rows these are: those that show this very key.  As no other
key has the same halves (`LockKey.eq_of_halves`), there is one exactly when the session
holds the key: `isHeld_exact`.
-/

namespace DocStore.Election

/-! ## The halves of a key -/

namespace LockKey

/-- The upper 32 bits, as the server cuts them off: its shift keeps the sign. -/
def high (key : LockKey) : BitVec 32 := (key.bits.sshiftRight 32).setWidth 32

/-- The lower 32 bits. -/
def low (key : LockKey) : BitVec 32 := key.bits.setWidth 32

/-- The copies of the sign are cut off. -/
theorem high_eq_extractLsb (key : LockKey) : key.high = key.bits.extractLsb' 32 32 := by
  rw [high]
  ext i hi
  have hlt : 32 + i < 64 := by omega
  rw [BitVec.getElem_extractLsb', BitVec.getElem_setWidth, BitVec.getLsbD_sshiftRight,
    if_pos hlt]
  simp
  omega

theorem low_eq_extractLsb (key : LockKey) : key.low = key.bits.extractLsb' 0 32 := by
  rw [low, BitVec.setWidth_eq_extractLsb' (by decide)]

theorem high_append_low (key : LockKey) : key.high ++ key.low = key.bits := by
  rw [high_eq_extractLsb, low_eq_extractLsb]
  exact (BitVec.extractLsb'_append_extractLsb'_eq_extractLsb' rfl).trans BitVec.extractLsb'_eq_self

/-- Keys with the same halves are one. -/
theorem eq_of_halves {key other : LockKey} (hhigh : key.high = other.high)
    (hlow : key.low = other.low) : key = other := by
  have hbits : key.bits = other.bits := by
    rw [← high_append_low, ← high_append_low, hhigh, hlow]
  cases key
  cases other
  exact congrArg LockKey.mk hbits

/-- The halves are what a shift without the sign and a mask leave. -/
theorem halves_eq_shift (key : LockKey) :
    key.halves = ((key.bits >>> 32).toNat, (key.bits &&& 0xFFFFFFFF#64).toNat) := by
  have hmask : key.bits.toNat &&& 0xFFFFFFFF = key.bits.toNat % 0x100000000 :=
    Nat.and_two_pow_sub_one_eq_mod _ 32
  simp [halves, BitVec.toNat_ushiftRight, BitVec.toNat_and, Nat.shiftRight_eq_div_pow, hmask]

/-- They are the server's halves, read without a sign. -/
theorem halves_eq (key : LockKey) : key.halves = (key.high.toNat, key.low.toNat) := by
  have hlt := key.bits.isLt
  simp only [halves, high_eq_extractLsb, low_eq_extractLsb, BitVec.extractLsb'_toNat,
    Nat.shiftRight_eq_div_pow, Prod.mk.injEq]
  omega

theorem toInt_ofInt {n : Int} (h : -2 ^ 63 ≤ n) (h' : n < 2 ^ 63) : (ofInt n).toInt = n :=
  BitVec.toInt_ofInt_eq_self (by decide) h h'

end LockKey

/-! ## The list of locks -/

open Sql (Backend Datum Param Tally)

/-- A row of the list of locks. -/
structure ListedLock where
  /-- Who holds the lock; a transaction that no session runs has no number. -/
  pid : Option Int
  kind : String
  classid : Option (BitVec 32)
  objid : Option (BitVec 32)
  objsubid : Option Int
  /-- Its other columns. -/
  others : Sql.Row

namespace ListedLock

/-- A number of a row; numbers of objects have no sign. -/
def number (n : Option Int) : Datum := n.elim .null .integer

def row (l : ListedLock) : Sql.Row :=
  [("locktype", .text l.kind), ("classid", number (l.classid.map (·.toNat))),
    ("objid", number (l.objid.map (·.toNat))), ("objsubid", number l.objsubid),
    ("pid", number l.pid)] ++ l.others

/-- A row shows that a session holds a key.  A key that was taken as two numbers has a two in
the last column. -/
structure Shows (session : Int) (key : LockKey) (l : ListedLock) : Prop where
  pid : l.pid = some session
  kind : l.kind = "advisory"
  classid : l.classid = some key.high
  objid : l.objid = some key.low
  objsubid : l.objsubid = some 1

instance (session : Int) (key : LockKey) (l : ListedLock) : Decidable (l.Shows session key) :=
  decidable_of_iff (l.pid = some session ∧ l.kind = "advisory" ∧ l.classid = some key.high ∧
      l.objid = some key.low ∧ l.objsubid = some 1)
    ⟨fun ⟨hpid, hkind, hclassid, hobjid, hobjsubid⟩ => ⟨hpid, hkind, hclassid, hobjid, hobjsubid⟩,
      fun h => ⟨h.pid, h.kind, h.classid, h.objid, h.objsubid⟩⟩

/-- A row shows one key. -/
theorem Shows.key_eq {session : Int} {key other : LockKey} {l : ListedLock}
    (h : l.Shows session key) (hother : l.Shows session other) : key = other :=
  LockKey.eq_of_halves (Option.some.inj (h.classid.symm.trans hother.classid))
    (Option.some.inj (h.objid.symm.trans hother.objid))

end ListedLock

/-- The list shows of a session which keys it holds: all of them, and no others.  What it says
of other sessions, and of other locks of this one, is left open. -/
structure ListsHeld (listed : List ListedLock) (session : Int) (held : Set LockKey) : Prop where
  complete : ∀ key ∈ held, ∃ l ∈ listed, l.Shows session key
  sound : ∀ l ∈ listed, l.pid = some session → l.kind = "advisory" → l.objsubid = some 1 →
    ∃ key ∈ held, l.Shows session key

/-- A key is held where a row shows it. -/
theorem ListsHeld.mem_iff {listed : List ListedLock} {session : Int} {held : Set LockKey}
    (h : ListsHeld listed session held) (key : LockKey) :
    key ∈ held ↔ ∃ l ∈ listed, l.Shows session key := by
  constructor
  · exact h.complete key
  · rintro ⟨l, hl, hshows⟩
    obtain ⟨other, hother, hshows'⟩ := h.sound l hl hshows.pid hshows.kind hshows.objsubid
    exact hshows.key_eq hshows' ▸ hother

/-! ## Asking -/

namespace LockSession

/-- What the statement counts. -/
def heldTally : Tally where
  table := "pg_locks"
  tests := [⟨"pid", none, .session⟩, ⟨"locktype", none, .literal "advisory"⟩,
    ⟨"classid", some "bigint", .placeholder 1⟩, ⟨"objid", some "bigint", .placeholder 2⟩,
    ⟨"objsubid", none, .number 1⟩]

theorem read?_heldSql : Tally.grammar.read? heldSql = some heldTally := by decide +kernel

/-- What is asked for a key. -/
def heldStatement (key : LockKey) : Sql.Statement :=
  ⟨heldSql, [.bigint key.halves.1, .bigint key.halves.2]⟩

/-- How many rows of the list of locks a statement of a session counts. -/
def countOf? (b : Backend) (session : Int) (listed : List ListedLock) (s : Sql.Statement) :
    Option Nat := do
  let tally ← Tally.grammar.read? s.sql
  guard (tally.table = "pg_locks")
  tally.count? b session (s.params.map Param.datum) (listed.map ListedLock.row)

variable (b : Backend) (session : Int) (key : LockKey)

theorem meets?_number (n : Option Int) (m : Int) :
    Datum.meets? (ListedLock.number n) (.integer m) = some (decide (n = some m)) := by
  cases n with
  | none => rfl
  | some n => simp [ListedLock.number, Datum.meets?]

theorem meets?_half (half : Option (BitVec 32)) (other : BitVec 32) :
    Datum.meets? (ListedLock.number (half.map (·.toNat))) (.integer other.toNat) =
      some (decide (half = some other)) := by
  rw [meets?_number]
  cases half with
  | none => rfl
  | some half => simp only [Option.map_some, Option.some.injEq, Int.ofNat_inj, BitVec.toNat_inj]

theorem cast?_bigint_number (n : Option Int) :
    (ListedLock.number n).cast? b "bigint" = some (ListedLock.number n) := by
  cases n <;> rfl

theorem params_heldStatement : (heldStatement key).params.map Param.datum =
    [.integer key.high.toNat, .integer key.low.toNat] := by
  rw [heldStatement, LockKey.halves_eq]
  rfl

/-- A row counts if it shows this very key. -/
theorem counts?_heldTally (l : ListedLock) :
    heldTally.counts? b session ((heldStatement key).params.map Param.datum) l.row =
      some (decide (l.Shows session key)) := by
  have hhalf : ∀ (half : Option (BitVec 32)) (other : BitVec 32),
      ((ListedLock.number (half.map (·.toNat))).cast? b "bigint").bind
        (fun stands => Datum.meets? stands (.integer other.toNat)) =
          some (decide (half = some other)) := by
    intro half other
    rw [cast?_bigint_number, Option.bind_some, meets?_half]
  have hholds : heldTally.tests.mapM
      (fun test => test.holds? b session ((heldStatement key).params.map Param.datum) l.row) =
        some [decide (l.pid = some session), decide (l.kind = "advisory"),
          decide (l.classid = some key.high), decide (l.objid = some key.low),
          decide (l.objsubid = some 1)] := by
    rw [Sql.mapM_eq_some_iff, params_heldStatement]
    refine .cons ?_ (.cons ?_ (.cons ?_ (.cons ?_ (.cons ?_ .nil))))
    · exact meets?_number l.pid session
    · rfl
    · exact hhalf l.classid key.high
    · exact hhalf l.objid key.low
    · exact meets?_number l.objsubid 1
  have hall : [decide (l.pid = some session), decide (l.kind = "advisory"),
      decide (l.classid = some key.high), decide (l.objid = some key.low),
      decide (l.objsubid = some 1)].all id = decide (l.Shows session key) := by
    rw [Bool.eq_iff_iff, decide_eq_true_iff]
    simp only [List.all_cons, List.all_nil, id_eq, Bool.and_true, Bool.and_eq_true,
      decide_eq_true_eq]
    exact ⟨fun ⟨hpid, hkind, hclassid, hobjid, hobjsubid⟩ =>
        ⟨hpid, hkind, hclassid, hobjid, hobjsubid⟩,
      fun h => ⟨h.pid, h.kind, h.classid, h.objid, h.objsubid⟩⟩
  rw [Tally.counts?, hholds, ← hall]
  rfl

/-- The rows that show the key are counted. -/
theorem countOf?_heldStatement (listed : List ListedLock) :
    countOf? b session listed (heldStatement key) =
      some (listed.countP fun l => l.Shows session key) := by
  have hread : Tally.grammar.read? (heldStatement key).sql = some heldTally := read?_heldSql
  rw [countOf?, hread]
  exact Tally.count?_eq_countP b session _ (counts?_heldTally b session key) listed

/-- The two numbers that a session asks with have 32 bits and rebuild the key, and the list of
locks has a row for them exactly if the session holds this very key; so then is the answer. -/
theorem isHeld_exact {listed : List ListedLock} {session : Int} {held : Set LockKey}
    (hlists : ListsHeld listed session held) {n : Int} (hn : -2 ^ 63 ≤ n) (hn' : n < 2 ^ 63) :
    ∃ (high low count : Nat) (next : Reply → LockScript Bool),
      high < 2 ^ 32 ∧ low < 2 ^ 32 ∧ (BitVec.ofNat 32 high ++ BitVec.ofNat 32 low).toInt = n ∧
      isHeld (.ofInt n) = .ask (.execute ⟨heldSql, [.bigint high, .bigint low]⟩) next ∧
      countOf? b session listed ⟨heldSql, [.bigint high, .bigint low]⟩ = some count ∧
      (0 < count ↔ LockKey.ofInt n ∈ held) ∧
      ∀ affected, ∃ answer, next (.ok ⟨[[.integer count]], affected⟩) = .done answer ∧
        (answer = true ↔ LockKey.ofInt n ∈ held) := by
  let key := LockKey.ofInt n
  have hrebuilt : (BitVec.ofNat 32 key.halves.1 ++ BitVec.ofNat 32 key.halves.2).toInt = n := by
    rw [key.halves_eq, BitVec.ofNat_toNat, BitVec.ofNat_toNat, BitVec.setWidth_eq,
      BitVec.setWidth_eq, key.high_append_low]
    exact LockKey.toInt_ofInt hn hn'
  have hcount : 0 < (listed.countP fun l => l.Shows session key) ↔ key ∈ held := by
    rw [List.countP_pos_iff, hlists.mem_iff]
    simp
  refine ⟨key.halves.1, key.halves.2, _, _, key.halves_lt.1, key.halves_lt.2, hrebuilt, rfl,
    countOf?_heldStatement b session key listed, hcount, fun affected => ⟨_, rfl, ?_⟩⟩
  rw [decide_eq_true_iff, Int.natCast_pos]
  exact hcount

/-! ### A crowded list -/

namespace Sample

def backend : Backend := ⟨fun _ => true, some, 2 ^ 63 - 1⟩

/-- A row of a lock with a key of the user. -/
def advisory (session : Int) (high low : BitVec 32) (objsubid : Int) : ListedLock :=
  ⟨some session, "advisory", some high, some low, some objsubid, [("granted", .boolean true)]⟩

/-- Session 7 holds the key −4242 alone.  Around it stand the other way round of its halves, as
a key of another session, the same halves taken as two numbers, and a lock on a table. -/
def crowded : List ListedLock :=
  [⟨some 7, "relation", none, none, none, [("granted", .boolean true)]⟩,
    advisory 8 0xFFFFEF6E 0xFFFFFFFF 1, advisory 7 0xFFFFEF6E 0xFFFFFFFF 2,
    advisory 7 0xFFFFFFFF 0xFFFFEF6E 1]

theorem listsHeld_crowded : ListsHeld crowded 7 {LockKey.ofInt (-4242)} := by
  constructor
  · rintro key rfl
    exact ⟨advisory 7 0xFFFFFFFF 0xFFFFEF6E 1, by simp [crowded], by decide +kernel⟩
  · intro l hl hpid hkind hobjsubid
    refine ⟨_, rfl, ?_⟩
    simp only [crowded, List.mem_cons, List.not_mem_nil, or_false] at hl
    obtain rfl | rfl | rfl | rfl := hl
    · simp at hkind
    · simp [advisory] at hpid
    · simp [advisory] at hobjsubid
    · decide +kernel

end Sample

open Sample in
/-- A negative key is found, and the key with its halves the other way round is not. -/
theorem isHeld_negative :
    ListsHeld crowded 7 {LockKey.ofInt (-4242)} ∧
    (∃ high low count : Nat, high < 2 ^ 32 ∧ low < 2 ^ 32 ∧
      (BitVec.ofNat 32 high ++ BitVec.ofNat 32 low).toInt = -4242 ∧
      countOf? backend 7 crowded ⟨heldSql, [.bigint high, .bigint low]⟩ = some count ∧
      0 < count) ∧
    ∃ high low count : Nat, high < 2 ^ 32 ∧ low < 2 ^ 32 ∧
      (BitVec.ofNat 32 high ++ BitVec.ofNat 32 low).toInt = -18214956302337 ∧
      countOf? backend 7 crowded ⟨heldSql, [.bigint high, .bigint low]⟩ = some count ∧
      ¬ 0 < count := by
  refine ⟨listsHeld_crowded, ?_, ?_⟩
  · obtain ⟨high, low, count, -, hhigh, hlow, hrebuilt, -, hcount, hheld, -⟩ :=
      isHeld_exact backend listsHeld_crowded (show -2 ^ 63 ≤ (-4242 : Int) by decide) (by decide)
    exact ⟨high, low, count, hhigh, hlow, hrebuilt, hcount, hheld.2 rfl⟩
  · have hother : LockKey.ofInt (-18214956302337) ≠ LockKey.ofInt (-4242) := by decide
    obtain ⟨high, low, count, -, hhigh, hlow, hrebuilt, -, hcount, hheld, -⟩ :=
      isHeld_exact backend listsHeld_crowded (show -2 ^ 63 ≤ (-18214956302337 : Int) by decide)
        (by decide)
    exact ⟨high, low, count, hhigh, hlow, hrebuilt, hcount, fun h => absurd (hheld.1 h) hother⟩

end LockSession

end DocStore.Election

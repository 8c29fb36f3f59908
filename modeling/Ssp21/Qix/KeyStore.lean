import Ssp21.Crypto.Handshake
import Ssp21.Foundation.OrderedMap
import Ssp21.Qix.FrameParser

/-!
# The QIX key store

`QIXKeyStore` caches the keys that arrive in QIX frames.  An initiator takes the newest key
(`consume_key`), a responder the one that a request names (`find_and_consume_key`); both go under
one lock, so that a run is a list of operations.

Keys leave the store in four ways.  `Consumed`, `Evicted` and `Cleared` say which identifiers an
operation removes, in terms of the identifiers that the store holds; `mem_step` says that these are
the ones, and `single_use` what follows for a whole run.
-/

namespace Ssp21

open Wire

/-- `KeyRecord::create_key`. -/
def KeyRecord.create (id : UInt64) (key : Bytes) : KeyRecord where
  id := id
  key := if key.length ≠ Consts.symmetricKeyLength then none else some key

structure QIXKeyStore where
  maxCachedKeys : UInt16
  keyMap : OrderedMap UInt64 KeyRecord

namespace QIXKeyStore

def create (maxCachedKeys : UInt16) : QIXKeyStore := ⟨maxCachedKeys, OrderedMap.empty⟩

/-- The map that a key is put into: it is cleared if the identifier goes backward. -/
def clearIfBackward (store : QIXKeyStore) (frame : QIXFrame) : OrderedMap UInt64 KeyRecord :=
  match store.keyMap.last? with
  | none => store.keyMap
  | some largest => if frame.keyId < largest.1 then OrderedMap.empty else store.keyMap

/-- Discard the oldest key if the cache has grown too large. -/
def discardOldest (maxCachedKeys : UInt16) (map : OrderedMap UInt64 KeyRecord) :
    OrderedMap UInt64 KeyRecord :=
  if map.size > maxCachedKeys.toNat then
    match map.first? with
    | none => map
    | some oldest => map.erase oldest.1
  else map

def addKey (store : QIXKeyStore) (frame : QIXFrame) : QIXKeyStore :=
  { store with
    keyMap := discardOldest store.maxCachedKeys
      ((store.clearIfBackward frame).insert frame.keyId
        (KeyRecord.create frame.keyId frame.keyData)) }

def consumeKey (store : QIXKeyStore) : Option KeyRecord × QIXKeyStore :=
  match store.keyMap.last? with
  | none => (none, store)
  | some largest => (some largest.2, { store with keyMap := store.keyMap.erase largest.1 })

def findAndConsumeKey (store : QIXKeyStore) (keyId : UInt64) : Option Bytes × QIXKeyStore :=
  match store.keyMap.find? keyId with
  | none => (none, store)
  | some record => (record.key, { store with keyMap := store.keyMap.erase keyId })

/-! ## Operations -/

inductive Operation
  | addKey (frame : QIXFrame)
  | consumeKey
  | findAndConsumeKey (keyId : UInt64)
  deriving DecidableEq, Repr

def step (store : QIXKeyStore) : Operation → QIXKeyStore
  | .addKey frame => store.addKey frame
  | .consumeKey => store.consumeKey.2
  | .findAndConsumeKey keyId => (store.findAndConsumeKey keyId).2

/-- The key that an operation hands out, under its identifier. -/
def handsOut (store : QIXKeyStore) : Operation → Option (UInt64 × Bytes)
  | .addKey _ => none
  | .consumeKey => store.consumeKey.1.bind fun record => record.key.map fun key => (record.id, key)
  | .findAndConsumeKey keyId => (store.findAndConsumeKey keyId).1.map fun key => (keyId, key)

/-- The identifiers that are held. -/
def ids (store : QIXKeyStore) : List UInt64 := store.keyMap.keys

/-- The identifier of a frame is smaller than one that is held. -/
def Backward (store : QIXKeyStore) (frame : QIXFrame) : Prop :=
  ∃ id ∈ store.ids, frame.keyId < id

instance (store : QIXKeyStore) (frame : QIXFrame) : Decidable (store.Backward frame) :=
  inferInstanceAs (Decidable (∃ id ∈ store.ids, frame.keyId < id))

/-- The identifiers that are held when a key has been added, before the store is cut back. -/
def idsWith (store : QIXKeyStore) (frame : QIXFrame) : List UInt64 :=
  frame.keyId :: if store.Backward frame then [] else store.ids

/-- The operation hands out the key with this identifier. -/
def Consumed (store : QIXKeyStore) (operation : Operation) (id : UInt64) : Prop :=
  ∃ key, store.handsOut operation = some (id, key)

/-- The operation overflows the store, and this is the smallest identifier. -/
def Evicted (store : QIXKeyStore) (operation : Operation) (id : UInt64) : Prop :=
  ∃ frame, operation = .addKey frame ∧
    store.maxCachedKeys.toNat < (store.idsWith frame).length ∧
    id ∈ store.idsWith frame ∧ ∀ other ∈ store.idsWith frame, id ≤ other

/-- The operation adds a smaller identifier than one that is held. -/
def Cleared (store : QIXKeyStore) (operation : Operation) (id : UInt64) : Prop :=
  ∃ frame, operation = .addKey frame ∧ store.Backward frame ∧ id ∈ store.ids

def Removed (store : QIXKeyStore) (operation : Operation) (id : UInt64) : Prop :=
  store.Consumed operation id ∨ store.Evicted operation id ∨ store.Cleared operation id

/-- The operations of a run, each with the store it is made on. -/
def history : QIXKeyStore → List Operation → List (QIXKeyStore × Operation)
  | _, [] => []
  | store, operation :: operations =>
      (store, operation) :: history (store.step operation) operations

theorem history_concat (store : QIXKeyStore) (operations : List Operation)
    (operation : Operation) :
    store.history (operations ++ [operation]) =
      store.history operations ++ [(operations.foldl step store, operation)] := by
  induction operations generalizing store with
  | nil => rfl
  | cons first operations ih =>
      simp only [List.cons_append, history, List.foldl_cons]
      rw [ih]

/-- The keys that are handed out in a run. -/
def handedOut (store : QIXKeyStore) (operations : List Operation) : List (UInt64 × Bytes) :=
  (store.history operations).filterMap fun event => event.1.handsOut event.2

def Operation.addedId : Operation → Option UInt64
  | .addKey frame => some frame.keyId
  | .consumeKey => none
  | .findAndConsumeKey _ => none

/-- The identifiers that are added in a run. -/
def addedIds (operations : List Operation) : List UInt64 :=
  operations.filterMap Operation.addedId

/-- A frame with this key is added in a run. -/
def Added (operations : List Operation) (id : UInt64) (key : Bytes) : Prop :=
  ∃ frame, Operation.addKey frame ∈ operations ∧ frame.keyId = id ∧ frame.keyData = key

/-- Every record stands under its identifier, and holds a key. -/
def Sound (store : QIXKeyStore) : Prop :=
  ∀ id record, (id, record) ∈ store.keyMap.entries → ∃ key, record = ⟨id, some key⟩

/-! ## One operation -/

section Step

variable {store : QIXKeyStore} {frame : QIXFrame} {id : UInt64} {record : KeyRecord}

theorem clearIfBackward_eq (store : QIXKeyStore) (frame : QIXFrame) :
    store.clearIfBackward frame =
      if store.Backward frame then OrderedMap.empty else store.keyMap := by
  rw [clearIfBackward]
  cases hlast : store.keyMap.last? with
  | none =>
      have hnot : ¬ store.Backward frame := by
        rintro ⟨id, hin, -⟩
        rw [ids, OrderedMap.last?_eq_none_iff.mp hlast] at hin
        cases hin
      rw [if_neg hnot]
  | some largest =>
      obtain ⟨hin, hgreatest⟩ := OrderedMap.last?_greatest hlast
      by_cases hback : frame.keyId < largest.1
      · have hbackward : store.Backward frame :=
          ⟨largest.1, OrderedMap.mem_keys.mpr ⟨largest.2, hin⟩, hback⟩
        simp only [if_pos hback, if_pos hbackward]
      · have hnot : ¬ store.Backward frame := by
          rintro ⟨id, hid, hlt⟩
          exact hback (UInt64.lt_of_lt_of_le hlt (hgreatest id hid))
        simp only [if_neg hback, if_neg hnot]

theorem mem_discardOldest {maxCachedKeys : UInt16} {map : OrderedMap UInt64 KeyRecord}
    {entry : UInt64 × KeyRecord} :
    entry ∈ (discardOldest maxCachedKeys map).entries ↔
      entry ∈ map.entries ∧
        ¬ (maxCachedKeys.toNat < map.size ∧ ∀ other ∈ map.keys, entry.1 ≤ other) := by
  rw [discardOldest]
  by_cases hover : map.size > maxCachedKeys.toNat
  · rw [if_pos hover]
    cases hfirst : map.first? with
    | none =>
        have hempty : map.entries = [] :=
          List.map_eq_nil_iff.mp (OrderedMap.first?_eq_none_iff.mp hfirst)
        simp [hempty]
    | some oldest =>
        obtain ⟨hin, hleast⟩ := OrderedMap.first?_least hfirst
        simp only [OrderedMap.mem_erase, hover, true_and]
        refine and_congr_right fun hentry => not_congr ⟨?_, ?_⟩
        · intro heq
          rw [heq]
          exact hleast
        · intro hbelow
          exact UInt64.le_antisymm
            (hbelow oldest.1 (OrderedMap.mem_keys.mpr ⟨oldest.2, hin⟩))
            (hleast entry.1 (OrderedMap.mem_keys.mpr ⟨entry.2, hentry⟩))
  · rw [if_neg hover]
    exact ⟨fun hin => ⟨hin, fun h => hover h.1⟩, And.left⟩

theorem size_discardOldest {maxCachedKeys : UInt16} {map : OrderedMap UInt64 KeyRecord}
    (hsize : map.size ≤ maxCachedKeys.toNat + 1) :
    (discardOldest maxCachedKeys map).size ≤ maxCachedKeys.toNat := by
  rw [discardOldest]
  split_ifs with hover
  · cases hfirst : map.first? with
    | none =>
        have hempty : map.size = 0 := by
          rw [← OrderedMap.length_keys, OrderedMap.first?_eq_none_iff.mp hfirst]
          rfl
        omega
    | some oldest =>
        have hin := (OrderedMap.first?_least hfirst).1
        have herase := OrderedMap.size_erase (OrderedMap.mem_keys.mpr ⟨oldest.2, hin⟩)
        change (map.erase oldest.1).size ≤ _
        omega
  · omega

/-- What has been put into the map, before it is cut back. -/
theorem mem_inserted {entry : UInt64 × KeyRecord} (hfresh : frame.keyId ∉ store.ids) :
    entry ∈ ((store.clearIfBackward frame).insert frame.keyId
        (KeyRecord.create frame.keyId frame.keyData)).entries ↔
      entry = (frame.keyId, KeyRecord.create frame.keyId frame.keyData) ∨
        entry ∈ store.keyMap.entries ∧ ¬ store.Backward frame := by
  rw [OrderedMap.mem_insert, clearIfBackward_eq]
  refine or_congr_right ?_
  by_cases hback : store.Backward frame
  · simp [hback, OrderedMap.empty]
  · simp only [hback, if_false, not_false_eq_true, and_true]
    refine and_iff_left_of_imp fun hin heq => hfresh ?_
    rw [← heq]
    exact OrderedMap.mem_keys.mpr ⟨entry.2, hin⟩

theorem mem_keys_inserted :
    id ∈ ((store.clearIfBackward frame).insert frame.keyId
        (KeyRecord.create frame.keyId frame.keyData)).keys ↔ id ∈ store.idsWith frame := by
  rw [OrderedMap.mem_keys_insert, clearIfBackward_eq, idsWith, List.mem_cons]
  refine or_congr_right ?_
  by_cases hback : store.Backward frame
  · simp [hback, OrderedMap.empty, OrderedMap.keys]
  · simp [hback, ids]

theorem size_inserted (hfresh : frame.keyId ∉ store.ids) :
    ((store.clearIfBackward frame).insert frame.keyId
        (KeyRecord.create frame.keyId frame.keyData)).size = (store.idsWith frame).length := by
  rw [clearIfBackward_eq, idsWith, List.length_cons]
  by_cases hback : store.Backward frame
  · simp only [hback, if_true]
    exact OrderedMap.size_insert (by simp [OrderedMap.empty, OrderedMap.keys])
  · simp only [hback, if_false]
    rw [OrderedMap.size_insert hfresh, ids, OrderedMap.length_keys]

theorem mem_addKey (hfresh : frame.keyId ∉ store.ids) :
    (id, record) ∈ (store.addKey frame).keyMap.entries ↔
      ((id, record) = (frame.keyId, KeyRecord.create frame.keyId frame.keyData) ∨
        (id, record) ∈ store.keyMap.entries) ∧
      ¬ store.Evicted (.addKey frame) id ∧ ¬ store.Cleared (.addKey frame) id := by
  rw [addKey, mem_discardOldest, size_inserted hfresh, mem_inserted hfresh]
  simp only [mem_keys_inserted]
  have hheld : (id, record) ∈ store.keyMap.entries → id ∈ store.ids := fun hin =>
    OrderedMap.mem_keys.mpr ⟨record, hin⟩
  constructor
  · rintro ⟨hin, hkept⟩
    have hnot : ¬ store.Evicted (.addKey frame) id := by
      rintro ⟨_, ⟨⟩, hover, -, hleast⟩
      exact hkept ⟨hover, hleast⟩
    rcases hin with heq | ⟨hin, hforward⟩
    · refine ⟨.inl heq, hnot, ?_⟩
      rintro ⟨_, ⟨⟩, -, hid⟩
      rw [(Prod.mk.inj heq).1] at hid
      exact hfresh hid
    · refine ⟨.inr hin, hnot, ?_⟩
      rintro ⟨_, ⟨⟩, hback, -⟩
      exact hforward hback
  · rintro ⟨hin, hevicted, hcleared⟩
    have hforward : (id, record) ∈ store.keyMap.entries → ¬ store.Backward frame := fun hin hback =>
      hcleared ⟨frame, rfl, hback, hheld hin⟩
    have hwith : id ∈ store.idsWith frame := by
      rcases hin with heq | hin
      · rw [(Prod.mk.inj heq).1, idsWith]
        exact List.mem_cons_self
      · rw [idsWith, if_neg (hforward hin)]
        exact List.mem_cons_of_mem _ (hheld hin)
    refine ⟨hin.imp_right fun hin => ⟨hin, hforward hin⟩, ?_⟩
    rintro ⟨hover, hleast⟩
    exact hevicted ⟨frame, rfl, hover, hwith, hleast⟩

theorem consumeKey_eq_some {store' : QIXKeyStore}
    (hconsume : store.consumeKey = (some record, store')) :
    ∃ id, (id, record) ∈ store.keyMap.entries ∧ (∀ other ∈ store.ids, other ≤ id) ∧
      store' = { store with keyMap := store.keyMap.erase id } := by
  rw [consumeKey] at hconsume
  cases hlast : store.keyMap.last? with
  | none =>
      rw [hlast] at hconsume
      cases hconsume
  | some largest =>
      rw [hlast] at hconsume
      cases hconsume
      obtain ⟨hin, hgreatest⟩ := OrderedMap.last?_greatest hlast
      exact ⟨largest.1, hin, hgreatest, rfl⟩

theorem consumeKey_eq_none {store' : QIXKeyStore} (hconsume : store.consumeKey = (none, store')) :
    store.ids = [] ∧ store' = store := by
  rw [consumeKey] at hconsume
  cases hlast : store.keyMap.last? with
  | none =>
      rw [hlast] at hconsume
      cases hconsume
      exact ⟨OrderedMap.last?_eq_none_iff.mp hlast, rfl⟩
  | some largest =>
      rw [hlast] at hconsume
      cases hconsume

/-- A consuming operation hands out the key of the one entry that it erases. -/
theorem consumes (hsound : store.Sound) (operation : Operation)
    (hconsumes : ∀ frame, operation ≠ .addKey frame) :
    store.handsOut operation = none ∧ store.step operation = store ∨
      ∃ id key, store.handsOut operation = some (id, key) ∧
        (id, ⟨id, some key⟩) ∈ store.keyMap.entries ∧
        store.step operation = { store with keyMap := store.keyMap.erase id } := by
  cases operation with
  | addKey frame => exact absurd rfl (hconsumes frame)
  | consumeKey =>
      rcases hconsume : store.consumeKey with ⟨_ | record, store'⟩
      · refine .inl ⟨?_, ?_⟩
        · rw [handsOut, hconsume]
          rfl
        · rw [step, hconsume, (consumeKey_eq_none hconsume).2]
      · obtain ⟨id, hin, -, heq⟩ := consumeKey_eq_some hconsume
        obtain ⟨key, rfl⟩ := hsound _ _ hin
        refine .inr ⟨id, key, ?_, hin, ?_⟩
        · rw [handsOut, hconsume]
          rfl
        · rw [step, hconsume, heq]
  | findAndConsumeKey keyId =>
      cases hfind : store.keyMap.find? keyId with
      | none => exact .inl (by simp [handsOut, step, findAndConsumeKey, hfind])
      | some record =>
          have hin := OrderedMap.find?_eq_some_iff.mp hfind
          obtain ⟨key, rfl⟩ := hsound _ _ hin
          exact .inr ⟨keyId, key, by simp [handsOut, step, findAndConsumeKey, hfind, hin]⟩

/-- What the store holds after an operation: what it held and what is added, but for what the
operation removes. -/
theorem mem_step (hsound : store.Sound) (operation : Operation)
    (hfresh : ∀ frame, operation = .addKey frame → frame.keyId ∉ store.ids) :
    (id, record) ∈ (store.step operation).keyMap.entries ↔
      ((∃ frame, operation = .addKey frame ∧
          (id, record) = (frame.keyId, KeyRecord.create frame.keyId frame.keyData)) ∨
        (id, record) ∈ store.keyMap.entries) ∧
      ¬ store.Removed operation id := by
  by_cases hadds : ∃ frame, operation = .addKey frame
  · obtain ⟨frame, rfl⟩ := hadds
    have hnot : ¬ store.Consumed (.addKey frame) id := by
      rintro ⟨key, hhands⟩
      cases hhands
    simp [step, mem_addKey (hfresh frame rfl), Removed, hnot]
  · have hconsumes : ∀ frame, operation ≠ .addKey frame := fun frame heq => hadds ⟨frame, heq⟩
    have hevicted : ¬ store.Evicted operation id := fun ⟨frame, heq, _⟩ => hconsumes frame heq
    have hcleared : ¬ store.Cleared operation id := fun ⟨frame, heq, _⟩ => hconsumes frame heq
    simp only [Removed, hevicted, hcleared, hconsumes, false_and, exists_false, false_or, or_false]
    rcases consumes hsound operation hconsumes with ⟨hhands, hstep⟩ | ⟨taken, key, hhands, -, hstep⟩
    · simp [Consumed, hhands, hstep]
    · simp [Consumed, hhands, hstep, OrderedMap.mem_erase, eq_comm]

/-- What an operation removes was held, or is the key that it adds. -/
theorem Removed.held_or_added {operation : Operation} (hsound : store.Sound)
    (hremoved : store.Removed operation id) :
    id ∈ store.ids ∨ ∃ frame, operation = .addKey frame ∧ frame.keyId = id := by
  rcases hremoved with ⟨key, hhands⟩ | ⟨frame, rfl, -, hin, -⟩ | ⟨frame, rfl, -, hin⟩
  · have hconsumes : ∀ frame, operation ≠ .addKey frame := by
      rintro frame rfl
      cases hhands
    rcases consumes hsound operation hconsumes with ⟨hnone, -⟩ | ⟨taken, key, hsome, hin, -⟩
    · rw [hnone] at hhands
      cases hhands
    · rw [hsome] at hhands
      cases hhands
      exact .inl (OrderedMap.mem_keys.mpr ⟨_, hin⟩)
  · rw [idsWith, List.mem_cons] at hin
    rcases hin with rfl | hin
    · exact .inr ⟨frame, rfl, rfl⟩
    · split_ifs at hin
      · cases hin
      · exact .inl hin
  · exact .inl hin

theorem maxCachedKeys_step (store : QIXKeyStore) (operation : Operation) :
    (store.step operation).maxCachedKeys = store.maxCachedKeys := by
  cases operation with
  | addKey frame => rfl
  | consumeKey =>
      rw [step, consumeKey]
      cases store.keyMap.last? <;> rfl
  | findAndConsumeKey keyId =>
      rw [step, findAndConsumeKey]
      cases store.keyMap.find? keyId <;> rfl

theorem size_step (hsound : store.Sound) (operation : Operation)
    (hfresh : ∀ frame, operation = .addKey frame → frame.keyId ∉ store.ids)
    (hsize : store.keyMap.size ≤ store.maxCachedKeys.toNat) :
    (store.step operation).keyMap.size ≤ store.maxCachedKeys.toNat := by
  by_cases hadds : ∃ frame, operation = .addKey frame
  · obtain ⟨frame, rfl⟩ := hadds
    apply size_discardOldest
    rw [size_inserted (hfresh frame rfl), idsWith, List.length_cons]
    have hids : store.ids.length = store.keyMap.size := OrderedMap.length_keys
    split_ifs
    · exact Nat.le_add_left 1 _
    · omega
  · rcases consumes hsound operation fun frame heq => hadds ⟨frame, heq⟩ with
      ⟨-, hstep⟩ | ⟨taken, key, -, hin, hstep⟩
    · rw [hstep]
      exact hsize
    · have herase := OrderedMap.size_erase (OrderedMap.mem_keys.mpr ⟨_, hin⟩)
      rw [hstep]
      change (store.keyMap.erase taken).size ≤ _
      omega

end Step

/-! ## Whole runs -/

section Run

variable {maxCachedKeys : UInt16} {operations : List Operation} {operation : Operation}
  {id : UInt64} {key : Bytes} {record : KeyRecord}

/-- The frames that arrive: the keys have 32 bytes, and no identifier comes twice. -/
structure Arrivals (operations : List Operation) : Prop where
  sized : ∀ frame, .addKey frame ∈ operations → frame.keyData.length = Consts.symmetricKeyLength
  distinct : (addedIds operations).Nodup

theorem mem_addedIds : id ∈ addedIds operations ↔ ∃ key, Added operations id key := by
  rw [addedIds, List.mem_filterMap]
  constructor
  · rintro ⟨operation, hin, hid⟩
    cases operation with
    | addKey frame => exact ⟨frame.keyData, frame, hin, Option.some.inj hid, rfl⟩
    | consumeKey => cases hid
    | findAndConsumeKey keyId => cases hid
  · rintro ⟨key, frame, hin, rfl, -⟩
    exact ⟨.addKey frame, hin, rfl⟩

theorem added_concat :
    Added (operations ++ [operation]) id key ↔
      Added operations id key ∨
        ∃ frame, operation = .addKey frame ∧ frame.keyId = id ∧ frame.keyData = key := by
  simp only [Added, List.mem_append, List.mem_singleton, or_and_right, exists_or, eq_comm]

theorem Arrivals.front (harrivals : Arrivals (operations ++ [operation])) :
    Arrivals operations where
  sized frame hin := harrivals.sized frame (List.mem_append_left _ hin)
  distinct := by
    have hdistinct := harrivals.distinct
    rw [addedIds, List.filterMap_append] at hdistinct
    exact hdistinct.of_append_left

/-- The identifier of the last frame has not been added before. -/
theorem Arrivals.fresh {frame : QIXFrame}
    (harrivals : Arrivals (operations ++ [.addKey frame])) :
    ¬ Added operations frame.keyId key := by
  intro hadded
  have hdistinct := harrivals.distinct
  rw [addedIds, List.filterMap_append] at hdistinct
  exact List.disjoint_of_nodup_append hdistinct (mem_addedIds.mpr ⟨key, hadded⟩)
    (List.mem_singleton.mpr rfl)

/-- The store holds the keys that have been added and not removed. -/
structure Accounts (maxCachedKeys : UInt16) (operations : List Operation)
    (store : QIXKeyStore) : Prop where
  capacity : store.maxCachedKeys = maxCachedKeys
  bounded : store.keyMap.size ≤ maxCachedKeys.toNat
  held : ∀ id record, (id, record) ∈ store.keyMap.entries ↔
    (∃ key, Added operations id key ∧ record = ⟨id, some key⟩) ∧
      ∀ event ∈ (create maxCachedKeys).history operations, ¬ event.1.Removed event.2 id
  removed : ∀ event ∈ (create maxCachedKeys).history operations, ∀ id,
    event.1.Removed event.2 id → ∃ key, Added operations id key
  handed : ∀ pair ∈ (create maxCachedKeys).handedOut operations,
    Added operations pair.1 pair.2
  once : (((create maxCachedKeys).handedOut operations).map Prod.fst).Nodup

variable {store : QIXKeyStore}

theorem Accounts.sound (haccounts : Accounts maxCachedKeys operations store) : store.Sound := by
  intro id record hin
  obtain ⟨⟨key, -, heq⟩, -⟩ := (haccounts.held id record).mp hin
  exact ⟨key, heq⟩

theorem Accounts.added_of_mem (haccounts : Accounts maxCachedKeys operations store)
    (hid : id ∈ store.ids) : ∃ key, Added operations id key := by
  obtain ⟨record, hin⟩ := OrderedMap.mem_keys.mp hid
  obtain ⟨⟨key, hadded, -⟩, -⟩ := (haccounts.held id record).mp hin
  exact ⟨key, hadded⟩

theorem accounts_create (maxCachedKeys : UInt16) :
    Accounts maxCachedKeys [] (create maxCachedKeys) where
  capacity := rfl
  bounded := Nat.zero_le _
  held id record := by simp [create, OrderedMap.empty, Added]
  removed event hin := by simp [history] at hin
  handed pair hin := by simp [handedOut, history] at hin
  once := List.nodup_nil

theorem handedOut_concat (initial : QIXKeyStore) :
    initial.handedOut (operations ++ [operation]) =
      initial.handedOut operations ++
        ((operations.foldl step initial).handsOut operation).toList := by
  rw [handedOut, history_concat, List.filterMap_append]
  cases hhands : (operations.foldl step initial).handsOut operation <;>
    simp [handedOut, hhands]

theorem Accounts.not_mem_ids (haccounts : Accounts maxCachedKeys operations store)
    (harrivals : Arrivals (operations ++ [operation])) (frame : QIXFrame)
    (hadds : operation = .addKey frame) : frame.keyId ∉ store.ids := by
  subst hadds
  intro hid
  obtain ⟨key, hadded⟩ := haccounts.added_of_mem hid
  exact harrivals.fresh hadded

/-- A key that is handed out has been added, and none of its identifier has been removed before. -/
theorem Accounts.handsOut_held (haccounts : Accounts maxCachedKeys operations store)
    (hhands : store.handsOut operation = some (id, key)) :
    Added operations id key ∧
      ∀ event ∈ (create maxCachedKeys).history operations, ¬ event.1.Removed event.2 id := by
  have hconsumes : ∀ frame, operation ≠ .addKey frame := by
    rintro frame rfl
    cases hhands
  rcases consumes haccounts.sound operation hconsumes with ⟨hnone, -⟩ | ⟨_, _, hsome, hin, -⟩
  · rw [hnone] at hhands
    cases hhands
  · rw [hsome] at hhands
    cases hhands
    obtain ⟨⟨key, hadded, heq⟩, hkept⟩ := (haccounts.held _ _).mp hin
    cases heq
    exact ⟨hadded, hkept⟩

/-- What is held after one more operation. -/
theorem Accounts.held_step
    (haccounts : Accounts maxCachedKeys operations (operations.foldl step (create maxCachedKeys)))
    (harrivals : Arrivals (operations ++ [operation])) (id : UInt64) (record : KeyRecord) :
    (id, record) ∈
        ((operations.foldl step (create maxCachedKeys)).step operation).keyMap.entries ↔
      (∃ key, Added (operations ++ [operation]) id key ∧ record = ⟨id, some key⟩) ∧
        ∀ event ∈ (create maxCachedKeys).history (operations ++ [operation]),
          ¬ event.1.Removed event.2 id := by
  rw [mem_step haccounts.sound operation (haccounts.not_mem_ids harrivals), history_concat]
  simp only [List.mem_append, List.mem_singleton, or_imp, forall_and, forall_eq, added_concat]
  rw [← and_assoc]
  refine and_congr_left fun _ => ?_
  -- a key that is added is one of 32 bytes, and nothing has removed its identifier yet
  have hnew : ∀ frame, operation = .addKey frame →
      KeyRecord.create frame.keyId frame.keyData = ⟨frame.keyId, some frame.keyData⟩ ∧
        ∀ event ∈ (create maxCachedKeys).history operations,
          ¬ event.1.Removed event.2 frame.keyId := by
    rintro frame rfl
    constructor
    · simp [KeyRecord.create, harrivals.sized frame (by simp)]
    · intro event hin hremoved
      obtain ⟨key, hadded⟩ := haccounts.removed event hin _ hremoved
      exact harrivals.fresh hadded
  constructor
  · rintro (⟨frame, hadds, heq⟩ | hin)
    · obtain ⟨hcreate, hkept⟩ := hnew frame hadds
      cases heq
      exact ⟨⟨frame.keyData, .inr ⟨frame, hadds, rfl, rfl⟩, hcreate⟩, hkept⟩
    · obtain ⟨⟨key, hadded, heq⟩, hkept⟩ := (haccounts.held id record).mp hin
      exact ⟨⟨key, .inl hadded, heq⟩, hkept⟩
  · rintro ⟨⟨key, hadded | ⟨frame, hadds, rfl, rfl⟩, heq⟩, hkept⟩
    · exact .inr ((haccounts.held id record).mpr ⟨⟨key, hadded, heq⟩, hkept⟩)
    · exact .inl ⟨frame, hadds, by rw [(hnew frame hadds).1, heq]⟩

theorem Accounts.removed_step
    (haccounts : Accounts maxCachedKeys operations (operations.foldl step (create maxCachedKeys)))
    (event : QIXKeyStore × Operation)
    (hin : event ∈ (create maxCachedKeys).history (operations ++ [operation])) (id : UInt64)
    (hremoved : event.1.Removed event.2 id) : ∃ key, Added (operations ++ [operation]) id key := by
  simp only [added_concat, exists_or]
  rw [history_concat, List.mem_append, List.mem_singleton] at hin
  rcases hin with hin | rfl
  · exact .inl (haccounts.removed event hin id hremoved)
  · rcases hremoved.held_or_added haccounts.sound with hid | ⟨frame, hadds, heq⟩
    · exact .inl (haccounts.added_of_mem hid)
    · exact .inr ⟨frame.keyData, frame, hadds, heq, rfl⟩

theorem Accounts.once_step
    (haccounts : Accounts maxCachedKeys operations (operations.foldl step (create maxCachedKeys)))
    (operation : Operation) :
    (((create maxCachedKeys).handedOut (operations ++ [operation])).map Prod.fst).Nodup := by
  rw [handedOut_concat, List.map_append]
  cases hhands : (operations.foldl step (create maxCachedKeys)).handsOut operation with
  | none => simpa using haccounts.once
  | some pair =>
      refine List.nodup_append.mpr ⟨haccounts.once, List.nodup_singleton _, ?_⟩
      rintro id hid _ hpair rfl
      obtain ⟨before, hin, hbefore⟩ := List.mem_map.mp hid
      obtain ⟨event, hevent, hhanded⟩ := List.mem_filterMap.mp hin
      have heq : before.1 = pair.1 := hbefore.trans (List.mem_singleton.mp hpair)
      -- it was handed out before, and so it was not held any more
      refine (haccounts.handsOut_held hhands).2 event hevent (.inl ⟨before.2, ?_⟩)
      rw [hhanded, ← heq]

theorem Accounts.step
    (haccounts : Accounts maxCachedKeys operations (operations.foldl step (create maxCachedKeys)))
    (harrivals : Arrivals (operations ++ [operation])) :
    Accounts maxCachedKeys (operations ++ [operation])
      ((operations.foldl QIXKeyStore.step (create maxCachedKeys)).step operation) where
  capacity := by rw [maxCachedKeys_step, haccounts.capacity]
  bounded := by
    have hsize := size_step haccounts.sound operation (haccounts.not_mem_ids harrivals)
    rw [haccounts.capacity] at hsize
    exact hsize haccounts.bounded
  held := haccounts.held_step harrivals
  removed := haccounts.removed_step
  handed pair hin := by
    rw [handedOut_concat, List.mem_append] at hin
    refine added_concat.mpr (.inl ?_)
    rcases hin with hin | hin
    · exact haccounts.handed pair hin
    · exact (haccounts.handsOut_held (Option.mem_toList.mp hin)).1
  once := haccounts.once_step operation

theorem accounts_run (maxCachedKeys : UInt16) (operations : List Operation)
    (harrivals : Arrivals operations) :
    Accounts maxCachedKeys operations (operations.foldl step (create maxCachedKeys)) := by
  induction operations using List.reverseRecOn with
  | nil => exact accounts_create maxCachedKeys
  | append_singleton operations operation ih =>
      rw [List.foldl_append]
      exact (ih harrivals.front).step harrivals

/-- `find_and_consume_key` finds what is held. -/
theorem Accounts.find_iff (haccounts : Accounts maxCachedKeys operations store) :
    (store.findAndConsumeKey id).1 = some key ↔
      Added operations id key ∧
        ∀ event ∈ (create maxCachedKeys).history operations, ¬ event.1.Removed event.2 id := by
  have hfind : (store.findAndConsumeKey id).1 = some key ↔
      (id, ⟨id, some key⟩) ∈ store.keyMap.entries := by
    rw [findAndConsumeKey, ← OrderedMap.find?_eq_some_iff]
    cases hrecord : store.keyMap.find? id with
    | none => simp
    | some record =>
        obtain ⟨found, rfl⟩ := haccounts.sound _ _ (OrderedMap.find?_eq_some_iff.mp hrecord)
        simp
  rw [hfind, haccounts.held]
  simp

/-- `consume_key` takes the key with the largest identifier. -/
theorem Accounts.consume_largest (haccounts : Accounts maxCachedKeys operations store)
    (hconsume : store.consumeKey.1 = some record) :
    (∃ key, record.key = some key ∧ Added operations record.id key) ∧
      record.id ∈ store.ids ∧ ∀ other ∈ store.ids, other ≤ record.id := by
  obtain ⟨id, hin, hlargest, -⟩ := consumeKey_eq_some (Prod.ext hconsume rfl)
  obtain ⟨⟨key, hadded, rfl⟩, -⟩ := (haccounts.held id record).mp hin
  exact ⟨⟨key, rfl, hadded⟩, OrderedMap.mem_keys.mpr ⟨_, hin⟩, hlargest⟩

theorem consumeKey_eq_none_iff : store.consumeKey.1 = none ↔ store.ids = [] := by
  rw [ids, ← OrderedMap.last?_eq_none_iff, consumeKey]
  cases store.keyMap.last? <;> simp

end Run

/-- The key store is bounded, and hands out every key once. -/
theorem single_use (maxCachedKeys : UInt16) (operations : List Operation)
    (harrivals : Arrivals operations) :
    let initial := create maxCachedKeys
    let store := operations.foldl step initial
    store.keyMap.size ≤ maxCachedKeys.toNat ∧
      (∀ pair ∈ initial.handedOut operations, Added operations pair.1 pair.2) ∧
      ((initial.handedOut operations).map Prod.fst).Nodup ∧
      (store.consumeKey.1 = none ↔ store.ids = []) ∧
      (∀ record, store.consumeKey.1 = some record →
        (∃ key, record.key = some key ∧ Added operations record.id key) ∧
          record.id ∈ store.ids ∧ ∀ other ∈ store.ids, other ≤ record.id) ∧
      ∀ id key, (store.findAndConsumeKey id).1 = some key ↔
        Added operations id key ∧
          ∀ event ∈ initial.history operations,
            ¬ event.1.Consumed event.2 id ∧ ¬ event.1.Evicted event.2 id ∧
              ¬ event.1.Cleared event.2 id := by
  have haccounts := accounts_run maxCachedKeys operations harrivals
  refine ⟨haccounts.bounded, haccounts.handed, haccounts.once, consumeKey_eq_none_iff,
    fun record => haccounts.consume_largest, fun id key => ?_⟩
  rw [haccounts.find_iff]
  simp only [Removed, not_or]

namespace TwoKeys

def frame (keyId : UInt64) : QIXFrame := ⟨keyId, List.replicate 32 keyId.toUInt8, .ok⟩

/-- The third key pushes the first out, the newest is taken, and the last key clears the store. -/
def operations : List Operation :=
  [.addKey (frame 3), .addKey (frame 4), .addKey (frame 5), .consumeKey, .addKey (frame 2)]

theorem single_use_sample :
    (operations.foldl step (create 2)).ids = [2] ∧
      (create 2).handedOut operations = [(5, List.replicate 32 5)] ∧
      ((operations.foldl step (create 2)).findAndConsumeKey 2).1 = some (List.replicate 32 2) ∧
      Added operations 2 (List.replicate 32 2) := by
  have hfind : ((operations.foldl step (create 2)).findAndConsumeKey 2).1 =
      some (List.replicate 32 2) := by decide +kernel
  have harrivals : Arrivals operations := ⟨by simp [operations, frame, Consts.symmetricKeyLength],
    by decide⟩
  obtain ⟨-, -, -, -, -, hiff⟩ := single_use 2 operations harrivals
  exact ⟨by decide +kernel, by decide +kernel, hfind, ((hiff 2 _).mp hfind).1⟩

end TwoKeys

end QIXKeyStore

end Ssp21

import OpenClaw.Lib.OrderedMap
import OpenClaw.Runtime.Text
import OpenClaw.Runtime.Number
import OpenClaw.Runtime.Object

/-!
# Conversation operations

The envelope of an operation, the normal form every function of the graph works
on (`normalizeCrdtOp`, `dedupeCrdtOps`), and the order `compareCrdtOpOrder` by
`hlc`, author, sequence number and id.

`String.prototype.localeCompare` belongs to the host, so it is a parameter; that
it is a total order which separates different strings is all the results assume.

A log is read through `dedupeCrdtOps`: an operation without an id is not in it,
and of several with one id the first is.  For logs in which an id determines its
operation (`IdsDetermine`) the deduplicated log is a set that only depends on
the set of operations, which is `mem_dedupe_iff`.
-/

namespace OpenClaw.Crdt

open OpenClaw.Runtime

inductive CrdtOpKind
  | conversationCreate
  | memberAdd
  | memberRemove
  | deviceTrustAdd
  | deviceTrustRemove
  | channelRevoke
  | messageCreate
  | messageEdit
  | messageDelete
  | reactionAdd
  | reactionRemove
  | readCursor
deriving DecidableEq, Inhabited

structure CrdtOpEnvelope where
  opId : String
  conversationId : String
  authorDeviceId : String
  authorEntityType : String
  authorSeq : JsNumber
  hlc : String
  parents : List String
  kind : CrdtOpKind
  payload : PlainObject Json
  signedAt : JsNumber
  signature : String
deriving Inhabited

/-- `normalizeCrdtId` of a string. -/
def normalizeCrdtId (value : String) : String := jsTrim value

/-- `normalizeCrdtId` of a value that need not be a string. -/
def normalizeJsonId : Option Json → String
  | some (.str value) => normalizeCrdtId value
  | _ => ""

/-- The distinct ids that are not blank, trimmed, in the order of their first
occurrence. -/
def normalizeCrdtParents (values : List String) : List String :=
  OrderedSet.ofList ((values.map normalizeCrdtId).filter fun value => decide (value ≠ ""))

/-- The record `dedupeCrdtOps` stores for an operation. -/
def normalizeCrdtOp (op : CrdtOpEnvelope) : CrdtOpEnvelope :=
  { op with
    opId := normalizeCrdtId op.opId
    conversationId := normalizeCrdtId op.conversationId
    authorDeviceId := normalizeCrdtId op.authorDeviceId
    authorEntityType := normalizeCrdtId op.authorEntityType
    authorSeq := .ofCount op.authorSeq.count
    parents := normalizeCrdtParents op.parents
    signedAt := .ofCount op.signedAt.count
    signature := normalizeCrdtId op.signature }

/-- The key of an operation in `byId`: its id, unless that is blank. -/
def dedupeKey (op : CrdtOpEnvelope) : Option String :=
  if normalizeCrdtId op.opId = "" then none else some (normalizeCrdtId op.opId)

def dedupeCrdtOps (ops : List CrdtOpEnvelope) : List CrdtOpEnvelope :=
  (OrderedMap.collectFirst dedupeKey normalizeCrdtOp ops).values

/-- The message operation `seq` of `author`, as the concrete logs of this
development use it. -/
def messageOp (opId author : String) (seq : ℕ) (hlc : String) (parents : List String) :
    CrdtOpEnvelope :=
  { opId, conversationId := "conv", authorDeviceId := author, authorEntityType := "mobile"
    authorSeq := .ofCount seq, hlc, parents, kind := .messageCreate
    payload := .ofList [("messageId", .str opId)], signedAt := .ofCount 1, signature := "sig" }

/-- An id determines its operation, up to normalization. -/
def IdsDetermine (ops : List CrdtOpEnvelope) : Prop :=
  ∀ a ∈ ops, ∀ b ∈ ops, normalizeCrdtId a.opId = normalizeCrdtId b.opId →
    normalizeCrdtOp a = normalizeCrdtOp b

theorem idsDetermine_of_nodup {ops : List CrdtOpEnvelope}
    (hnodup : (ops.map fun op => normalizeCrdtId op.opId).Nodup) : IdsDetermine ops := by
  intro a ha b hb hid
  rw [List.inj_on_of_nodup_map hnodup ha hb hid]

/-! ## Normal forms -/

@[simp] theorem normalizeCrdtId_idem (value : String) :
    normalizeCrdtId (normalizeCrdtId value) = normalizeCrdtId value := trim_trim value

theorem mem_normalizeCrdtParents {values : List String} {p : String} :
    p ∈ normalizeCrdtParents values ↔ p ≠ "" ∧ ∃ value ∈ values, normalizeCrdtId value = p := by
  simp only [normalizeCrdtParents, OrderedSet.mem_ofList, List.mem_filter, List.mem_map,
    decide_eq_true_eq]
  tauto

theorem nodup_normalizeCrdtParents (values : List String) : (normalizeCrdtParents values).Nodup :=
  OrderedSet.nodup_ofList _

@[simp] theorem normalizeCrdtParents_idem (values : List String) :
    normalizeCrdtParents (normalizeCrdtParents values) = normalizeCrdtParents values :=
  ofList_trimmed_idem values

@[simp] theorem normalizeCrdtOp_idem (op : CrdtOpEnvelope) :
    normalizeCrdtOp (normalizeCrdtOp op) = normalizeCrdtOp op := by
  simp [normalizeCrdtOp]

@[simp] theorem normalizeCrdtOp_opId (op : CrdtOpEnvelope) :
    (normalizeCrdtOp op).opId = normalizeCrdtId op.opId := rfl

@[simp] theorem normalizeCrdtOp_author (op : CrdtOpEnvelope) :
    (normalizeCrdtOp op).authorDeviceId = normalizeCrdtId op.authorDeviceId := rfl

@[simp] theorem normalizeCrdtOp_seq (op : CrdtOpEnvelope) :
    (normalizeCrdtOp op).authorSeq.count = op.authorSeq.count := by
  simp [normalizeCrdtOp]

/-- The operation is in the form `dedupeCrdtOps` leaves. -/
def Normal (op : CrdtOpEnvelope) : Prop := normalizeCrdtOp op = op ∧ op.opId ≠ ""

namespace Normal

variable {op : CrdtOpEnvelope}

theorem opId (h : Normal op) : normalizeCrdtId op.opId = op.opId :=
  congrArg CrdtOpEnvelope.opId h.1

theorem author (h : Normal op) : normalizeCrdtId op.authorDeviceId = op.authorDeviceId :=
  congrArg CrdtOpEnvelope.authorDeviceId h.1

end Normal

/-! ## The deduplicated log -/

theorem dedupeKey_eq_some_iff {op : CrdtOpEnvelope} {opId : String} :
    dedupeKey op = some opId ↔ opId ≠ "" ∧ normalizeCrdtId op.opId = opId := by
  unfold dedupeKey
  split
  · next hempty => simp [hempty, eq_comm]
  · next hne => simpa using fun heq => heq ▸ hne

/-- An operation of the deduplicated log is the normal form of the first
operation with its id. -/
theorem mem_dedupe_iff_find? {ops : List CrdtOpEnvelope} {op : CrdtOpEnvelope} :
    op ∈ dedupeCrdtOps ops ↔ op.opId ≠ "" ∧ ∃ first,
      (ops.find? fun other => decide (dedupeKey other = some op.opId)) = some first ∧
        normalizeCrdtOp first = op := by
  unfold dedupeCrdtOps
  simp only [OrderedMap.mem_values_iff, OrderedMap.get_collectFirst, Option.map_eq_some_iff]
  constructor
  · rintro ⟨key, first, hfind, rfl⟩
    have hfound := List.find?_some hfind
    obtain ⟨hkey, rfl⟩ := dedupeKey_eq_some_iff.mp (of_decide_eq_true hfound)
    exact ⟨hkey, first, hfind, rfl⟩
  · rintro ⟨-, first, hfind, rfl⟩
    exact ⟨_, first, hfind, rfl⟩

theorem normal_of_mem_dedupe {ops : List CrdtOpEnvelope} {op : CrdtOpEnvelope}
    (hop : op ∈ dedupeCrdtOps ops) : Normal op := by
  obtain ⟨hopId, first, -, rfl⟩ := mem_dedupe_iff_find?.mp hop
  exact ⟨normalizeCrdtOp_idem first, hopId⟩

/-- In the deduplicated log an id names one operation. -/
theorem eq_of_mem_dedupe_of_opId {ops : List CrdtOpEnvelope} {a b : CrdtOpEnvelope}
    (ha : a ∈ dedupeCrdtOps ops) (hb : b ∈ dedupeCrdtOps ops) (heq : a.opId = b.opId) : a = b := by
  obtain ⟨-, first, hfirst, rfl⟩ := mem_dedupe_iff_find?.mp ha
  obtain ⟨-, second, hsecond, rfl⟩ := mem_dedupe_iff_find?.mp hb
  rw [heq, hsecond] at hfirst
  rw [Option.some.inj hfirst]

theorem nodup_opIds_dedupe (ops : List CrdtOpEnvelope) :
    ((dedupeCrdtOps ops).map CrdtOpEnvelope.opId).Nodup := by
  unfold dedupeCrdtOps
  have hread : ∀ op opId, dedupeKey op = some opId → (normalizeCrdtOp op).opId = opId :=
    fun op opId hkey => (dedupeKey_eq_some_iff.mp hkey).2
  rw [OrderedMap.map_values_collectFirst hread]
  exact OrderedMap.nodup_keys _

theorem nodup_dedupe (ops : List CrdtOpEnvelope) : (dedupeCrdtOps ops).Nodup :=
  List.Nodup.of_map _ (nodup_opIds_dedupe ops)

/-- **The log as a set.**  When ids determine operations, the deduplicated log
holds the normal form of every operation that has an id. -/
theorem mem_dedupe_iff {ops : List CrdtOpEnvelope} (hids : IdsDetermine ops)
    {op : CrdtOpEnvelope} :
    op ∈ dedupeCrdtOps ops ↔ op.opId ≠ "" ∧ ∃ raw ∈ ops, normalizeCrdtOp raw = op := by
  rw [mem_dedupe_iff_find?]
  refine and_congr_right fun hopId => ?_
  constructor
  · rintro ⟨first, hfind, heq⟩
    exact ⟨first, List.mem_of_find?_eq_some hfind, heq⟩
  · rintro ⟨raw, hraw, rfl⟩
    have hkey : dedupeKey raw = some (normalizeCrdtOp raw).opId :=
      dedupeKey_eq_some_iff.mpr ⟨hopId, rfl⟩
    cases hfind : ops.find? fun other =>
        decide (dedupeKey other = some (normalizeCrdtOp raw).opId) with
    | none => exact absurd (decide_eq_true hkey) (List.find?_eq_none.mp hfind raw hraw)
    | some first =>
        have hfound := List.find?_some hfind
        have hid := (dedupeKey_eq_some_iff.mp (of_decide_eq_true hfound)).2
        exact ⟨first, rfl, hids first (List.mem_of_find?_eq_some hfind) raw hraw hid⟩

/-- Logs with the same operations have the same deduplicated operations. -/
theorem mem_dedupe_congr {left right : List CrdtOpEnvelope} (hids : IdsDetermine left)
    (hsame : ∀ op, op ∈ left ↔ op ∈ right) (op : CrdtOpEnvelope) :
    op ∈ dedupeCrdtOps left ↔ op ∈ dedupeCrdtOps right := by
  have hids_right : IdsDetermine right := fun a ha b hb =>
    hids a ((hsame a).mpr ha) b ((hsame b).mpr hb)
  rw [mem_dedupe_iff hids, mem_dedupe_iff hids_right]
  simp only [hsame]

/-! ## The order of operations -/

variable (localeCompare : String → String → Ordering)

def compareCrdtOpOrder (left right : CrdtOpEnvelope) : Ordering :=
  if left.hlc ≠ right.hlc then localeCompare left.hlc right.hlc
  else if left.authorDeviceId ≠ right.authorDeviceId then
    localeCompare left.authorDeviceId right.authorDeviceId
  else if left.authorSeq.count ≠ right.authorSeq.count then
    compare left.authorSeq.count right.authorSeq.count
  else localeCompare left.opId right.opId

variable {localeCompare} [Std.LawfulEqCmp localeCompare]

theorem compareCrdtOpOrder_eq :
    compareCrdtOpOrder localeCompare =
      compareLex (fun left right => localeCompare left.hlc right.hlc)
        (compareLex (fun left right => localeCompare left.authorDeviceId right.authorDeviceId)
          (compareLex (fun left right => compare left.authorSeq.count right.authorSeq.count)
            fun left right => localeCompare left.opId right.opId)) := by
  have hthen : ∀ {α : Type} (cmp : α → α → Ordering) [Std.LawfulEqCmp cmp] [DecidableEq α]
      (a b : α) (next : Ordering),
      (if a ≠ b then cmp a b else next) = (cmp a b).then next := by
    intro α cmp _ _ a b next
    split
    · next hne =>
        cases hcmp : cmp a b with
        | eq => exact absurd (Std.LawfulEqCmp.eq_of_compare hcmp) hne
        | lt => rfl
        | gt => rfl
    · next heq =>
        obtain rfl := not_not.mp heq
        have hself : cmp a a = .eq := Std.ReflCmp.compare_self
        rw [hself]
        rfl
  funext left right
  unfold compareCrdtOpOrder
  simp only [hthen localeCompare, hthen (compare : ℕ∞ → ℕ∞ → Ordering), compareLex]

private instance transCmp_on [Std.TransCmp localeCompare] {α : Type} (f : α → String) :
    Std.TransCmp fun left right => localeCompare (f left) (f right) :=
  StableSort.transCmp_pullback localeCompare f

private instance transCmp_seq :
    Std.TransCmp fun left right : CrdtOpEnvelope =>
      compare left.authorSeq.count right.authorSeq.count :=
  StableSort.transCmp_pullback (compare : ℕ∞ → ℕ∞ → Ordering) fun op : CrdtOpEnvelope =>
    op.authorSeq.count

instance transCmp_compareCrdtOpOrder [Std.TransCmp localeCompare] :
    Std.TransCmp (compareCrdtOpOrder localeCompare) := by
  rw [compareCrdtOpOrder_eq]
  infer_instance

/-- Operations that compare equal have the same id. -/
theorem opId_eq_of_compare_eq {left right : CrdtOpEnvelope}
    (heq : compareCrdtOpOrder localeCompare left right = .eq) : left.opId = right.opId := by
  rw [compareCrdtOpOrder_eq] at heq
  simp only [compareLex, Ordering.then_eq_eq] at heq
  exact Std.LawfulEqCmp.eq_of_compare heq.2.2.2

end OpenClaw.Crdt

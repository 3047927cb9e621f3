import OpenClaw.Crdt.Convergence

/-!
# Anti-entropy

A replica asks from its contiguous version vector, the other one answers with
the operations above it, and the answer is appended to the log.

Without a limit one exchange in each direction makes the logs equal
(`exchange_converges`): an operation that is not above the vector is one of the
`1 … n` the requester holds, and a number identifies it.  With a limit the
answer is a prefix, and it can consist of operations the requester holds beyond
its gaps; `limited_progress_iff` says exactly when it does not.
-/

namespace OpenClaw.Crdt

open OpenClaw.Runtime StableSort

/-- The operations can be those of one conversation: the id identifies the
operation, and so do its author and number; and every operation is numbered. -/
structure OneConversation (ops : List CrdtOpEnvelope) : Prop where
  opIds : IdsDetermine ops
  authorSeqs : ∀ a ∈ ops, ∀ b ∈ ops,
    normalizeCrdtId a.authorDeviceId = normalizeCrdtId b.authorDeviceId →
      a.authorSeq.count = b.authorSeq.count → normalizeCrdtOp a = normalizeCrdtOp b
  numbered : ∀ op ∈ ops, 1 ≤ op.authorSeq.count

/-- No author is named like a member of `Object.prototype`. -/
def OrdinaryAuthors (ops : List CrdtOpEnvelope) : Prop :=
  ∀ op ∈ ops, normalizeCrdtId op.authorDeviceId ∉ inheritedNames

variable {localeCompare : String → String → Ordering}
  {requester responder ops selected : List CrdtOpEnvelope} {op : CrdtOpEnvelope}

/-! ## What is asked for -/

/-- An operation is selected against a contiguous vector when its author can be
read there and it is numbered above the author's cursor. -/
theorem wanted_iff (hop : Normal op) :
    wanted (normalizeCrdtVersionVector
        (analyzeCrdtOps localeCompare requester).versionVector) op = true ↔
      Readable (dedupeCrdtOps requester) op.authorDeviceId ∧
        (cursor (dedupeCrdtOps requester) op.authorDeviceId : ℕ∞) < op.authorSeq.count := by
  change JsNumber.lt (PlainObject.numberOrZero (normalizeCrdtVersionVector
    (buildContiguousVersionVector (dedupeCrdtOps requester))) (normalizeCrdtId op.authorDeviceId))
      (.ofCount op.authorSeq.count) = true ↔ _
  rw [numberOrZero_congr (normalize_contiguous _), numberOrZero_contiguous, hop.author]
  by_cases hreadable : Readable (dedupeCrdtOps requester) op.authorDeviceId
  · simp [hreadable]
  · simp [hreadable]

/-- An operation the requester lacks is numbered above its cursor. -/
theorem cursor_lt_of_not_mem (hone : OneConversation (requester ++ responder))
    (hop : op ∈ dedupeCrdtOps responder) (hlacks : op ∉ dedupeCrdtOps requester) :
    (cursor (dedupeCrdtOps requester) op.authorDeviceId : ℕ∞) < op.authorSeq.count := by
  have hids_requester : IdsDetermine requester := fun a ha b hb =>
    hone.opIds a (List.mem_append_left _ ha) b (List.mem_append_left _ hb)
  have hids_responder : IdsDetermine responder := fun a ha b hb =>
    hone.opIds a (List.mem_append_right _ ha) b (List.mem_append_right _ hb)
  obtain ⟨hopId, raw, hraw, rfl⟩ := (mem_dedupe_iff hids_responder).mp hop
  by_cases hauthor : (normalizeCrdtOp raw).authorDeviceId = ""
  · rw [hauthor, cursor_empty, normalizeCrdtOp_seq, Nat.cast_zero]
    exact zero_lt_one.trans_le (hone.numbered raw (List.mem_append_right _ hraw))
  · by_contra hle
    rw [not_lt] at hle
    obtain ⟨n, hn⟩ := ENat.ne_top_iff_exists.mp (ne_top_of_le_ne_top (ENat.natCast_ne_top _) hle)
    rw [← hn, Nat.cast_le] at hle
    have hpos : 1 ≤ n := by
      have hnumbered := hone.numbered raw (List.mem_append_right _ hraw)
      rw [← normalizeCrdtOp_seq, ← hn] at hnumbered
      exact_mod_cast hnumbered
    -- The requester holds the author's number `n`, and that is this operation.
    obtain ⟨held, hheld, hcounts, hseq⟩ := (le_cursor_iff hauthor).mp hle n hpos le_rfl
    obtain ⟨-, heldRaw, hheldRaw, rfl⟩ := (mem_dedupe_iff hids_requester).mp hheld
    refine hlacks ?_
    have hsame : normalizeCrdtOp heldRaw = normalizeCrdtOp raw := by
      refine hone.authorSeqs heldRaw (List.mem_append_left _ hheldRaw) raw
        (List.mem_append_right _ hraw) ?_ ?_
      · simpa using hcounts.1
      · rw [← normalizeCrdtOp_seq, hseq, hn, normalizeCrdtOp_seq]
    exact hsame ▸ hheld

/-! ## Merging an answer -/

/-- The operations of `fewer` are, up to normalization, operations of `more`. -/
def Within (fewer more : List CrdtOpEnvelope) : Prop :=
  ∀ op ∈ fewer, ∃ raw ∈ more, normalizeCrdtOp raw = normalizeCrdtOp op

theorem oneConversation_of_nodup
    (hids : (ops.map fun op => normalizeCrdtId op.opId).Nodup)
    (hseqs : (ops.map fun op =>
      (normalizeCrdtId op.authorDeviceId, op.authorSeq.count)).Nodup)
    (hnumbered : ∀ op ∈ ops, 1 ≤ op.authorSeq.count) : OneConversation ops where
  opIds := idsDetermine_of_nodup hids
  authorSeqs a ha b hb hauthor hseq := by
    rw [List.inj_on_of_nodup_map hseqs ha hb (Prod.ext hauthor hseq)]
  numbered := hnumbered

theorem OneConversation.mono (hone : OneConversation ops) {fewer : List CrdtOpEnvelope}
    (hwithin : Within fewer ops) : OneConversation fewer where
  opIds a ha b hb hid := by
    obtain ⟨rawA, hrawA, heqA⟩ := hwithin a ha
    obtain ⟨rawB, hrawB, heqB⟩ := hwithin b hb
    rw [← heqA, ← heqB]
    refine hone.opIds rawA hrawA rawB hrawB ?_
    rw [← normalizeCrdtOp_opId, heqA, ← normalizeCrdtOp_opId rawB, heqB]
    exact hid
  authorSeqs a ha b hb hauthor hseq := by
    obtain ⟨rawA, hrawA, heqA⟩ := hwithin a ha
    obtain ⟨rawB, hrawB, heqB⟩ := hwithin b hb
    rw [← heqA, ← heqB]
    refine hone.authorSeqs rawA hrawA rawB hrawB ?_ ?_
    · rw [← normalizeCrdtOp_author, heqA, ← normalizeCrdtOp_author rawB, heqB]
      exact hauthor
    · rw [← normalizeCrdtOp_seq, heqA, ← normalizeCrdtOp_seq rawB, heqB, normalizeCrdtOp_seq,
        normalizeCrdtOp_seq, hseq]
  numbered a ha := by
    obtain ⟨rawA, hrawA, heqA⟩ := hwithin a ha
    rw [← normalizeCrdtOp_seq, ← heqA, normalizeCrdtOp_seq]
    exact hone.numbered rawA hrawA

theorem OrdinaryAuthors.mono (hordinary : OrdinaryAuthors ops) {fewer : List CrdtOpEnvelope}
    (hwithin : Within fewer ops) : OrdinaryAuthors fewer := by
  intro a ha
  obtain ⟨rawA, hrawA, heqA⟩ := hwithin a ha
  rw [← normalizeCrdtOp_author, ← heqA, normalizeCrdtOp_author]
  exact hordinary rawA hrawA

/-- Operations taken from a deduplicated log are operations of the log. -/
theorem within_of_subset_dedupe (hsub : ∀ op ∈ selected, op ∈ dedupeCrdtOps ops) :
    Within selected ops := by
  intro op hop
  obtain ⟨-, raw, hfind, rfl⟩ := mem_dedupe_iff_find?.mp (hsub op hop)
  exact ⟨raw, List.mem_of_find?_eq_some hfind, (normalizeCrdtOp_idem raw).symm⟩

theorem within_append {left right : List CrdtOpEnvelope} (hleft : Within left ops)
    (hright : Within right ops) : Within (left ++ right) ops := by
  intro op hop
  rcases List.mem_append.mp hop with hop | hop
  · exact hleft op hop
  · exact hright op hop

theorem within_append_left (left right : List CrdtOpEnvelope) : Within left (left ++ right) :=
  fun op hop => ⟨op, List.mem_append_left _ hop, rfl⟩

theorem within_append_right (left right : List CrdtOpEnvelope) : Within right (left ++ right) :=
  fun op hop => ⟨op, List.mem_append_right _ hop, rfl⟩

theorem Within.trans {fewer middle more : List CrdtOpEnvelope} (hfewer : Within fewer middle)
    (hmore : Within middle more) : Within fewer more := by
  intro op hop
  obtain ⟨raw, hraw, heq⟩ := hfewer op hop
  obtain ⟨other, hother, heq'⟩ := hmore raw hraw
  exact ⟨other, hother, heq'.trans heq⟩

/-- Merging operations of another log adds them to the set. -/
theorem mem_dedupe_merge (hids : IdsDetermine (requester ++ selected))
    (hsub : ∀ op ∈ selected, op ∈ dedupeCrdtOps responder) :
    op ∈ dedupeCrdtOps (requester ++ selected) ↔
      op ∈ dedupeCrdtOps requester ∨ op ∈ selected := by
  have hids_requester : IdsDetermine requester := fun a ha b hb =>
    hids a (List.mem_append_left _ ha) b (List.mem_append_left _ hb)
  rw [mem_dedupe_iff hids, mem_dedupe_iff hids_requester]
  constructor
  · rintro ⟨hopId, raw, hraw, rfl⟩
    rcases List.mem_append.mp hraw with hraw | hraw
    · exact Or.inl ⟨hopId, raw, hraw, rfl⟩
    · exact Or.inr ((normal_of_mem_dedupe (hsub raw hraw)).1.symm ▸ hraw)
  · rintro (⟨hopId, raw, hraw, rfl⟩ | hop)
    · exact ⟨hopId, raw, List.mem_append_left _ hraw, rfl⟩
    · have hnormal := normal_of_mem_dedupe (hsub op hop)
      exact ⟨hnormal.2, op, List.mem_append_right _ hop, hnormal.1⟩

/-! ## One exchange -/

theorem mem_select {wantFrom : CrdtVersionVector} :
    op ∈ selectCrdtOpsForSync localeCompare responder wantFrom none ↔
      op ∈ dedupeCrdtOps responder ∧ wanted (normalizeCrdtVersionVector wantFrom) op = true := by
  unfold selectCrdtOpsForSync
  rw [List.mem_filter, mem_orderedOps]

/-- The log of `requester` after it has merged what `responder` answers to its
version vector. -/
def afterSync (localeCompare : String → String → Ordering)
    (requester responder : List CrdtOpEnvelope) : List CrdtOpEnvelope :=
  requester ++ selectCrdtOpsForSync localeCompare responder
    (analyzeCrdtOps localeCompare requester).versionVector none

theorem within_afterSync : Within (afterSync localeCompare requester responder)
    (requester ++ responder) :=
  within_append (within_append_left _ _)
    ((within_of_subset_dedupe fun _ hop => (mem_select.mp hop).1).trans (within_append_right _ _))

/-- After the exchange the requester's log is the union of both. -/
theorem mem_dedupe_afterSync (hone : OneConversation (requester ++ responder))
    (hordinary : OrdinaryAuthors (requester ++ responder)) :
    op ∈ dedupeCrdtOps (afterSync localeCompare requester responder) ↔
      op ∈ dedupeCrdtOps requester ∨ op ∈ dedupeCrdtOps responder := by
  have hids : IdsDetermine (afterSync localeCompare requester responder) :=
    (hone.mono within_afterSync).opIds
  unfold afterSync at hids ⊢
  rw [mem_dedupe_merge hids fun _ hop => (mem_select.mp hop).1, mem_select]
  constructor
  · rintro (hop | ⟨hop, -⟩)
    · exact Or.inl hop
    · exact Or.inr hop
  · rintro (hop | hop)
    · exact Or.inl hop
    · by_cases hhas : op ∈ dedupeCrdtOps requester
      · exact Or.inl hhas
      · have hreadable : Readable (dedupeCrdtOps requester) op.authorDeviceId := by
          obtain ⟨-, raw, hfind, rfl⟩ := mem_dedupe_iff_find?.mp hop
          exact Or.inl (hordinary raw (List.mem_append_right _ (List.mem_of_find?_eq_some hfind)))
        exact Or.inr ⟨hop, (wanted_iff (normal_of_mem_dedupe hop)).mpr
          ⟨hreadable, cursor_lt_of_not_mem hone hop hhas⟩⟩

section Exchange

variable [Std.TransCmp localeCompare] [Std.LawfulEqCmp localeCompare]

/-- **One exchange in each direction.**  The requester then holds everything the
responder had; and whether the responder asks with the requester's old log or
its new one, both end with the same operations, order, frontier and version
vector. -/
theorem exchange_converges (hone : OneConversation (requester ++ responder))
    (hordinary : OrdinaryAuthors (requester ++ responder)) :
    (∀ op ∈ dedupeCrdtOps responder,
        op ∈ dedupeCrdtOps (afterSync localeCompare requester responder)) ∧
      ∀ other, other = requester ∨ other = afterSync localeCompare requester responder →
        SameLog (afterSync localeCompare requester responder)
            (afterSync localeCompare responder other) ∧
          (analyzeCrdtOps localeCompare (afterSync localeCompare requester responder)).orderedOps =
            (analyzeCrdtOps localeCompare (afterSync localeCompare responder other)).orderedOps ∧
          (analyzeCrdtOps localeCompare (afterSync localeCompare requester responder)).leafOpIds =
            (analyzeCrdtOps localeCompare (afterSync localeCompare responder other)).leafOpIds ∧
          (analyzeCrdtOps localeCompare
              (afterSync localeCompare requester responder)).versionVector.Same
            (analyzeCrdtOps localeCompare
              (afterSync localeCompare responder other)).versionVector := by
  refine ⟨fun op hop => (mem_dedupe_afterSync hone hordinary).mpr (Or.inr hop), ?_⟩
  intro other hother
  have hwithin : Within (responder ++ other) (requester ++ responder) := by
    refine within_append (within_append_right _ _) ?_
    rcases hother with rfl | rfl
    · exact within_append_left _ _
    · exact within_afterSync
  have hother_iff : ∀ op, op ∈ dedupeCrdtOps responder ∨ op ∈ dedupeCrdtOps other ↔
      op ∈ dedupeCrdtOps requester ∨ op ∈ dedupeCrdtOps responder := by
    intro op
    rcases hother with rfl | rfl
    · exact or_comm
    · rw [mem_dedupe_afterSync hone hordinary]
      tauto
  have hlog : SameLog (afterSync localeCompare requester responder)
      (afterSync localeCompare responder other) := by
    intro op
    rw [mem_dedupe_afterSync hone hordinary,
      mem_dedupe_afterSync (hone.mono hwithin) (hordinary.mono hwithin), hother_iff]
  exact ⟨hlog, orderedOps_eq_of_sameLog hlog, leafOpIds_eq_of_sameLog hlog,
    versionVector_same_of_sameLog hlog⟩

end Exchange

/-- Two devices that each wrote one message. -/
theorem exchange_converges_two_devices :
    (analyzeCrdtOps compare (afterSync compare [messageOp "a" "devA" 1 "t1" []]
        [messageOp "b" "devB" 1 "t2" []])).orderedOps =
      (analyzeCrdtOps compare (afterSync compare [messageOp "b" "devB" 1 "t2" []]
        [messageOp "a" "devA" 1 "t1" []])).orderedOps := by
  refine ((exchange_converges (oneConversation_of_nodup (by decide) (by decide) (by decide))
    ?_).2 _ (Or.inl rfl)).2.1
  unfold OrdinaryAuthors
  decide

/-! ## A limited answer -/

/-- A prefix of the filtered list reaches a marked element exactly if fewer
unmarked ones than its length come before some marked one. -/
theorem exists_mem_take_filter_iff {α : Type} {keep marked : α → Bool} {list : List α} {n : ℕ} :
    (∃ a ∈ (list.filter keep).take n, marked a = true) ↔
      ∃ before a after, list = before ++ a :: after ∧ keep a = true ∧ marked a = true ∧
        (before.filter fun b => keep b && !marked b).length < n := by
  induction list generalizing n with
  | nil => simp
  | cons first rest ih =>
      have hsplit : ∀ {bound : List α → Prop},
          (∃ before a after, first :: rest = before ++ a :: after ∧ keep a = true ∧
              marked a = true ∧ bound before) ↔
            (keep first = true ∧ marked first = true ∧ bound []) ∨
              ∃ before a after, rest = before ++ a :: after ∧ keep a = true ∧ marked a = true ∧
                bound (first :: before) := by
        intro bound
        constructor
        · rintro ⟨before, a, after, hlist, hkeep, hmarked, hbound⟩
          cases before with
          | nil =>
              obtain ⟨rfl, -⟩ := List.cons.inj hlist
              exact Or.inl ⟨hkeep, hmarked, hbound⟩
          | cons b before =>
              obtain ⟨rfl, hrest⟩ := List.cons.inj hlist
              exact Or.inr ⟨before, a, after, hrest, hkeep, hmarked, hbound⟩
        · rintro (⟨hkeep, hmarked, hbound⟩ | ⟨before, a, after, rfl, hkeep, hmarked, hbound⟩)
          · exact ⟨[], first, rest, rfl, hkeep, hmarked, hbound⟩
          · exact ⟨first :: before, a, after, rfl, hkeep, hmarked, hbound⟩
      rw [hsplit]
      by_cases hkeep : keep first = true
      · by_cases hmarked : marked first = true
        · cases n with
          | zero => simp
          | succ n => simp [hkeep, hmarked]
        · cases n with
          | zero => simp
          | succ n =>
              rw [List.filter_cons_of_pos hkeep, List.take_succ_cons]
              simp only [List.mem_cons, exists_eq_or_imp, hmarked, false_or, ih, hkeep,
                false_and, and_false, Bool.false_eq_true, List.filter_cons, Bool.not_false,
                Bool.and_self, if_true, List.length_cons, Nat.add_lt_add_iff_right]
      · simp [hkeep, ih]

theorem sliceTo_subset {α : Type} {list : List α} {bound : ℕ∞} {a : α}
    (ha : a ∈ sliceTo list bound) : a ∈ list := by
  cases bound with
  | coe n => exact List.mem_of_mem_take ha
  | top => exact ha

theorem exists_mem_sliceTo_filter_iff {α : Type} {keep marked : α → Bool} {list : List α}
    {bound : ℕ∞} :
    (∃ a ∈ sliceTo (list.filter keep) bound, marked a = true) ↔
      ∃ before a after, list = before ++ a :: after ∧ keep a = true ∧ marked a = true ∧
        ((before.filter fun b => keep b && !marked b).length : ℕ∞) < bound := by
  cases bound with
  | coe n =>
      change (∃ a ∈ (list.filter keep).take n, marked a = true) ↔ _
      simp only [exists_mem_take_filter_iff, Nat.cast_lt]
  | top =>
      have hall : (list.filter keep).take (list.length + 1) = list.filter keep :=
        List.take_of_length_le ((List.length_filter_le _ _).trans (Nat.le_succ _))
      change (∃ a ∈ list.filter keep, marked a = true) ↔ _
      rw [← hall, exists_mem_take_filter_iff]
      constructor
      · rintro ⟨before, a, after, hlist, hkeep, hmarked, -⟩
        exact ⟨before, a, after, hlist, hkeep, hmarked, ENat.natCast_lt_top _⟩
      · rintro ⟨before, a, after, hlist, hkeep, hmarked, -⟩
        refine ⟨before, a, after, hlist, hkeep, hmarked, ?_⟩
        have hlength := List.length_filter_le (fun b => keep b && !marked b) before
        rw [hlist, List.length_append]
        omega

/-- The requester already holds the operation, above its cursor. -/
def stale (localeCompare : String → String → Ordering) (requester : List CrdtOpEnvelope)
    (op : CrdtOpEnvelope) : Bool :=
  isKnown (dedupeCrdtOps requester) op.opId &&
    wanted (normalizeCrdtVersionVector (analyzeCrdtOps localeCompare requester).versionVector) op

/-- Across one conversation, an operation is held when its id is known. -/
theorem isKnown_iff_mem (hone : OneConversation (requester ++ responder))
    (hop : op ∈ dedupeCrdtOps responder) :
    isKnown (dedupeCrdtOps requester) op.opId = true ↔ op ∈ dedupeCrdtOps requester := by
  rw [isKnown_iff]
  constructor
  · rintro ⟨held, hheld, hid⟩
    obtain ⟨-, heldRaw, hheldRaw, rfl⟩ := mem_dedupe_iff_find?.mp hheld
    obtain ⟨-, raw, hraw, rfl⟩ := mem_dedupe_iff_find?.mp hop
    have hsame := hone.opIds heldRaw (List.mem_append_left _ (List.mem_of_find?_eq_some hheldRaw))
      raw (List.mem_append_right _ (List.mem_of_find?_eq_some hraw)) hid
    exact hsame ▸ hheld
  · exact fun hheld => ⟨op, hheld, rfl⟩

/-- The requester lacks something, and the answer brings something it lacks. -/
def MakesProgress (localeCompare : String → String → Ordering)
    (requester responder : List CrdtOpEnvelope) (limit : JsNumber) : Prop :=
  (∃ op ∈ dedupeCrdtOps responder, op ∉ dedupeCrdtOps requester) →
    ∃ op ∈ selectCrdtOpsForSync localeCompare responder
        (analyzeCrdtOps localeCompare requester).versionVector (some limit),
      op ∉ dedupeCrdtOps requester

/-- **A limited answer makes progress** exactly if the responder has nothing
new, or some new operation whose author the requester's vector can name comes,
in the responder's order, after fewer than `limit` operations that the requester
holds above its cursors. -/
theorem limited_progress_iff (hone : OneConversation (requester ++ responder)) {limit : JsNumber}
    (hlimit : 1 ≤ limit.count) :
    MakesProgress localeCompare requester responder limit ↔
      (∀ op ∈ dedupeCrdtOps responder, op ∈ dedupeCrdtOps requester) ∨
        ∃ before op after,
          (analyzeCrdtOps localeCompare responder).orderedOps = before ++ op :: after ∧
            op ∉ dedupeCrdtOps requester ∧
            Readable (dedupeCrdtOps requester) op.authorDeviceId ∧
            ((before.filter (stale localeCompare requester)).length : ℕ∞) < limit.count := by
  set ordered := (analyzeCrdtOps localeCompare responder).orderedOps with hordered
  set want := normalizeCrdtVersionVector
    (analyzeCrdtOps localeCompare requester).versionVector with hwant
  have hlacks : ∀ op ∈ ordered, (!isKnown (dedupeCrdtOps requester) op.opId) = true ↔
      op ∉ dedupeCrdtOps requester := fun op hop => by
    rw [Bool.not_eq_true', ← Bool.not_eq_true, isKnown_iff_mem hone (mem_orderedOps.mp hop)]
  have hend : batchEnd limit = limit.count := by
    cases limit with
    | nan => simp [JsNumber.count] at hlimit
    | negInf => exact sup_eq_right.mpr hlimit
    | finite value => exact sup_eq_right.mpr hlimit
    | posInf => exact sup_eq_right.mpr hlimit
  have hbatch : (∃ op ∈ selectCrdtOpsForSync localeCompare responder
      (analyzeCrdtOps localeCompare requester).versionVector (some limit),
        op ∉ dedupeCrdtOps requester) ↔
      ∃ op ∈ sliceTo (ordered.filter (wanted want)) limit.count,
        (!isKnown (dedupeCrdtOps requester) op.opId) = true := by
    change (∃ op ∈ sliceTo (ordered.filter (wanted want)) (batchEnd limit), _) ↔ _
    rw [hend]
    refine exists_congr fun op => and_congr_right fun hop => ?_
    exact (hlacks op (List.mem_filter.mp (sliceTo_subset hop)).1).symm
  have hstale : (fun op => wanted want op && !!isKnown (dedupeCrdtOps requester) op.opId) =
      stale localeCompare requester := by
    funext op
    rw [Bool.not_not, Bool.and_comm]
    rfl
  unfold MakesProgress
  rw [hbatch, exists_mem_sliceTo_filter_iff, hstale]
  have hfound : (∃ before op after, ordered = before ++ op :: after ∧ wanted want op = true ∧
        (!isKnown (dedupeCrdtOps requester) op.opId) = true ∧
          ((before.filter (stale localeCompare requester)).length : ℕ∞) < limit.count) ↔
      ∃ before op after, ordered = before ++ op :: after ∧ op ∉ dedupeCrdtOps requester ∧
        Readable (dedupeCrdtOps requester) op.authorDeviceId ∧
          ((before.filter (stale localeCompare requester)).length : ℕ∞) < limit.count := by
    refine exists_congr fun before => exists_congr fun op => exists_congr fun after =>
      and_congr_right fun hsplit => ?_
    have hop : op ∈ ordered := hsplit ▸ by simp
    have hmem := mem_orderedOps.mp hop
    rw [hlacks op hop, hwant, wanted_iff (normal_of_mem_dedupe hmem)]
    constructor
    · rintro ⟨⟨hreadable, -⟩, hnew, hlt⟩
      exact ⟨hnew, hreadable, hlt⟩
    · rintro ⟨hnew, hreadable, hlt⟩
      exact ⟨⟨hreadable, cursor_lt_of_not_mem hone hmem hnew⟩, hnew, hlt⟩
  rw [hfound]
  constructor
  · intro hprogress
    by_cases hnew : ∃ op ∈ dedupeCrdtOps responder, op ∉ dedupeCrdtOps requester
    · exact Or.inr (hprogress hnew)
    · exact Or.inl fun op hop => by_contra fun hlacks => hnew ⟨op, hop, hlacks⟩
  · rintro (hnone | hsome) ⟨op, hop, hnew⟩
    · exact absurd (hnone op hop) hnew
    · exact hsome

/-- A new operation, and a requester that asks for one operation at a time. -/
theorem limited_progress_new_author :
    MakesProgress compare [messageOp "a" "devA" 1 "t1" []] [messageOp "b" "devB" 1 "t2" []]
      1 := by
  refine (limited_progress_iff (oneConversation_of_nodup (by decide) (by decide) (by decide))
    (by decide)).mpr (Or.inr ⟨[], normalizeCrdtOp (messageOp "b" "devB" 1 "t2" []), [], ?_, ?_, ?_,
      by decide⟩)
  · rfl
  · intro hmem
    have hids := List.mem_map_of_mem (f := CrdtOpEnvelope.opId) hmem
    revert hids
    decide
  · decide

/-- The requester holds number 2 of an author and misses number 1, which the
responder misses too: number 2 is all it is ever sent. -/
theorem limited_sync_stalls :
    ¬ ∀ requester responder : List CrdtOpEnvelope, ∀ limit : JsNumber,
      OneConversation (requester ++ responder) →
        (∀ op ∈ requester ++ responder, normalizeCrdtId op.authorDeviceId ≠ "") →
          1 ≤ limit.count → MakesProgress compare requester responder limit := by
  intro hall
  have hone : OneConversation ([messageOp "a2" "devA" 2 "t1" []] ++
      [messageOp "a2" "devA" 2 "t1" [], messageOp "b1" "devB" 1 "t2" []]) := by
    have hresponder : OneConversation
        [messageOp "a2" "devA" 2 "t1" [], messageOp "b1" "devB" 1 "t2" []] :=
      oneConversation_of_nodup (by decide) (by decide) (by decide)
    refine hresponder.mono fun op hop => ⟨op, ?_, rfl⟩
    simpa [or_assoc] using hop
  have hbatch : selectCrdtOpsForSync compare
      [messageOp "a2" "devA" 2 "t1" [], messageOp "b1" "devB" 1 "t2" []]
      (analyzeCrdtOps compare [messageOp "a2" "devA" 2 "t1" []]).versionVector (some 1) =
        dedupeCrdtOps [messageOp "a2" "devA" 2 "t1" []] := rfl
  have hnew : normalizeCrdtOp (messageOp "b1" "devB" 1 "t2" []) ∉
      dedupeCrdtOps [messageOp "a2" "devA" 2 "t1" []] := by
    intro hmem
    have hids := List.mem_map_of_mem (f := CrdtOpEnvelope.opId) hmem
    revert hids
    decide
  have hresponder : normalizeCrdtOp (messageOp "b1" "devB" 1 "t2" []) ∈ dedupeCrdtOps
      [messageOp "a2" "devA" 2 "t1" [], messageOp "b1" "devB" 1 "t2" []] :=
    List.mem_cons_of_mem _ List.mem_cons_self
  obtain ⟨op, hop, hlacks⟩ := hall _ _ 1 hone (by decide) (by decide) ⟨_, hresponder, hnew⟩
  exact hlacks (hbatch ▸ hop)

end OpenClaw.Crdt

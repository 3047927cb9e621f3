import OpenClaw.Crdt.Convergence

/-!
# The contiguous vector and the log

The entry of an author in `versionVector` is the length of the gapless run of the author's
numbers from 1 on.  It stays below the entry of `observedVersionVector`, and a log that
holds more operations has entries at least as high.  An operation without an id is not in
the deduplicated log, so its number is not counted.
-/

namespace OpenClaw.Crdt

open OpenClaw.Runtime

/-- The log holds the author's operation with this number, under some id. -/
def Present (ops : List CrdtOpEnvelope) (author : String) (seq : ℕ) : Prop :=
  ∃ op ∈ ops, normalizeCrdtId op.opId ≠ "" ∧ normalizeCrdtId op.authorDeviceId = author ∧
    op.authorSeq.count = seq

/-- All the author's numbers from 1 to `n` are in the log, and `n` is the largest such. -/
def LargestPrefix (ops : List CrdtOpEnvelope) (author : String) (n : ℕ) : Prop :=
  ∀ k, k ≤ n ↔ ∀ seq, 1 ≤ seq → seq ≤ k → Present ops author seq

variable {ops : List CrdtOpEnvelope} {author : String}

theorem present_iff (hids : IdsDetermine ops) {seq : ℕ} (hpos : 1 ≤ seq) :
    Present ops author seq ↔
      ∃ op ∈ dedupeCrdtOps ops, CountsFor author op ∧ op.authorSeq.count = seq := by
  constructor
  · rintro ⟨op, hop, hopId, hauthor, hseq⟩
    refine ⟨normalizeCrdtOp op, (mem_dedupe_iff hids).mpr ⟨hopId, op, hop, rfl⟩, ⟨?_, ?_⟩, ?_⟩
    · rw [normalizeCrdtOp_author, normalizeCrdtId_idem, hauthor]
    · rw [normalizeCrdtOp_seq, hseq]
      exact_mod_cast hpos
    · rw [normalizeCrdtOp_seq, hseq]
  · rintro ⟨op, hop, ⟨hauthor, -⟩, hseq⟩
    obtain ⟨hopId, raw, hraw, rfl⟩ := (mem_dedupe_iff hids).mp hop
    rw [normalizeCrdtOp_author, normalizeCrdtId_idem] at hauthor
    rw [normalizeCrdtOp_seq] at hseq
    exact ⟨raw, hraw, hopId, hauthor, hseq⟩

theorem largestPrefix_cursor (hids : IdsDetermine ops) (hauthor : author ≠ "") :
    LargestPrefix ops author (cursor (dedupeCrdtOps ops) author) := by
  intro k
  rw [le_cursor_iff hauthor]
  refine forall_congr' fun seq => forall_congr' fun hpos => forall_congr' fun _ => ?_
  exact (present_iff hids hpos).symm

/-- What `observed[author] || 0` gives for an ordinary name. -/
theorem numberOrZero_observed (hauthor : author ≠ "") (hordinary : author ∉ inheritedNames) :
    PlainObject.numberOrZero (buildObservedVersionVector ops) author =
      .ofCount (highest (authored ops author)) := by
  rw [PlainObject.numberOrZero_eq, get_observed, if_neg hauthor]
  cases hauthored : authored ops author with
  | nil =>
      show (if author ∈ inheritedNames then JsNumber.nan else 0) = _
      rw [if_neg hordinary]
      rfl
  | cons first rest =>
      have hproto : author ≠ "__proto__" := by
        rintro rfl
        exact hordinary (by decide)
      have hentry : observedEntry author (first :: rest) =
          some (.ofCount (highest (first :: rest))) := by
        rw [observedEntry, if_neg hproto, if_neg hordinary]
      rw [hentry]
      exact JsNumber.orZero_ofCount _

/-- The run of numbers ends below the highest one. -/
theorem cursor_le_highest (hauthor : author ≠ "") :
    (cursor ops author : ℕ∞) ≤ highest (authored ops author) := by
  rcases Nat.eq_zero_or_pos (cursor ops author) with hzero | hpos
  · rw [hzero, Nat.cast_zero]
    exact zero_le
  · obtain ⟨op, hop, hcounts, hseq⟩ := (le_cursor_iff hauthor).mp le_rfl _ hpos le_rfl
    rw [← hseq]
    exact le_highest (List.mem_filter.mpr ⟨hop, decide_eq_true hcounts⟩)

theorem cursor_mono {more : List CrdtOpEnvelope} (hauthor : author ≠ "")
    (hmore : ∀ op ∈ ops, op ∈ more) : cursor ops author ≤ cursor more author := by
  rw [le_cursor_iff hauthor]
  intro seq hpos hle
  obtain ⟨op, hop, hcounts, hseq⟩ := (le_cursor_iff hauthor).mp le_rfl seq hpos hle
  exact ⟨op, hmore op hop, hcounts, hseq⟩

theorem dedupe_subset {more : List CrdtOpEnvelope} (hids : IdsDetermine more)
    (hmore : ∀ op ∈ ops, op ∈ more) : ∀ op ∈ dedupeCrdtOps ops, op ∈ dedupeCrdtOps more := by
  have hfewer : IdsDetermine ops := fun a ha b hb => hids a (hmore a ha) b (hmore b hb)
  intro op hop
  obtain ⟨hopId, raw, hraw, hnormal⟩ := (mem_dedupe_iff hfewer).mp hop
  exact (mem_dedupe_iff hids).mpr ⟨hopId, raw, hmore raw hraw, hnormal⟩

variable (localeCompare : String → String → Ordering)

/-- **The contiguous vector.**  The entry of an author with an ordinary name is the largest
`n` such that the author's operations `1 … n` are in the log, at most the observed entry;
and the union of two logs has at least the higher of their entries. -/
theorem versionVector_contiguous (hauthor : author ≠ "") (hordinary : author ∉ inheritedNames) :
    (∀ ops, IdsDetermine ops → ∃ (n : ℕ) (observed : ℕ∞),
      PlainObject.numberOrZero (analyzeCrdtOps localeCompare ops).versionVector author =
          .ofCount n ∧
        LargestPrefix ops author n ∧
        PlainObject.numberOrZero (analyzeCrdtOps localeCompare ops).observedVersionVector author =
          .ofCount observed ∧ n ≤ observed) ∧
    ∀ left right union, IdsDetermine union → (∀ op, op ∈ union ↔ op ∈ left ∨ op ∈ right) →
      ∃ l r u : ℕ,
        PlainObject.numberOrZero (analyzeCrdtOps localeCompare left).versionVector author =
            .ofCount l ∧
          PlainObject.numberOrZero (analyzeCrdtOps localeCompare right).versionVector author =
            .ofCount r ∧
          PlainObject.numberOrZero (analyzeCrdtOps localeCompare union).versionVector author =
            .ofCount u ∧ l ≤ u ∧ r ≤ u := by
  have hentry : ∀ ops, PlainObject.numberOrZero (analyzeCrdtOps localeCompare ops).versionVector
      author = .ofCount (cursor (dedupeCrdtOps ops) author) := by
    intro ops
    show PlainObject.numberOrZero (buildContiguousVersionVector (dedupeCrdtOps ops)) author = _
    have hreadable : Readable (dedupeCrdtOps ops) author := .inl hordinary
    rw [numberOrZero_contiguous, if_pos hreadable]
  constructor
  · intro ops hids
    exact ⟨_, _, hentry ops, largestPrefix_cursor hids hauthor,
      numberOrZero_observed hauthor hordinary, cursor_le_highest hauthor⟩
  · intro left right union hids hunion
    refine ⟨_, _, _, hentry left, hentry right, hentry union, ?_, ?_⟩
    · apply cursor_mono hauthor
      exact dedupe_subset hids fun op hop => (hunion op).mpr (.inl hop)
    · apply cursor_mono hauthor
      exact dedupe_subset hids fun op hop => (hunion op).mpr (.inr hop)

/-- Two devices' logs, the second with a gap. -/
theorem versionVector_contiguous_gap :
    ∃ (n : ℕ) (observed : ℕ∞),
      PlainObject.numberOrZero (analyzeCrdtOps compare
          [messageOp "b" "dev" 3 "t2" [], messageOp "a" "dev" 1 "t1" []]).versionVector "dev" =
          .ofCount n ∧
        LargestPrefix [messageOp "b" "dev" 3 "t2" [], messageOp "a" "dev" 1 "t1" []] "dev" n ∧
        PlainObject.numberOrZero (analyzeCrdtOps compare [messageOp "b" "dev" 3 "t2" [],
          messageOp "a" "dev" 1 "t1" []]).observedVersionVector "dev" = .ofCount observed ∧
        n ≤ observed := by
  have hids : IdsDetermine [messageOp "b" "dev" 3 "t2" [], messageOp "a" "dev" 1 "t1" []] :=
    idsDetermine_of_nodup (by decide)
  exact (versionVector_contiguous compare (by decide) (by decide)).1 _ hids

/-- The number of an operation without an id is not counted, nor the one of an operation
whose id another one has up to blanks. -/
theorem not_counted_without_id :
    ((∃ op ∈ [messageOp "" "dev" 1 "t1" []], normalizeCrdtId op.authorDeviceId = "dev" ∧
        op.authorSeq.count = 1) ∧
      PlainObject.numberOrZero (analyzeCrdtOps compare
        [messageOp "" "dev" 1 "t1" []]).versionVector "dev" = .ofCount 0) ∧
    (∀ seq : ℕ, 1 ≤ seq → seq ≤ 2 →
        ∃ op ∈ [messageOp "a" "dev" 1 "t1" [], messageOp "a " "dev" 2 "t2" []],
          normalizeCrdtId op.authorDeviceId = "dev" ∧ op.authorSeq.count = seq) ∧
      PlainObject.numberOrZero (analyzeCrdtOps compare [messageOp "a" "dev" 1 "t1" [],
        messageOp "a " "dev" 2 "t2" []]).versionVector "dev" = .ofCount 1 := by
  refine ⟨⟨⟨_, List.mem_singleton_self _, ?_, ?_⟩, ?_⟩, ?_, ?_⟩
  · decide
  · decide
  · decide
  · intro seq hpos hle
    obtain rfl | rfl : seq = 1 ∨ seq = 2 := by omega
    · refine ⟨_, List.mem_cons_self, ?_, ?_⟩ <;> decide
    · refine ⟨_, List.mem_cons_of_mem _ (List.mem_singleton_self _), ?_, ?_⟩ <;> decide
  · decide

end OpenClaw.Crdt

import OpenClaw.Lib.ContiguousPrefix
import OpenClaw.Crdt.Op

/-!
# Version vectors

Two vectors are read off a log.  The contiguous one maps an author to the
largest `n` such that the log holds the author's operations `1 … n`; it is what
a replica asks from.  The observed one maps an author to the highest sequence
number in the log.

Both are plain objects, and that shows: an entry for an author named like a
member of `Object.prototype` is read as that member until the object has an
entry of its own.  The contiguous vector is written only, so it is not affected
(apart from `__proto__`, which cannot be assigned); the observed vector reads
the entry it is about to write, and loses the first operation of such an author
(`get_observed`).

`cursor` and `le_cursor_iff` describe the contiguous vector without its loops.
-/

namespace OpenClaw.Crdt

open OpenClaw.Runtime StableSort

abbrev CrdtVersionVector := PlainObject JsNumber

/-- The operation counts for `author`: it is the author's, and numbered. -/
def CountsFor (author : String) (op : CrdtOpEnvelope) : Prop :=
  normalizeCrdtId op.authorDeviceId = author ∧ 0 < op.authorSeq.count

instance (author : String) : DecidablePred (CountsFor author) := fun _ =>
  inferInstanceAs (Decidable (_ ∧ _))

/-! ## The observed vector -/

def observeStep (observed : CrdtVersionVector) (op : CrdtOpEnvelope) : CrdtVersionVector :=
  let authorDeviceId := normalizeCrdtId op.authorDeviceId
  let authorSeq := op.authorSeq.count
  if authorDeviceId = "" ∨ authorSeq ≤ 0 then observed
  else
    PlainObject.assign observed authorDeviceId
      (JsNumber.max (PlainObject.numberOrZero observed authorDeviceId) (.ofCount authorSeq))

def buildObservedVersionVector (ops : List CrdtOpEnvelope) : CrdtVersionVector :=
  ops.foldl observeStep ∅

/-! ## The contiguous vector -/

def seqsStep (seqsByAuthor : OrderedMap String (List ℕ∞)) (op : CrdtOpEnvelope) :
    OrderedMap String (List ℕ∞) :=
  let authorDeviceId := normalizeCrdtId op.authorDeviceId
  let authorSeq := op.authorSeq.count
  if authorDeviceId = "" ∨ authorSeq ≤ 0 then seqsByAuthor
  else
    let seqs := (seqsByAuthor.get authorDeviceId).getD []
    seqsByAuthor.set authorDeviceId (OrderedSet.insert authorSeq seqs)

/-- `expected - 1` after the walk over the sorted numbers. -/
def contiguousSeq (seqs : List ℕ∞) : ℕ :=
  ContiguousPrefix.contiguous Nat.cast (sortBy compare seqs)

def assignContiguous (vector : CrdtVersionVector) (entry : String × List ℕ∞) : CrdtVersionVector :=
  PlainObject.assign vector entry.1 (.ofCount (contiguousSeq entry.2))

def buildContiguousVersionVector (ops : List CrdtOpEnvelope) : CrdtVersionVector :=
  (ops.foldl seqsStep ∅).entries.foldl assignContiguous ∅

/-! ## Vectors received from elsewhere -/

def normalizeCrdtVersionVector (vector : CrdtVersionVector) : CrdtVersionVector :=
  PlainObject.fromEntries
    (((PlainObject.ownEntries vector).map fun entry =>
        (normalizeCrdtId entry.1, JsNumber.ofCount entry.2.count)).filter
      fun entry => decide (entry.1 ≠ ""))

/-! ## What the contiguous vector holds -/

section Contiguous

variable {ops : List CrdtOpEnvelope} {author : String}

/-- The numbers of `author` in the log. -/
def seqsOf (ops : List CrdtOpEnvelope) (author : String) : List ℕ∞ :=
  ((ops.foldl seqsStep ∅).get author).getD []

/-- The largest `n` such that all of the author's operations `1 … n` are there. -/
def cursor (ops : List CrdtOpEnvelope) (author : String) : ℕ := contiguousSeq (seqsOf ops author)

private theorem get_seqsStep (seqsByAuthor : OrderedMap String (List ℕ∞)) (op : CrdtOpEnvelope)
    (hauthor : author ≠ "") :
    (seqsStep seqsByAuthor op).get author =
      if CountsFor author op then
        some (OrderedSet.insert op.authorSeq.count ((seqsByAuthor.get author).getD []))
      else seqsByAuthor.get author := by
  unfold seqsStep
  by_cases hop : normalizeCrdtId op.authorDeviceId = author
  · subst hop
    by_cases hpos : 0 < op.authorSeq.count
    · simp [CountsFor, hauthor, hpos, hpos.ne']
    · simp [CountsFor, hpos, not_lt.mp hpos]
  · have hnot : ¬ CountsFor author op := fun hcounts => hop hcounts.1
    rw [if_neg hnot]
    dsimp only
    split
    · rfl
    · rw [OrderedMap.get_set_of_ne _ _ (Ne.symm hop)]

private theorem get_foldl_seqsStep (hauthor : author ≠ "")
    (seqsByAuthor : OrderedMap String (List ℕ∞)) :
    (ops.foldl seqsStep seqsByAuthor).get author =
      if ∃ op ∈ ops, CountsFor author op then
        some ((ops.filter fun op => decide (CountsFor author op)).foldl
          (fun seqs op => OrderedSet.insert op.authorSeq.count seqs)
          ((seqsByAuthor.get author).getD []))
      else seqsByAuthor.get author := by
  induction ops generalizing seqsByAuthor with
  | nil => simp
  | cons op rest ih =>
      rw [List.foldl_cons, ih, get_seqsStep seqsByAuthor op hauthor]
      by_cases hop : CountsFor author op
      · by_cases hrest : ∃ op ∈ rest, CountsFor author op <;> simp [hop, hrest]
        rw [List.filter_eq_nil_iff.mpr]
        · rfl
        · simpa using hrest
      · simp [hop]

private theorem mem_foldl_insert_seq {seqs : List ℕ∞} {n : ℕ∞} :
    n ∈ ops.foldl (fun seqs op => OrderedSet.insert op.authorSeq.count seqs) seqs ↔
      n ∈ seqs ∨ ∃ op ∈ ops, op.authorSeq.count = n := by
  induction ops generalizing seqs with
  | nil => simp
  | cons op rest ih =>
      rw [List.foldl_cons, ih, OrderedSet.mem_insert]
      simp only [List.mem_cons, exists_eq_or_imp, @eq_comm _ n]
      tauto

private theorem nodup_foldl_insert_seq {seqs : List ℕ∞} (hnodup : seqs.Nodup) :
    (ops.foldl (fun seqs op => OrderedSet.insert op.authorSeq.count seqs) seqs).Nodup := by
  induction ops generalizing seqs with
  | nil => exact hnodup
  | cons op rest ih => exact ih (OrderedSet.nodup_insert hnodup)

theorem mem_seqsOf (hauthor : author ≠ "") {n : ℕ∞} :
    n ∈ seqsOf ops author ↔ ∃ op ∈ ops, CountsFor author op ∧ op.authorSeq.count = n := by
  unfold seqsOf
  rw [get_foldl_seqsStep hauthor]
  split
  · rw [Option.getD_some, mem_foldl_insert_seq]
    simp [and_assoc]
  · next hnone =>
      simp only [OrderedMap.get_empty, Option.getD_none, List.not_mem_nil, false_iff]
      rintro ⟨op, hop, hcounts, -⟩
      exact hnone ⟨op, hop, hcounts⟩

theorem nodup_seqsOf (hauthor : author ≠ "") : (seqsOf ops author).Nodup := by
  unfold seqsOf
  rw [get_foldl_seqsStep hauthor]
  split
  · exact nodup_foldl_insert_seq List.nodup_nil
  · exact List.nodup_nil

theorem sortBy_seqs_strict {seqs : List ℕ∞} (hnodup : seqs.Nodup) :
    (sortBy compare seqs).Pairwise (· < ·) := by
  have hle : (sortBy compare seqs).Pairwise (Below compare) := pairwise_sortBy seqs
  refine (hle.and (nodup_sortBy hnodup)).imp fun {a b} hab => ?_
  exact lt_of_le_of_ne (compare_le_iff_le.mp (Ordering.ne_gt_iff_isLE.mpr hab.1)) hab.2

/-- **The cursor without its loops.** -/
theorem le_cursor_iff (hauthor : author ≠ "") {n : ℕ} :
    n ≤ cursor ops author ↔
      ∀ k : ℕ, 1 ≤ k → k ≤ n → ∃ op ∈ ops, CountsFor author op ∧ op.authorSeq.count = k := by
  unfold cursor contiguousSeq
  rw [ContiguousPrefix.le_contiguous_iff ContiguousPrefix.gapless_natCast
    (sortBy_seqs_strict (nodup_seqsOf hauthor))]
  · simp only [mem_sortBy, mem_seqsOf hauthor]
  · intro value hvalue
    obtain ⟨op, -, hcounts, rfl⟩ := (mem_seqsOf hauthor).mp (mem_sortBy.mp hvalue)
    exact hcounts.2

/-- The cursor depends on the set of operations only. -/
theorem cursor_congr {left right : List CrdtOpEnvelope} (hauthor : author ≠ "")
    (hsame : ∀ op, op ∈ left ↔ op ∈ right) : cursor left author = cursor right author :=
  eq_of_forall_le_iff fun n => by rw [le_cursor_iff hauthor, le_cursor_iff hauthor]; simp [hsame]

private theorem get_foldl_assignContiguous (entries : List (String × List ℕ∞))
    (hnodup : (entries.map Prod.fst).Nodup) {vector : CrdtVersionVector}
    (hproto : vector.get "__proto__" = none) :
    (entries.foldl assignContiguous vector).get author =
      if author = "__proto__" then none
      else ((entries.find? fun entry => decide (entry.1 = author)).map fun entry =>
        JsNumber.ofCount (contiguousSeq entry.2)).or (vector.get author) := by
  induction entries generalizing vector with
  | nil =>
      split
      · next heq => simpa [heq] using hproto
      · simp
  | cons entry rest ih =>
      rw [List.map_cons, List.nodup_cons] at hnodup
      have hassign : assignContiguous vector entry =
          if entry.1 = "__proto__" then vector
          else vector.set entry.1 (.ofCount (contiguousSeq entry.2)) := by
        unfold assignContiguous PlainObject.assign
        by_cases heq : entry.1 = "__proto__" <;> simp [heq, hproto]
      have hproto' : (assignContiguous vector entry).get "__proto__" = none := by
        rw [hassign]
        split
        · exact hproto
        · next hne => rwa [OrderedMap.get_set_of_ne _ _ (Ne.symm hne)]
      rw [List.foldl_cons, ih hnodup.2 hproto', List.find?_cons]
      by_cases hauthor : author = "__proto__"
      · simp [hauthor]
      · by_cases heq : entry.1 = author
        · -- The rest of the entries has other authors.
          have hrest : rest.find? (fun entry => decide (entry.1 = author)) = none := by
            rw [List.find?_eq_none]
            intro other hother hsame
            exact hnodup.1 (List.mem_map.mpr ⟨other, hother, by simpa [heq] using hsame⟩)
          simp [hauthor, heq, hrest, hassign]
        · have hget : (assignContiguous vector entry).get author = vector.get author := by
            rw [hassign]
            split
            · rfl
            · rw [OrderedMap.get_set_of_ne _ _ (Ne.symm heq)]
          simp [hauthor, heq, hget]

theorem get_foldl_seqsStep_empty (ops : List CrdtOpEnvelope) :
    (ops.foldl seqsStep ∅).get "" = none := by
  suffices ∀ seqsByAuthor : OrderedMap String (List ℕ∞), seqsByAuthor.get "" = none →
      (ops.foldl seqsStep seqsByAuthor).get "" = none from this ∅ (OrderedMap.get_empty "")
  induction ops with
  | nil => exact fun _ hnone => hnone
  | cons op rest ih =>
      intro seqsByAuthor hnone
      refine ih _ ?_
      unfold seqsStep
      dsimp only
      split
      · exact hnone
      · next hnot => rwa [OrderedMap.get_set_of_ne _ _ (Ne.symm (not_or.mp hnot).1)]

/-- The entries of the contiguous vector: every author with a numbered
operation, except `__proto__`. -/
theorem get_contiguous (ops : List CrdtOpEnvelope) (author : String) :
    (buildContiguousVersionVector ops).get author =
      if author ≠ "" ∧ author ≠ "__proto__" ∧ ∃ op ∈ ops, CountsFor author op then
        some (.ofCount (cursor ops author))
      else none := by
  unfold buildContiguousVersionVector
  rw [get_foldl_assignContiguous _ (ops.foldl seqsStep ∅).nodup_keys (OrderedMap.get_empty _),
    OrderedMap.get_empty, Option.or_none]
  have hfind : ((ops.foldl seqsStep ∅).entries.find? fun entry => decide (entry.1 = author)).map
      (fun entry => JsNumber.ofCount (contiguousSeq entry.2)) =
      ((ops.foldl seqsStep ∅).get author).map
        fun seqs => JsNumber.ofCount (contiguousSeq seqs) := by
    rw [OrderedMap.get, Option.map_map]
    rfl
  rw [hfind]
  by_cases hempty : author = ""
  · subst hempty
    rw [get_foldl_seqsStep_empty]
    simp
  · by_cases hproto : author = "__proto__"
    · simp [hproto]
    · by_cases hsome : ∃ op ∈ ops, CountsFor author op
      · simp only [hproto, hempty, hsome, cursor, seqsOf, get_foldl_seqsStep hempty, if_true,
          if_false, ne_eq, not_false_eq_true, and_self, Option.map_some, Option.getD_some]
      · simp [hproto, hempty, hsome, get_foldl_seqsStep hempty]

end Contiguous

/-! ## What the observed vector holds -/

section Observed

variable {ops : List CrdtOpEnvelope} {author : String}

/-- The operations of the author that count, in their order. -/
def authored (ops : List CrdtOpEnvelope) (author : String) : List CrdtOpEnvelope :=
  ops.filter fun op => decide (CountsFor author op)

theorem authored_cons_of_counts {op : CrdtOpEnvelope} {rest : List CrdtOpEnvelope}
    (hop : CountsFor author op) : authored (op :: rest) author = op :: authored rest author :=
  List.filter_cons_of_pos (decide_eq_true hop)

theorem authored_cons_of_not {op : CrdtOpEnvelope} {rest : List CrdtOpEnvelope}
    (hop : ¬ CountsFor author op) : authored (op :: rest) author = authored rest author :=
  List.filter_cons_of_neg (by simpa using hop)

/-- The highest sequence number of a list of operations. -/
def highest (ops : List CrdtOpEnvelope) : ℕ∞ :=
  ops.foldr (fun op seq => op.authorSeq.count ⊔ seq) 0

theorem highest_le_iff {bound : ℕ∞} :
    highest ops ≤ bound ↔ ∀ op ∈ ops, op.authorSeq.count ≤ bound := by
  induction ops with
  | nil => simp [highest]
  | cons op rest ih =>
      rw [highest, List.foldr_cons, sup_le_iff, ← highest, ih, List.forall_mem_cons]

theorem le_highest {op : CrdtOpEnvelope} (hop : op ∈ ops) : op.authorSeq.count ≤ highest ops :=
  highest_le_iff.mp le_rfl op hop

theorem highest_congr {other : List CrdtOpEnvelope} (hmem : ∀ op, op ∈ ops ↔ op ∈ other) :
    highest ops = highest other :=
  eq_of_forall_ge_iff fun bound => by simp only [highest_le_iff, hmem]

/-- The entry for an author whose operations are `ops`.  For an inherited name
the first operation turns the entry into `NaN`, and the next ones start over. -/
def observedEntry (author : String) : List CrdtOpEnvelope → Option JsNumber
  | [] => none
  | first :: rest =>
      if author = "__proto__" then none
      else if author ∈ inheritedNames then
        if rest = [] then some .nan else some (.ofCount (highest rest))
      else some (.ofCount (highest (first :: rest)))

private theorem get_observeStep (observed : CrdtVersionVector) (op : CrdtOpEnvelope)
    (hauthor : author ≠ "") (hproto : author ≠ "__proto__") :
    (observeStep observed op).get author =
      if CountsFor author op then
        some (JsNumber.max (PlainObject.numberOrZero observed author)
          (.ofCount op.authorSeq.count))
      else observed.get author := by
  unfold observeStep PlainObject.assign
  by_cases hop : normalizeCrdtId op.authorDeviceId = author
  · subst hop
    by_cases hpos : 0 < op.authorSeq.count
    · simp [CountsFor, hauthor, hproto, hpos, hpos.ne']
    · simp [CountsFor, hpos, not_lt.mp hpos]
  · have hnot : ¬ CountsFor author op := fun hcounts => hop hcounts.1
    rw [if_neg hnot]
    dsimp only
    split
    · rfl
    · split
      · rfl
      · rw [OrderedMap.get_set_of_ne _ _ (Ne.symm hop)]

/-- From an entry that is a number, folding takes the maximum. -/
private theorem get_foldl_observe_count (hauthor : author ≠ "") (hproto : author ≠ "__proto__")
    {observed : CrdtVersionVector} {seq : ℕ∞} (hentry : observed.get author = some (.ofCount seq)) :
    (ops.foldl observeStep observed).get author =
      some (.ofCount (seq ⊔ highest (authored ops author))) := by
  induction ops generalizing observed seq with
  | nil => simp [authored, highest, hentry]
  | cons op rest ih =>
      have hstep := get_observeStep observed op hauthor hproto
      rw [PlainObject.numberOrZero_eq, hentry] at hstep
      rw [List.foldl_cons]
      by_cases hop : CountsFor author op
      · rw [if_pos hop] at hstep
        simp only [JsNumber.orZero_ofCount, JsNumber.max_ofCount] at hstep
        rw [ih hstep, authored_cons_of_counts hop, sup_assoc]
        rfl
      · rw [if_neg hop] at hstep
        rw [ih hstep, authored_cons_of_not hop]

/-- From `NaN`, folding starts over. -/
private theorem get_foldl_observe_nan (hauthor : author ≠ "") (hproto : author ≠ "__proto__")
    {observed : CrdtVersionVector} (hentry : observed.get author = some .nan) :
    (ops.foldl observeStep observed).get author =
      if authored ops author = [] then some .nan
      else some (.ofCount (highest (authored ops author))) := by
  induction ops generalizing observed with
  | nil => simp [authored, hentry]
  | cons op rest ih =>
      have hstep := get_observeStep observed op hauthor hproto
      rw [PlainObject.numberOrZero_eq, hentry] at hstep
      rw [List.foldl_cons]
      by_cases hop : CountsFor author op
      · rw [if_pos hop] at hstep
        simp only [JsNumber.orZero, JsNumber.max_zero_ofCount] at hstep
        rw [get_foldl_observe_count hauthor hproto hstep, authored_cons_of_counts hop,
          if_neg (List.cons_ne_nil _ _)]
        rfl
      · rw [if_neg hop] at hstep
        rw [ih hstep, authored_cons_of_not hop]

private theorem get_foldl_observe_none (hauthor : author ≠ "") (hproto : author ≠ "__proto__")
    {observed : CrdtVersionVector} (hentry : observed.get author = none) :
    (ops.foldl observeStep observed).get author =
      observedEntry author (authored ops author) := by
  induction ops generalizing observed with
  | nil => simp [authored, observedEntry, hentry]
  | cons op rest ih =>
      have hstep := get_observeStep observed op hauthor hproto
      rw [PlainObject.numberOrZero_eq, hentry] at hstep
      rw [List.foldl_cons]
      by_cases hop : CountsFor author op
      · rw [if_pos hop] at hstep
        rw [authored_cons_of_counts hop, observedEntry, if_neg hproto]
        by_cases hinherited : author ∈ inheritedNames
        · simp only [hinherited, if_true, JsNumber.max_nan_left] at hstep
          rw [get_foldl_observe_nan hauthor hproto hstep, if_pos hinherited]
        · simp only [hinherited, if_false, JsNumber.max_zero_ofCount] at hstep
          rw [get_foldl_observe_count hauthor hproto hstep, if_neg hinherited]
          rfl
      · rw [if_neg hop] at hstep
        rw [ih hstep, authored_cons_of_not hop]

private theorem get_observe_ignored {observed : CrdtVersionVector}
    (hauthor : author = "" ∨ author = "__proto__") (hentry : observed.get author = none) :
    (ops.foldl observeStep observed).get author = none := by
  induction ops generalizing observed with
  | nil => exact hentry
  | cons op rest ih =>
      refine ih ?_
      unfold observeStep PlainObject.assign
      dsimp only
      split
      · exact hentry
      · next hnot =>
          split
          · exact hentry
          · next hassign =>
              rw [OrderedMap.get_set_of_ne _ _ ?_]
              · exact hentry
              · rintro rfl
                rcases hauthor with hempty | hproto
                · exact (not_or.mp hnot).1 hempty
                · exact hassign ⟨hproto, by simp [hentry]⟩

/-- **The observed vector, author by author.** -/
theorem get_observed (ops : List CrdtOpEnvelope) (author : String) :
    (buildObservedVersionVector ops).get author =
      if author = "" then none else observedEntry author (authored ops author) := by
  unfold buildObservedVersionVector
  by_cases hauthor : author = ""
  · rw [if_pos hauthor, get_observe_ignored (Or.inl hauthor) (OrderedMap.get_empty author)]
  · rw [if_neg hauthor]
    by_cases hproto : author = "__proto__"
    · rw [get_observe_ignored (Or.inr hproto) (OrderedMap.get_empty author)]
      unfold observedEntry
      split
      · rfl
      · rw [if_pos hproto]
    · exact get_foldl_observe_none hauthor hproto (OrderedMap.get_empty author)

end Observed

/-! ## Asking from a contiguous vector -/

section Asking

variable {ops : List CrdtOpEnvelope} {author : String}

/-- The entry for `author` is read as a number: the name is not inherited, or
the log has an operation that gives it an entry of its own. -/
def Readable (ops : List CrdtOpEnvelope) (author : String) : Prop :=
  author ∉ inheritedNames ∨ author ≠ "__proto__" ∧ ∃ op ∈ ops, CountsFor author op

instance : Decidable (Readable ops author) := inferInstanceAs (Decidable (_ ∨ _))

theorem numberOrZero_congr {left right : CrdtVersionVector} (hsame : left.Same right) :
    PlainObject.numberOrZero left author = PlainObject.numberOrZero right author := by
  rw [PlainObject.numberOrZero_eq, PlainObject.numberOrZero_eq, hsame author]

theorem cursor_empty (ops : List CrdtOpEnvelope) : cursor ops "" = 0 := by
  rw [cursor, seqsOf, get_foldl_seqsStep_empty]
  rfl

theorem cursor_eq_zero (hnone : ¬ ∃ op ∈ ops, CountsFor author op) : cursor ops author = 0 := by
  by_cases hauthor : author = ""
  · rw [hauthor, cursor_empty]
  · by_contra hne
    have hpos : 1 ≤ cursor ops author := Nat.one_le_iff_ne_zero.mpr hne
    obtain ⟨op, hop, hcounts, -⟩ := (le_cursor_iff hauthor).mp hpos 1 le_rfl le_rfl
    exact hnone ⟨op, hop, hcounts⟩

/-- What `vector[author] || 0` gives for a contiguous vector. -/
theorem numberOrZero_contiguous (ops : List CrdtOpEnvelope) (author : String) :
    PlainObject.numberOrZero (buildContiguousVersionVector ops) author =
      if Readable ops author then .ofCount (cursor ops author) else .nan := by
  rw [PlainObject.numberOrZero_eq, get_contiguous]
  unfold Readable
  by_cases hproto : author = "__proto__"
  · simp [hproto, inheritedNames]
  · by_cases hsome : author ≠ "" ∧ ∃ op ∈ ops, CountsFor author op
    · simp [hproto, hsome]
    · have hentry : ¬ (author ≠ "" ∧ author ≠ "__proto__" ∧ ∃ op ∈ ops, CountsFor author op) :=
        fun h => hsome ⟨h.1, h.2.2⟩
      rw [if_neg hentry]
      by_cases hempty : author = ""
      · subst hempty
        simp [inheritedNames, cursor_empty]
        rfl
      · have hnone : ¬ ∃ op ∈ ops, CountsFor author op := fun h => hsome ⟨hempty, h⟩
        rw [cursor_eq_zero hnone]
        by_cases hinherited : author ∈ inheritedNames
        · simp [hnone, hinherited]
        · simp only [hinherited, not_false_eq_true, true_or, if_true, if_false]
          rfl

/-- The keys of the vector are ids as they are written. -/
def CleanKeys (vector : CrdtVersionVector) : Prop :=
  ∀ key value, vector.get key = some value → normalizeCrdtId key = key ∧ key ≠ ""

/-- Normalizing a vector with clean keys makes each entry a count. -/
theorem get_normalize {vector : CrdtVersionVector} (hclean : CleanKeys vector) (key : String) :
    (normalizeCrdtVersionVector vector).get key =
      (vector.get key).map fun value => JsNumber.ofCount value.count := by
  set entries := ((PlainObject.ownEntries vector).map fun entry =>
    (normalizeCrdtId entry.1, JsNumber.ofCount entry.2.count)).filter
      (fun entry => decide (entry.1 ≠ "")) with hentries
  have hclean_of_mem : ∀ entry ∈ PlainObject.ownEntries vector,
      normalizeCrdtId entry.1 = entry.1 ∧ entry.1 ≠ "" := by
    rintro ⟨key, value⟩ hmem
    exact hclean key value (PlainObject.mem_ownEntries_iff.mp hmem)
  have hmap : (PlainObject.ownEntries vector).map (fun entry =>
      (normalizeCrdtId entry.1, JsNumber.ofCount entry.2.count)) =
        (PlainObject.ownEntries vector).map fun entry =>
          (entry.1, JsNumber.ofCount entry.2.count) :=
    List.map_congr_left fun entry hmem => by rw [(hclean_of_mem entry hmem).1]
  have hall : entries = (PlainObject.ownEntries vector).map fun entry =>
      (entry.1, JsNumber.ofCount entry.2.count) := by
    rw [hentries, hmap, List.filter_eq_self]
    intro entry hmem
    obtain ⟨old, hold, rfl⟩ := List.mem_map.mp hmem
    exact decide_eq_true (hclean_of_mem old hold).2
  have hkeys : (entries.map Prod.fst).Nodup := by
    rw [hall, List.map_map]
    exact PlainObject.nodup_keys_ownEntries vector
  show (OrderedMap.ofList entries).get key = _
  ext value
  rw [OrderedMap.get_ofList hkeys, hall, List.mem_map, Option.map_eq_some_iff]
  constructor
  · rintro ⟨⟨old, seq⟩, hmem, heq⟩
    obtain ⟨rfl, rfl⟩ := Prod.mk.inj heq
    exact ⟨seq, PlainObject.mem_ownEntries_iff.mp hmem, rfl⟩
  · rintro ⟨seq, hget, rfl⟩
    exact ⟨(key, seq), PlainObject.mem_ownEntries_iff.mpr hget, rfl⟩

/-- Normalizing a contiguous vector changes none of its entries. -/
theorem normalize_contiguous (ops : List CrdtOpEnvelope) :
    (normalizeCrdtVersionVector (buildContiguousVersionVector ops)).Same
      (buildContiguousVersionVector ops) := by
  have hclean : CleanKeys (buildContiguousVersionVector ops) := by
    intro key value hget
    rw [get_contiguous] at hget
    split at hget
    · next hsome =>
        obtain ⟨hkey, -, op, -, hcounts, -⟩ := hsome
        refine ⟨?_, hkey⟩
        rw [← hcounts, normalizeCrdtId_idem]
    · cases hget
  intro key
  rw [get_normalize hclean, get_contiguous]
  split
  · rw [Option.map_some, JsNumber.count_ofCount]
  · rfl

end Asking

end OpenClaw.Crdt

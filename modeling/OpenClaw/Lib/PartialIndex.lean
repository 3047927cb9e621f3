import OpenClaw.Lib.OrderedMap

/-!
# An index of some of the rows of a map

Every row carries a label, and an index finds by its label the key of a row that it
covers.  Rows and index are changed apart, so each rule below says which change of the
index goes with a change of the rows.

No two rows have one label, covered or not: without that, to close one row would take
the entry of another.
-/

/-- The index has the labels of the covered rows, and no other entry. -/
structure PartialIndex {κ ν τ : Type*} [DecidableEq κ] [DecidableEq τ] (rows : OrderedMap κ ν)
    (index : OrderedMap τ κ) (label : ν → τ) (covers : ν → Prop) : Prop where
  distinct : ∀ {key other row otherRow}, rows.get key = some row →
    rows.get other = some otherRow → label row = label otherRow → key = other
  exact : ∀ {token key}, index.get token = some key ↔
    ∃ row, rows.get key = some row ∧ label row = token ∧ covers row

namespace PartialIndex

variable {κ ν τ : Type*} [DecidableEq κ] [DecidableEq τ] {rows : OrderedMap κ ν}
  {index : OrderedMap τ κ} {label : ν → τ} {covers : ν → Prop}

theorem empty : PartialIndex (∅ : OrderedMap κ ν) (∅ : OrderedMap τ κ) label covers where
  distinct hget := nomatch hget
  exact {token key} := by
    constructor
    · intro hget
      cases hget
    · rintro ⟨row, hget, -⟩
      cases hget

omit [DecidableEq τ] in
/-- The labels stay distinct when a row is written under a label of its own. -/
theorem distinct_set (hdistinct : ∀ {key other row otherRow}, rows.get key = some row →
      rows.get other = some otherRow → label row = label otherRow → key = other) {key : κ} {new : ν}
    (hown : ∀ {other row}, rows.get other = some row → label row = label new → other = key)
    {first second : κ} {row otherRow : ν} (hfirst : (rows.set key new).get first = some row)
    (hsecond : (rows.set key new).get second = some otherRow)
    (hlabel : label row = label otherRow) : first = second := by
  rw [OrderedMap.get_set] at hfirst hsecond
  split at hfirst
  · next heq =>
      obtain rfl := Option.some.inj hfirst
      split at hsecond
      · next hsame => rw [heq, hsame]
      · rw [heq]
        exact (hown hsecond hlabel.symm).symm
  · split at hsecond
    · next heq =>
        obtain rfl := Option.some.inj hsecond
        rw [heq]
        exact hown hfirst hlabel
    · exact hdistinct hfirst hsecond hlabel

/-- A new row with a new label. -/
theorem insert (hindex : PartialIndex rows index label covers) {key : κ} {new : ν}
    (hkey : rows.get key = none)
    (hlabel : ∀ {other row}, rows.get other = some row → label row ≠ label new)
    (hcovers : covers new) :
    PartialIndex (rows.set key new) (index.set (label new) key) label covers where
  distinct := distinct_set hindex.distinct fun hget heq => absurd heq (hlabel hget)
  exact {token other} := by
    rw [OrderedMap.get_set, OrderedMap.get_set]
    constructor
    · intro hget
      split at hget
      · next htoken =>
          obtain rfl := Option.some.inj hget
          exact ⟨new, if_pos rfl, htoken.symm, hcovers⟩
      · obtain ⟨row, hrow, htoken, hcovered⟩ := hindex.exact.mp hget
        have hne : other ≠ key := by
          rintro rfl
          rw [hkey] at hrow
          cases hrow
        exact ⟨row, (if_neg hne).trans hrow, htoken, hcovered⟩
    · rintro ⟨row, hget, htoken, hcovered⟩
      split at hget
      · next heq =>
          obtain rfl := Option.some.inj hget
          rw [if_pos htoken.symm, heq]
      · have hne : token ≠ label new := by
          rw [← htoken]
          exact hlabel hget
        rw [if_neg hne]
        exact hindex.exact.mpr ⟨row, hget, htoken, hcovered⟩

/-- A row changes, but not its label and not whether it is covered. -/
theorem update (hindex : PartialIndex rows index label covers) {key : κ} {old new : ν}
    (hget : rows.get key = some old) (hlabel : label new = label old)
    (hcovers : covers new ↔ covers old) :
    PartialIndex (rows.set key new) index label covers where
  distinct := distinct_set hindex.distinct fun hother heq =>
    hindex.distinct hother hget (heq.trans hlabel)
  exact {token other} := by
    rw [hindex.exact, OrderedMap.get_set]
    split
    · next heq =>
        rw [heq, hget]
        constructor
        · rintro ⟨row, hrow, htoken, hcovered⟩
          obtain rfl := Option.some.inj hrow
          exact ⟨new, rfl, hlabel.trans htoken, hcovers.mpr hcovered⟩
        · rintro ⟨row, hrow, htoken, hcovered⟩
          obtain rfl := Option.some.inj hrow
          exact ⟨old, rfl, hlabel.symm.trans htoken, hcovers.mp hcovered⟩
    · exact Iff.rfl

/-- The entry of a row is dropped: what is left are the labels of the other rows. -/
private theorem get_erase_label (hindex : PartialIndex rows index label covers) {key other : κ}
    {old : ν} (hget : rows.get key = some old) {token : τ} :
    (index.erase (label old)).get token = some other ↔
      other ≠ key ∧ index.get token = some other := by
  rw [OrderedMap.get_erase]
  constructor
  · intro hother
    split at hother
    · cases hother
    · next hne =>
        refine ⟨?_, hother⟩
        rintro rfl
        obtain ⟨row, hrow, htoken, -⟩ := hindex.exact.mp hother
        rw [hget] at hrow
        obtain rfl := Option.some.inj hrow
        exact hne htoken.symm
  · rintro ⟨hne, hother⟩
    obtain ⟨row, hrow, htoken, -⟩ := hindex.exact.mp hother
    rw [if_neg, hother]
    rintro rfl
    exact hne (hindex.distinct hrow hget htoken)

/-- A row that is covered no longer, or never was, and its entry is dropped. -/
theorem close (hindex : PartialIndex rows index label covers) {key : κ} {old new : ν}
    (hget : rows.get key = some old) (hlabel : label new = label old) (hcovers : ¬covers new) :
    PartialIndex (rows.set key new) (index.erase (label old)) label covers where
  distinct := distinct_set hindex.distinct fun hother heq =>
    hindex.distinct hother hget (heq.trans hlabel)
  exact {token other} := by
    rw [hindex.get_erase_label hget, hindex.exact, OrderedMap.get_set]
    split
    · next heq =>
        constructor
        · rintro ⟨hne, -⟩
          exact absurd heq hne
        · rintro ⟨row, hrow, -, hcovered⟩
          obtain rfl := Option.some.inj hrow
          exact absurd hcovered hcovers
    · next hne => exact and_iff_right hne

/-- A row is deleted, and its entry with it. -/
theorem erase (hindex : PartialIndex rows index label covers) {key : κ} {old : ν}
    (hget : rows.get key = some old) :
    PartialIndex (rows.erase key) (index.erase (label old)) label covers where
  distinct hfirst hsecond hlabel := by
    rw [OrderedMap.get_erase] at hfirst hsecond
    split at hfirst
    · cases hfirst
    split at hsecond
    · cases hsecond
    exact hindex.distinct hfirst hsecond hlabel
  exact {token other} := by
    rw [hindex.get_erase_label hget, hindex.exact, OrderedMap.get_erase]
    split
    · next heq =>
        constructor
        · rintro ⟨hne, -⟩
          exact absurd heq hne
        · rintro ⟨row, hrow, -⟩
          cases hrow
    · next hne => exact and_iff_right hne

/-- Some rows are closed in one pass, and their entries dropped. -/
theorem closeAll (hindex : PartialIndex rows index label covers) {closing : ν → Prop}
    [DecidablePred closing] {change : ν → ν} {gone : List τ}
    (hlabel : ∀ row, label (change row) = label row) (hchanged : ∀ row, ¬covers (change row))
    (hgone : ∀ token, token ∈ gone ↔
      ∃ key row, rows.get key = some row ∧ closing row ∧ label row = token) :
    PartialIndex (rows.mapValues fun _ row => if closing row then change row else row)
      (index.filter fun token _ => decide (token ∉ gone)) label covers where
  distinct {key other row otherRow} hfirst hsecond heq := by
    have hkept : ∀ row, label (if closing row then change row else row) = label row := by
      intro row
      split
      · exact hlabel row
      · rfl
    rw [OrderedMap.get_mapValues] at hfirst hsecond
    obtain ⟨first, hold, rfl⟩ := Option.map_eq_some_iff.mp hfirst
    obtain ⟨second, hother, rfl⟩ := Option.map_eq_some_iff.mp hsecond
    rw [hkept, hkept] at heq
    exact hindex.distinct hold hother heq
  exact {token key} := by
    rw [OrderedMap.get_filter_eq_some_iff, decide_eq_true_eq, hindex.exact,
      OrderedMap.get_mapValues]
    constructor
    · rintro ⟨⟨row, hget, rfl, hcovered⟩, hstays⟩
      have hopen : ¬closing row := fun hclose =>
        hstays ((hgone _).mpr ⟨key, row, hget, hclose, rfl⟩)
      refine ⟨row, ?_, rfl, hcovered⟩
      rw [hget, Option.map_some, if_neg hopen]
    · rintro ⟨row, hget, htoken, hcovered⟩
      obtain ⟨old, hold, hrow⟩ := Option.map_eq_some_iff.mp hget
      split at hrow
      · rw [← hrow] at hcovered
        exact absurd hcovered (hchanged old)
      · next hopen =>
          obtain rfl := hrow
          refine ⟨⟨old, hold, htoken, hcovered⟩, fun hmem => ?_⟩
          -- a row that is closed has the label of this one, so it is this one
          obtain ⟨other, row, hother, hclose, hlabel⟩ := (hgone _).mp hmem
          obtain rfl := hindex.distinct hother hold (hlabel.trans htoken.symm)
          rw [hold] at hother
          obtain rfl := Option.some.inj hother
          exact hopen hclose

/-- Some rows are deleted in one pass, and their entries with them. -/
theorem filter (hindex : PartialIndex rows index label covers) {keep : κ → ν → Bool}
    {gone : List τ} (hgone : ∀ token, token ∈ gone ↔
      ∃ key row, rows.get key = some row ∧ keep key row = false ∧ label row = token) :
    PartialIndex (rows.filter keep) (index.filter fun token _ => decide (token ∉ gone)) label
      covers where
  distinct hfirst hsecond hlabel := by
    rw [OrderedMap.get_filter_eq_some_iff] at hfirst hsecond
    exact hindex.distinct hfirst.1 hsecond.1 hlabel
  exact {token key} := by
    rw [OrderedMap.get_filter_eq_some_iff, decide_eq_true_eq, hindex.exact]
    constructor
    · rintro ⟨⟨row, hget, rfl, hcovered⟩, hstays⟩
      refine ⟨row, ?_, rfl, hcovered⟩
      rw [OrderedMap.get_filter, hget, Option.filter_some, if_pos]
      by_contra hdropped
      exact hstays ((hgone _).mpr ⟨key, row, hget, Bool.eq_false_iff.mpr hdropped, rfl⟩)
    · rintro ⟨row, hget, rfl, hcovered⟩
      rw [OrderedMap.get_filter_eq_some_iff] at hget
      refine ⟨⟨row, hget.1, rfl, hcovered⟩, fun hmem => ?_⟩
      -- a row that is deleted has the label of this one, so it is this one
      obtain ⟨other, dropped, hother, hdropped, hlabel⟩ := (hgone _).mp hmem
      obtain rfl := hindex.distinct hother hget.1 hlabel
      rw [hget.1] at hother
      obtain rfl := Option.some.inj hother
      rw [hget.2] at hdropped
      cases hdropped

/-- Only what rows and index answer matters. -/
theorem congr (hindex : PartialIndex rows index label covers) {newRows : OrderedMap κ ν}
    {newIndex : OrderedMap τ κ} (hrows : ∀ key, newRows.get key = rows.get key)
    (hentries : ∀ token, newIndex.get token = index.get token) :
    PartialIndex newRows newIndex label covers where
  distinct {key other row otherRow} hfirst hsecond hlabel := by
    rw [hrows] at hfirst hsecond
    exact hindex.distinct hfirst hsecond hlabel
  exact {token key} := by
    rw [hentries, hrows]
    exact hindex.exact

/-- A covered row changes and its entry is written again. -/
theorem refresh (hindex : PartialIndex rows index label covers) {key : κ} {old new : ν}
    (hget : rows.get key = some old) (hlabel : label new = label old) (hold : covers old)
    (hnew : covers new) :
    PartialIndex (rows.set key new) (index.set (label new) key) label covers := by
  apply (hindex.update hget hlabel (iff_of_true hnew hold)).congr (fun _ => rfl)
  intro token
  rw [OrderedMap.get_set]
  split
  · next heq =>
      rw [heq, hlabel]
      exact (hindex.exact.mpr ⟨old, hget, rfl, hold⟩).symm
  · rfl

/-- A row gets a new label, and is covered from now on. -/
theorem relabel (hindex : PartialIndex rows index label covers) {key : κ} {old new : ν}
    (hget : rows.get key = some old)
    (hlabel : ∀ {other row}, rows.get other = some row → label row ≠ label new)
    (hcovers : covers new) :
    PartialIndex (rows.set key new) ((index.erase (label old)).set (label new) key) label
      covers := by
  have herased := hindex.erase hget
  have hinserted : PartialIndex ((rows.erase key).set key new)
      ((index.erase (label old)).set (label new) key) label covers := by
    apply herased.insert
    · exact OrderedMap.get_erase_self _ _
    · intro other row hother
      rw [OrderedMap.get_erase] at hother
      split at hother
      · cases hother
      · exact hlabel hother
    · exact hcovers
  apply hinserted.congr _ (fun _ => rfl)
  intro other
  rw [OrderedMap.get_set, OrderedMap.get_set, OrderedMap.get_erase]
  split
  · rfl
  · rfl

/-! ## An index made anew -/

section Rebuild

variable [DecidablePred covers]

/-- `if covers(row) then index[label(row)] = key`. -/
def indexRow (label : ν → τ) (covers : ν → Prop) [DecidablePred covers] (index : OrderedMap τ κ)
    (entry : κ × ν) : OrderedMap τ κ :=
  if covers entry.2 then index.set (label entry.2) entry.1 else index

omit [DecidableEq κ] in
/-- The entries of an index after one walk over rows that have labels of their own. -/
theorem get_foldl_indexRow {entries : List (κ × ν)}
    (hdistinct : ∀ entry ∈ entries, ∀ other ∈ entries, covers entry.2 → covers other.2 →
      label entry.2 = label other.2 → entry.1 = other.1) (index : OrderedMap τ κ) (token : τ)
    (key : κ) :
    (entries.foldl (indexRow label covers) index).get token = some key ↔
      (∃ entry ∈ entries, entry.1 = key ∧ covers entry.2 ∧ label entry.2 = token) ∨
        (index.get token = some key ∧
          ∀ entry ∈ entries, covers entry.2 → label entry.2 ≠ token) := by
  induction entries generalizing index with
  | nil => simp
  | cons first rest ih =>
      have hrest := ih (fun entry hentry other hother =>
        hdistinct entry (List.mem_cons_of_mem _ hentry) other (List.mem_cons_of_mem _ hother))
        (indexRow label covers index first)
      rw [List.foldl_cons, hrest, List.exists_mem_cons_iff, List.forall_mem_cons]
      unfold indexRow
      by_cases hcovers : covers first.2
      · rw [if_pos hcovers, OrderedMap.get_set]
        by_cases hlabel : token = label first.2
        · -- a later row with this label has the key of this one
          subst hlabel
          have hlater : ∀ entry ∈ rest, covers entry.2 → label entry.2 = label first.2 →
              first.1 = entry.1 := fun entry hentry hcovered hsame =>
            hdistinct first List.mem_cons_self entry (List.mem_cons_of_mem _ hentry) hcovers
              hcovered hsame.symm
          rw [if_pos rfl]
          constructor
          · rintro (hfound | ⟨hkey, -⟩)
            · exact Or.inl (Or.inr hfound)
            · exact Or.inl (Or.inl ⟨Option.some_inj.mp hkey, hcovers, rfl⟩)
          · rintro ((⟨hkey, -, -⟩ | hfound) | ⟨-, hnone, -⟩)
            · by_cases hagain : ∃ entry ∈ rest, covers entry.2 ∧ label entry.2 = label first.2
              · obtain ⟨entry, hentry, hcovered, hsame⟩ := hagain
                exact Or.inl ⟨entry, hentry, (hlater entry hentry hcovered hsame).symm.trans hkey,
                  hcovered, hsame⟩
              · exact Or.inr ⟨congrArg some hkey, fun entry hentry hcovered hsame =>
                  hagain ⟨entry, hentry, hcovered, hsame⟩⟩
            · exact Or.inl hfound
            · exact absurd rfl (hnone hcovers)
        · rw [if_neg hlabel]
          have hother : label first.2 ≠ token := fun heq => hlabel heq.symm
          simp [hcovers, hother]
      · simp [hcovers]

/-- **The index that a walk over all rows makes** has the covered rows. -/
theorem rebuild {entries : List (κ × ν)} (hperm : entries.Perm rows.entries)
    (hdistinct : ∀ {key other row otherRow}, rows.get key = some row →
      rows.get other = some otherRow → label row = label otherRow → key = other) :
    PartialIndex rows (entries.foldl (indexRow label covers) ∅) label covers where
  distinct := hdistinct
  exact {token key} := by
    have hmem : ∀ {entry}, entry ∈ entries → rows.get entry.1 = some entry.2 := fun hentry =>
      OrderedMap.get_eq_some_iff.mpr (hperm.mem_iff.mp hentry)
    rw [get_foldl_indexRow]
    · constructor
      · rintro (⟨entry, hentry, rfl, hcovered, hlabel⟩ | ⟨hnone, -⟩)
        · exact ⟨entry.2, hmem hentry, hlabel, hcovered⟩
        · cases hnone
      · rintro ⟨row, hget, hlabel, hcovered⟩
        exact Or.inl ⟨(key, row), hperm.mem_iff.mpr (OrderedMap.get_eq_some_iff.mp hget), rfl,
          hcovered, hlabel⟩
    · intro entry hentry other hother _ _ hsame
      exact hdistinct (hmem hentry) (hmem hother) hsame

end Rebuild

end PartialIndex

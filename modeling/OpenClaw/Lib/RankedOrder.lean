import OpenClaw.Lib.StableSort

/-!
# Comparators that change their key

A comparator that orders two elements by a rank when both have one, and by
something else when one of them has none, need not be transitive: an element
without a rank can stand between two that the ranks put the other way round.
`orderOn_iff` says that nothing else can go wrong, except in what the fallback
alone decides.
-/

namespace RankedOrder

open StableSort

variable {α ρ : Type*} (rank : α → Option ρ) (byRank : ρ → ρ → Ordering)
  (fallback : α → α → Ordering)

/-- By rank where both have one, else by the fallback. -/
def compareRanked (left right : α) : Ordering :=
  match rank left, rank right with
  | some leftRank, some rightRank => byRank leftRank rightRank
  | _, _ => fallback left right

/-- Elements with a rank that the fallback separates by one without are ranked
the way the fallback has them. -/
def NoneBetween (list : List α) : Prop :=
  ∀ a ∈ list, ∀ b ∈ list, ∀ c ∈ list, ∀ aRank bRank, rank a = some aRank → rank b = some bRank →
    rank c = none → Below fallback a c → Below fallback c b →
      Below byRank aRank bRank ∧
        (fallback a c = .lt ∨ fallback c b = .lt → byRank aRank bRank = .lt)

/-- Two of the three have no rank. -/
def FewRanked (a b c : α) : Prop :=
  rank a = none ∧ rank b = none ∨ rank a = none ∧ rank c = none ∨ rank b = none ∧ rank c = none

/-- The fallback is transitive where it alone decides. -/
def FallbackTrans (list : List α) : Prop :=
  ∀ a ∈ list, ∀ b ∈ list, ∀ c ∈ list, FewRanked rank a b c →
    Below fallback a b → Below fallback b c → Below fallback a c

variable {rank byRank fallback} {list : List α} {a b : α}

theorem compareRanked_of_some {aRank bRank : ρ} (ha : rank a = some aRank)
    (hb : rank b = some bRank) : compareRanked rank byRank fallback a b = byRank aRank bRank := by
  rw [compareRanked, ha, hb]

theorem compareRanked_of_none_left (ha : rank a = none) :
    compareRanked rank byRank fallback a b = fallback a b := by
  rw [compareRanked, ha]

theorem compareRanked_of_none_right (hb : rank b = none) :
    compareRanked rank byRank fallback a b = fallback a b := by
  unfold compareRanked
  rw [hb]
  cases rank a with
  | none => rfl
  | some aRank => rfl

section Orders

variable [Std.TransCmp byRank] [Std.OrientedCmp fallback]

theorem compareRanked_swap (a b : α) : compareRanked rank byRank fallback a b =
    (compareRanked rank byRank fallback b a).swap := by
  cases ha : rank a with
  | none =>
      rw [compareRanked_of_none_left ha, compareRanked_of_none_right ha]
      exact Std.OrientedCmp.eq_swap
  | some aRank =>
      cases hb : rank b with
      | none =>
          rw [compareRanked_of_none_right hb, compareRanked_of_none_left hb]
          exact Std.OrientedCmp.eq_swap
      | some bRank =>
          rw [compareRanked_of_some ha hb, compareRanked_of_some hb ha]
          exact Std.OrientedCmp.eq_swap

instance : Std.OrientedCmp (compareRanked rank byRank fallback) := ⟨compareRanked_swap _ _⟩

theorem lt_of_not_below {β : Type*} {cmp : β → β → Ordering} [Std.OrientedCmp cmp] {a b : β}
    (hnot : ¬Below cmp a b) : cmp b a = .lt := by
  have hswap : cmp b a = (cmp a b).swap := Std.OrientedCmp.eq_swap
  unfold Below at hnot
  cases hcmp : cmp a b with
  | lt => simp [hcmp] at hnot
  | eq => simp [hcmp] at hnot
  | gt => rw [hswap, hcmp, Ordering.swap_gt]

theorem not_below_of_lt {β : Type*} {cmp : β → β → Ordering} [Std.OrientedCmp cmp] {a b : β}
    (hlt : cmp a b = .lt) : ¬Below cmp b a := by
  have hswap : cmp b a = (cmp a b).swap := Std.OrientedCmp.eq_swap
  rw [Below, hswap, hlt]
  simp

theorem below_of_lt {β : Type*} {cmp : β → β → Ordering} {a b : β} (hlt : cmp a b = .lt) :
    Below cmp a b := Ordering.isLE_of_eq_lt hlt

/-- Two ranked elements around one without a rank stand as the ranks have them. -/
private theorem noneBetween_of_orderOn
    (horder : OrderOn (compareRanked rank byRank fallback) list) :
    NoneBetween rank byRank fallback list := by
  intro a ha b hb c hc aRank bRank haRank hbRank hcRank hac hcb
  have hac' : compareRanked rank byRank fallback a c = fallback a c :=
    compareRanked_of_none_right hcRank
  have hcb' : compareRanked rank byRank fallback c b = fallback c b :=
    compareRanked_of_none_left hcRank
  have hab : Below (compareRanked rank byRank fallback) a b :=
    horder.trans a ha c hc b hb (by rwa [Below, hac']) (by rwa [Below, hcb'])
  have hrank := @compareRanked_of_some _ _ rank byRank fallback _ _ _ _ haRank hbRank
  refine ⟨by rwa [Below, hrank] at hab, fun hlt => ?_⟩
  by_contra hnot
  -- with equal ranks `b` stands below `a`, and `c` closes the cycle
  have hba : Below (compareRanked rank byRank fallback) b a := by
    by_contra hcontra
    exact hnot (hrank ▸ lt_of_not_below hcontra)
  rcases hlt with hlt | hlt
  · have hca := horder.trans c hc b hb a ha (by rwa [Below, hcb']) hba
    rw [Below, compareRanked_of_none_left hcRank] at hca
    exact not_below_of_lt hlt hca
  · have hbc := horder.trans b hb a ha c hc hba (by rwa [Below, hac'])
    rw [Below, compareRanked_of_none_right hcRank] at hbc
    exact not_below_of_lt hlt hbc

omit [Std.TransCmp byRank] [Std.OrientedCmp fallback] in
/-- Where two of three elements have no rank the comparator is the fallback. -/
private theorem fallbackTrans_of_orderOn
    (horder : OrderOn (compareRanked rank byRank fallback) list) :
    FallbackTrans rank fallback list := by
  intro a ha b hb c hc hfew hab hbc
  have htrans := horder.trans a ha b hb c hc
  unfold Below at *
  rcases hfew with ⟨haRank, hbRank⟩ | ⟨haRank, hcRank⟩ | ⟨hbRank, hcRank⟩
  · rw [compareRanked_of_none_left haRank, compareRanked_of_none_left hbRank,
      compareRanked_of_none_left haRank] at htrans
    exact htrans hab hbc
  · rw [compareRanked_of_none_left haRank, compareRanked_of_none_right hcRank,
      compareRanked_of_none_left haRank] at htrans
    exact htrans hab hbc
  · rw [compareRanked_of_none_right hbRank, compareRanked_of_none_left hbRank,
      compareRanked_of_none_right hcRank] at htrans
    exact htrans hab hbc

/-- **The comparator is an order exactly if no element without a rank stands
between two ranked ones in the wrong order**, and the fallback is one where it
alone decides. -/
theorem orderOn_iff : OrderOn (compareRanked rank byRank fallback) list ↔
    FallbackTrans rank fallback list ∧ NoneBetween rank byRank fallback list := by
  constructor
  · exact fun horder => ⟨fallbackTrans_of_orderOn horder, noneBetween_of_orderOn horder⟩
  · rintro ⟨hfallback, hbetween⟩
    refine ⟨fun a _ b _ => compareRanked_swap a b, fun a ha b hb c hc hab hbc => ?_⟩
    have hfew := hfallback a ha b hb c hc
    unfold Below at hab hbc hfew ⊢
    cases haRank : rank a with
    | none =>
        rw [compareRanked_of_none_left haRank] at hab ⊢
        cases hbRank : rank b with
        | none =>
            rw [compareRanked_of_none_left hbRank] at hbc
            exact hfew (Or.inl ⟨haRank, hbRank⟩) hab hbc
        | some bRank =>
            cases hcRank : rank c with
            | none =>
                rw [compareRanked_of_none_right hcRank] at hbc
                exact hfew (Or.inr (Or.inl ⟨haRank, hcRank⟩)) hab hbc
            | some cRank =>
                -- otherwise `c` would stand below `a`, and so below `b` also by rank
                rw [compareRanked_of_some hbRank hcRank] at hbc
                by_contra hnot
                have hca := lt_of_not_below hnot
                have hrank := (hbetween c hc b hb a ha cRank bRank hcRank hbRank haRank
                  (below_of_lt hca) hab).2 (Or.inl hca)
                exact not_below_of_lt hrank hbc
    | some aRank =>
        cases hbRank : rank b with
        | none =>
            rw [compareRanked_of_none_right hbRank] at hab
            rw [compareRanked_of_none_left hbRank] at hbc
            cases hcRank : rank c with
            | none =>
                rw [compareRanked_of_none_right hcRank]
                exact hfew (Or.inr (Or.inr ⟨hbRank, hcRank⟩)) hab hbc
            | some cRank =>
                rw [compareRanked_of_some haRank hcRank]
                exact (hbetween a ha c hc b hb aRank cRank haRank hcRank hbRank hab hbc).1
        | some bRank =>
            rw [compareRanked_of_some haRank hbRank] at hab
            cases hcRank : rank c with
            | none =>
                rw [compareRanked_of_none_right hcRank] at hbc ⊢
                by_contra hnot
                have hca := lt_of_not_below hnot
                have hrank := (hbetween b hb a ha c hc bRank aRank hbRank haRank hcRank hbc
                  (below_of_lt hca)).2 (Or.inr hca)
                exact not_below_of_lt hrank hab
            | some cRank =>
                rw [compareRanked_of_some hbRank hcRank] at hbc
                rw [compareRanked_of_some haRank hcRank]
                exact Std.TransCmp.isLE_trans hab hbc

end Orders

/-- With a fallback that is an order nothing else is needed. -/
theorem orderOn_iff_noneBetween [Std.TransCmp byRank] [Std.TransCmp fallback] :
    OrderOn (compareRanked rank byRank fallback) list ↔
      NoneBetween rank byRank fallback list := by
  rw [orderOn_iff]
  exact and_iff_right fun _ _ _ _ _ _ _ hab hbc => Std.TransCmp.isLE_trans hab hbc

end RankedOrder

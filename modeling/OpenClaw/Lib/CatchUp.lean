import OpenClaw.Lib.ContiguousPrefix
import OpenClaw.Lib.Steps

/-!
# Catching up by a cursor

A sender holds items with distinct numbers, a receiver has some of them already.  The
receiver reports its cursor, the contiguous prefix of the numbers it has seen, and the
sender sends the items above it.  Afterwards the receiver has every item
(`Receives.catch_up`): what is at the cursor or below was seen, and a number is seen in
the item that has it; what is above is sent.
-/

namespace CatchUp

open ContiguousPrefix Steps

variable {State Item : Type*}

/-- A receiver that takes in the items of a sender: while it is ready, an item it can
read arrives, and no item takes another one away. -/
structure Receives (receive : State → Item → State) (items : List Item)
    (Ready : State → Prop) (Readable : Item → Prop) (Has : State → Item → Prop) : Prop where
  ready : ∀ {state item}, Ready state → item ∈ items → Ready (receive state item)
  arrives : ∀ {state item}, Ready state → item ∈ items → Readable item →
    Has (receive state item) item
  keeps : ∀ {state item other}, Ready state → item ∈ items → other ∈ items → item ≠ other →
    Has state other → Has (receive state item) other

namespace Receives

variable {receive : State → Item → State} {items sent : List Item} {Ready : State → Prop}
  {Readable : Item → Prop} {Has : State → Item → Prop} {start : State} {item : Item}

theorem ready_run (hreceives : Receives receive items Ready Readable Has) (hsent : sent ⊆ items)
    (hstart : Ready start) : Ready (run receive start sent) := by
  induction sent generalizing start with
  | nil => exact hstart
  | cons head rest ih =>
      obtain ⟨hhead, hrest⟩ := List.cons_subset.mp hsent
      exact ih hrest (hreceives.ready hstart hhead)

/-- What is there or is sent is there in the end. -/
theorem has_run (hreceives : Receives receive items Ready Readable Has) (hsent : sent ⊆ items)
    (hstart : Ready start) (hitem : item ∈ items) (hreadable : Readable item)
    (hhas : Has start item ∨ item ∈ sent) : Has (run receive start sent) item := by
  induction sent generalizing start with
  | nil => exact hhas.resolve_right List.not_mem_nil
  | cons head rest ih =>
      obtain ⟨hhead, hrest⟩ := List.cons_subset.mp hsent
      refine ih hrest (hreceives.ready hstart hhead) ?_
      by_cases hsame : head = item
      · exact Or.inl (hsame ▸ hreceives.arrives hstart hhead (hsame ▸ hreadable))
      · refine hhas.imp (hreceives.keeps hstart hhead hitem hsame) fun hmem => ?_
        exact (List.mem_cons.mp hmem).resolve_left (Ne.symm hsame)

/-- **Nothing is missing in the end.** -/
theorem catch_up (hreceives : Receives receive items Ready Readable Has) (hsent : sent ⊆ items)
    (hstart : Ready start) {number : Item → ℕ} (hpos : ∀ item ∈ items, 1 ≤ number item)
    (hnumbers : (items.map number).Nodup) {cursor : ℕ} {seen : ℕ → Prop}
    (hcursor : IsCursor cursor seen)
    (hseen : ∀ k, 1 ≤ k → k ≤ cursor → seen k →
      ∃ item ∈ items, number item = k ∧ Has start item)
    (habove : ∀ item ∈ items, cursor < number item → item ∈ sent)
    (hitem : item ∈ items) (hreadable : Readable item) : Has (run receive start sent) item := by
  refine hreceives.has_run hsent hstart hitem hreadable ?_
  rcases Nat.lt_or_ge cursor (number item) with hlt | hle
  · exact Or.inr (habove item hitem hlt)
  · obtain ⟨other, hother, hsame, hhas⟩ :=
      hseen _ (hpos item hitem) hle (hcursor.seen_of_le (hpos item hitem) hle)
    -- numbers are distinct, so the item that was seen is this one
    obtain rfl := List.inj_on_of_nodup_map hnumbers hother hitem hsame
    exact Or.inl hhas

end Receives

end CatchUp

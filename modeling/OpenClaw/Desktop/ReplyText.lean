import Mathlib.Data.List.Chain
import OpenClaw.Desktop.GatewayRuns

/-!
# The text of a streamed reply

A reply comes in chat events.  Their texts are either all that was said so far or only what
is new, and `mergeOpenclawReplyText` guesses which: a text that contains the buffered one
replaces it, one that is contained in it is dropped, and any other is appended.  All of them
are trimmed first.

For texts that grow the guess is right (`foldl_merge_snapshots`).  For pieces it is right
exactly as long as no piece contains what came before it or is contained in that, and no
blank stands at a border (`foldl_merge_deltas_iff`): every other piece loses something, and
nothing is ever gained.
-/

namespace OpenClaw.Desktop

open OpenClaw.Runtime

section Merge

variable {existing next : String}

/-! ## One text -/

/-- Only the trimmed texts matter. -/
theorem merge_trim_left : mergeOpenclawReplyText (unicodeTrim existing) next =
    mergeOpenclawReplyText existing next := by
  have hexisting : unicodeTrim (unicodeTrim existing) = unicodeTrim existing := trim_trim existing
  unfold mergeOpenclawReplyText
  rw [hexisting]

theorem merge_of_blank_left (hempty : unicodeTrim existing = "") :
    mergeOpenclawReplyText existing next = unicodeTrim next := by
  unfold mergeOpenclawReplyText
  dsimp only
  rw [if_pos hempty]

theorem merge_of_blank_right (hblank : unicodeTrim next = "") :
    mergeOpenclawReplyText existing next = unicodeTrim existing := by
  by_cases hempty : unicodeTrim existing = ""
  · rw [merge_of_blank_left hempty, hblank, hempty]
  · unfold mergeOpenclawReplyText
    dsimp only
    rw [if_neg hempty, if_pos hblank]

/-- The buffered text and the next one have nothing to do with each other. -/
def Unrelated (existing next : String) : Prop :=
  ¬(unicodeTrim existing).toList <:+: (unicodeTrim next).toList ∧
    ¬(unicodeTrim next).toList <:+: (unicodeTrim existing).toList

theorem merge_of_unrelated (hempty : unicodeTrim existing ≠ "") (hblank : unicodeTrim next ≠ "")
    (hunrelated : Unrelated existing next) :
    mergeOpenclawReplyText existing next = unicodeTrim existing ++ unicodeTrim next := by
  have hne : unicodeTrim existing ≠ unicodeTrim next := by
    intro heq
    apply hunrelated.1
    rw [heq]
  unfold mergeOpenclawReplyText
  dsimp only
  rw [if_neg hempty, if_neg hblank, if_neg hne, if_neg hunrelated.1, if_neg hunrelated.2]

/-- Merging makes the text longer by the next one, or by less. -/
theorem length_merge_lt (hempty : unicodeTrim existing ≠ "") (hblank : unicodeTrim next ≠ "")
    (hrelated : ¬Unrelated existing next) :
    (mergeOpenclawReplyText existing next).length <
      (unicodeTrim existing).length + (unicodeTrim next).length := by
  have hleft : (unicodeTrim existing).length ≠ 0 := mt String.length_eq_zero_iff.mp hempty
  have hright : (unicodeTrim next).length ≠ 0 := mt String.length_eq_zero_iff.mp hblank
  unfold mergeOpenclawReplyText
  dsimp only
  rw [if_neg hempty, if_neg hblank]
  split_ifs with hsame hlonger hshorter
  · omega
  · omega
  · omega
  · exact absurd ⟨hlonger, hshorter⟩ hrelated

theorem length_merge_le : (mergeOpenclawReplyText existing next).length ≤
    (unicodeTrim existing).length + (unicodeTrim next).length := by
  by_cases hempty : unicodeTrim existing = ""
  · rw [merge_of_blank_left hempty]
    omega
  by_cases hblank : unicodeTrim next = ""
  · rw [merge_of_blank_right hblank]
    omega
  by_cases hunrelated : Unrelated existing next
  · rw [merge_of_unrelated hempty hblank hunrelated, String.length_append]
  · exact (length_merge_lt hempty hblank hunrelated).le

end Merge

/-! ## In the handlers -/

section Handlers

variable {runs : GatewayRuns} {primaryRunId : String} {entry : PendingOpenClawRun}

theorem get_handleDelta {handling : Handling} (now : ℕ)
    (hget : runs.pendingRuns.get handling.primaryRunId = some entry)
    (htrim : unicodeTrim entry.bufferedText = entry.bufferedText) :
    ∃ entry', (handleDelta runs now handling).pendingRuns.get handling.primaryRunId =
        some entry' ∧
      entry'.bufferedText = mergeOpenclawReplyText entry.bufferedText handling.text := by
  unfold handleDelta
  split
  · next hempty =>
      -- an event without a text is left out, and merging would change nothing
      have hblank : unicodeTrim handling.text = "" := by
        rw [hempty]
        exact trim_empty
      refine ⟨entry, hget, ?_⟩
      rw [merge_of_blank_right hblank, htrim]
  · rw [hget]
    exact ⟨_, OrderedMap.get_set_self _ _ _, rfl⟩

/-- The texts of a run are merged in the order its events are handled in. -/
theorem get_handleDeltas (deltas : List (ℕ × Handling))
    (hrun : ∀ delta ∈ deltas, delta.2.primaryRunId = primaryRunId)
    (hget : runs.pendingRuns.get primaryRunId = some entry)
    (htrim : unicodeTrim entry.bufferedText = entry.bufferedText) :
    ∃ entry', (deltas.foldl (fun runs delta => handleDelta runs delta.1 delta.2)
        runs).pendingRuns.get primaryRunId = some entry' ∧
      entry'.bufferedText = (deltas.map fun delta => delta.2.text).foldl mergeOpenclawReplyText
        entry.bufferedText := by
  induction deltas generalizing runs entry with
  | nil => exact ⟨entry, hget, rfl⟩
  | cons delta rest ih =>
      have hdelta : delta.2.primaryRunId = primaryRunId := hrun delta List.mem_cons_self
      rw [← hdelta] at hget
      obtain ⟨merged, hmerged, htext⟩ := get_handleDelta delta.1 hget htrim
      rw [hdelta] at hmerged
      have htrim' : unicodeTrim merged.bufferedText = merged.bufferedText := by
        rw [htext]
        exact trim_mergeOpenclawReplyText _ _
      obtain ⟨entry', hentry', htext'⟩ :=
        ih (fun other hother => hrun other (List.mem_cons_of_mem _ hother)) hmerged htrim'
      refine ⟨entry', hentry', ?_⟩
      rw [htext', htext]
      rfl

/-- The final event of a run hands on what was merged. -/
theorem tasks_handleFinal {handling : Handling} (now : ℕ)
    (hget : runs.pendingRuns.get handling.primaryRunId = some entry)
    (htext : mergeOpenclawReplyText entry.bufferedText handling.text ≠ "") :
    (handleFinal runs now handling).tasks = runs.tasks ++
      [.mirror handling (mergeOpenclawReplyText entry.bufferedText handling.text)] := by
  have hblank : unicodeTrim (mergeOpenclawReplyText entry.bufferedText handling.text) ≠ "" := by
    rw [trim_mergeOpenclawReplyText]
    exact htext
  unfold handleFinal
  rw [hget]
  dsimp only
  rw [if_neg hblank]
  rfl

/-- **The reply** of a run that had nothing buffered is merged from the texts of its delta
events and the final one. -/
theorem mirror_of_events (deltas : List (ℕ × Handling)) {final : Handling} (now : ℕ)
    (hrun : ∀ delta ∈ deltas, delta.2.primaryRunId = final.primaryRunId)
    (hget : runs.pendingRuns.get final.primaryRunId = some entry) (hempty : entry.bufferedText = "")
    (htext : ((deltas.map fun delta => delta.2.text) ++ [final.text]).foldl
      mergeOpenclawReplyText "" ≠ "") :
    .mirror final (((deltas.map fun delta => delta.2.text) ++ [final.text]).foldl
        mergeOpenclawReplyText "") ∈
      (handleFinal (deltas.foldl (fun runs delta => handleDelta runs delta.1 delta.2) runs) now
        final).tasks := by
  have htrim : unicodeTrim entry.bufferedText = entry.bufferedText := by
    rw [hempty]
    exact trim_empty
  obtain ⟨entry', hget', hbuffered⟩ := get_handleDeltas deltas hrun hget htrim
  rw [hempty] at hbuffered
  rw [List.foldl_append, List.foldl_cons, List.foldl_nil, ← hbuffered] at htext ⊢
  rw [tasks_handleFinal now hget' htext]
  exact List.mem_append_right _ (List.mem_singleton.mpr rfl)

end Handlers

/-! ## A reply in pieces -/

/-- The next piece goes with the text before it: one of them is blank, or there is no blank
between them and neither contains the other. -/
def Continues (before next : String) : Prop :=
  unicodeTrim before = "" ∨ unicodeTrim next = "" ∨
    unicodeTrim (before ++ next) = unicodeTrim before ++ unicodeTrim next ∧ Unrelated before next

/-- Every piece goes with all the text before it. -/
def Continuous (deltas : List String) : Prop :=
  ∀ before delta after, deltas = before ++ delta :: after → Continues (String.join before) delta

section Pieces

variable {before next buffered : String} {deltas : List String} {delta : String}

/-- The trimmed texts are in the trimmed whole. -/
theorem length_trim_append_le :
    (unicodeTrim before).length + (unicodeTrim next).length ≤
      (unicodeTrim (before ++ next)).length := by
  by_cases hbefore : unicodeTrim before = ""
  · have htrim : unicodeTrim (before ++ next) = unicodeTrim next := trim_blank_append hbefore
    rw [htrim, hbefore, String.length_empty]
    omega
  by_cases hnext : unicodeTrim next = ""
  · have htrim : unicodeTrim (before ++ next) = unicodeTrim before := trim_append_blank hnext
    rw [htrim, hnext, String.length_empty]
    omega
  · obtain ⟨gap, hgap⟩ := trim_append hbefore hnext
    have htrim : unicodeTrim (before ++ next) = unicodeTrim before ++ gap ++ unicodeTrim next :=
      hgap
    rw [htrim, String.length_append, String.length_append]
    omega

/-- What continues the text before it is merged as it should be. -/
theorem merge_of_continues (hcontinues : Continues before next) :
    mergeOpenclawReplyText (unicodeTrim before) next = unicodeTrim (before ++ next) := by
  rw [merge_trim_left]
  rcases hcontinues with hbefore | hnext | ⟨htrim, hunrelated⟩
  · rw [merge_of_blank_left hbefore]
    exact (trim_blank_append hbefore).symm
  · rw [merge_of_blank_right hnext]
    exact (trim_append_blank hnext).symm
  · by_cases hbefore : unicodeTrim before = ""
    · rw [merge_of_blank_left hbefore]
      exact (trim_blank_append hbefore).symm
    by_cases hnext : unicodeTrim next = ""
    · rw [merge_of_blank_right hnext]
      exact (trim_append_blank hnext).symm
    · rw [merge_of_unrelated hbefore hnext hunrelated, htrim]

/-- What is not lost continues the text before it. -/
theorem continues_of_length
    (hlength : (unicodeTrim (before ++ next)).length ≤
      (mergeOpenclawReplyText (unicodeTrim before) next).length) : Continues before next := by
  rw [merge_trim_left] at hlength
  by_cases hbefore : unicodeTrim before = ""
  · exact .inl hbefore
  by_cases hnext : unicodeTrim next = ""
  · exact .inr (.inl hnext)
  obtain ⟨gap, hgap⟩ := trim_append hbefore hnext
  have htrim : unicodeTrim (before ++ next) = unicodeTrim before ++ gap ++ unicodeTrim next := hgap
  have hsum := congrArg String.length htrim
  rw [String.length_append, String.length_append] at hsum
  refine .inr (.inr ⟨?_, ?_⟩)
  · have hle := @length_merge_le before next
    have hnone : gap = "" := by
      rw [← String.length_eq_zero_iff]
      omega
    rw [htrim, hnone, String.append_empty]
  · by_contra hrelated
    have hlt := length_merge_lt hbefore hnext hrelated
    omega

theorem join_concat (deltas : List String) (delta : String) :
    String.join (deltas ++ [delta]) = String.join deltas ++ delta := by
  simp

theorem foldl_merge_concat (deltas : List String) (delta : String) :
    (deltas ++ [delta]).foldl mergeOpenclawReplyText "" =
      mergeOpenclawReplyText (deltas.foldl mergeOpenclawReplyText "") delta := by
  rw [List.foldl_append, List.foldl_cons, List.foldl_nil]

theorem continuous_concat_iff :
    Continuous (deltas ++ [delta]) ↔
      Continuous deltas ∧ Continues (String.join deltas) delta := by
  constructor
  · intro hcontinuous
    refine ⟨?_, hcontinuous deltas delta [] rfl⟩
    intro before next after hsplit
    apply hcontinuous before next (after ++ [delta])
    rw [hsplit, List.append_assoc, List.cons_append]
  · rintro ⟨hcontinuous, hlast⟩ before next after hsplit
    rcases List.eq_nil_or_concat after with rfl | ⟨rest, other, rfl⟩
    · obtain ⟨rfl, hnext⟩ := List.append_inj' hsplit rfl
      rw [← List.singleton_inj.mp hnext]
      exact hlast
    · rw [List.concat_eq_append, ← List.cons_append, ← List.append_assoc] at hsplit
      exact hcontinuous before next rest (List.append_inj' hsplit rfl).1

theorem trim_foldl_merge (deltas : List String) :
    unicodeTrim (deltas.foldl mergeOpenclawReplyText "") =
      deltas.foldl mergeOpenclawReplyText "" := by
  induction deltas using List.reverseRecOn with
  | nil => exact trim_empty
  | append_singleton deltas delta ih =>
      rw [foldl_merge_concat]
      exact trim_mergeOpenclawReplyText _ _

/-- Nothing is gained, and where nothing is lost every piece continued the text before
it. -/
theorem length_foldl_merge (deltas : List String) :
    (deltas.foldl mergeOpenclawReplyText "").length ≤ (unicodeTrim (String.join deltas)).length ∧
      ((unicodeTrim (String.join deltas)).length ≤
          (deltas.foldl mergeOpenclawReplyText "").length →
        deltas.foldl mergeOpenclawReplyText "" = unicodeTrim (String.join deltas) ∧
          Continuous deltas) := by
  induction deltas using List.reverseRecOn with
  | nil =>
      have hempty : unicodeTrim (String.join []) = "" := trim_empty
      rw [hempty]
      refine ⟨le_rfl, fun _ => ⟨rfl, ?_⟩⟩
      intro before delta after hsplit
      cases before <;> cases hsplit
  | append_singleton deltas delta ih =>
      obtain ⟨hle, hkept⟩ := ih
      have htrim := trim_foldl_merge deltas
      rw [foldl_merge_concat, join_concat]
      set buffered := deltas.foldl mergeOpenclawReplyText ""
      have hmerge := @length_merge_le buffered delta
      have hwhole := @length_trim_append_le (String.join deltas) delta
      rw [htrim] at hmerge
      refine ⟨by omega, fun hlength => ?_⟩
      -- what the whole text has, the buffered one must have had
      obtain ⟨hsame, hcontinuous⟩ := hkept (by omega)
      rw [hsame] at hlength ⊢
      have hcontinues := continues_of_length hlength
      exact ⟨merge_of_continues hcontinues, continuous_concat_iff.mpr ⟨hcontinuous, hcontinues⟩⟩

theorem foldl_merge_of_continuous (hcontinuous : Continuous deltas) :
    deltas.foldl mergeOpenclawReplyText "" = unicodeTrim (String.join deltas) := by
  induction deltas using List.reverseRecOn with
  | nil => exact (trim_empty).symm
  | append_singleton deltas delta ih =>
      obtain ⟨hbefore, hlast⟩ := continuous_concat_iff.mp hcontinuous
      rw [foldl_merge_concat, join_concat, ih hbefore, merge_of_continues hlast]

end Pieces

/-- **Incremental streaming** keeps a reply, up to the blanks around it, exactly if every
piece goes with the text before it. -/
theorem foldl_merge_deltas_iff (deltas : List String) :
    unicodeTrim (deltas.foldl mergeOpenclawReplyText "") = unicodeTrim (String.join deltas) ↔
      Continuous deltas := by
  rw [trim_foldl_merge]
  constructor
  · intro hsame
    exact ((length_foldl_merge deltas).2 (by rw [hsame])).2
  · exact foldl_merge_of_continuous

/-- "ha" and "ha" is "haha", not "ha". -/
theorem repeated_delta_is_dropped : ¬∀ deltas : List String, (∀ delta ∈ deltas, delta ≠ "") →
    unicodeTrim (deltas.foldl mergeOpenclawReplyText "") = unicodeTrim (String.join deltas) := by
  intro hall
  have hne : ∀ delta ∈ ["ha", "ha"], delta ≠ "" := by
    intro delta hdelta
    have hha : delta = "ha" := by simpa using hdelta
    rw [hha]
    decide
  have hsame := hall ["ha", "ha"] hne
  revert hsame
  decide +kernel

/-! ## A reply that grows -/

section Snapshots

variable {before next : String}

/-- A text that grew is trimmed to one that grew. -/
theorem trim_prefix (hway : before.toList <+: next.toList) :
    (unicodeTrim before).toList <+: (unicodeTrim next).toList := by
  obtain ⟨rest, hrest⟩ := hway
  have hnext : next = before ++ String.ofList rest := by
    apply String.toList_injective
    rw [String.toList_append, String.toList_ofList, hrest]
  by_cases hbefore : unicodeTrim before = ""
  · rw [hbefore]
    exact List.nil_prefix
  by_cases hblank : unicodeTrim (String.ofList rest) = ""
  · have htrim : unicodeTrim next = unicodeTrim before := by
      rw [hnext]
      exact trim_append_blank hblank
    rw [htrim]
  · obtain ⟨gap, hgap⟩ := trim_append hbefore hblank
    have htrim : unicodeTrim next =
        unicodeTrim before ++ gap ++ unicodeTrim (String.ofList rest) := by
      rw [hnext]
      exact hgap
    rw [htrim, String.toList_append, String.toList_append, List.append_assoc]
    exact List.prefix_append _ _

/-- A text that grew replaces what is buffered of it. -/
theorem merge_of_prefix (hway : before.toList <+: next.toList) :
    mergeOpenclawReplyText (unicodeTrim before) next = unicodeTrim next := by
  have htrim := trim_prefix hway
  rw [merge_trim_left]
  by_cases hempty : unicodeTrim before = ""
  · exact merge_of_blank_left hempty
  have hblank : unicodeTrim next ≠ "" := by
    intro hnext
    rw [hnext] at htrim
    exact hempty (String.toList_injective (List.prefix_nil.mp htrim))
  unfold mergeOpenclawReplyText
  dsimp only
  rw [if_neg hempty, if_neg hblank, if_pos htrim.isInfix]
  split_ifs with hsame
  · exact hsame
  · rfl

theorem foldl_merge_snapshots {snapshots : List String}
    (hgrows : snapshots.IsChain fun before next => before.toList <+: next.toList) :
    snapshots.foldl mergeOpenclawReplyText "" = unicodeTrim (snapshots.getLastD "") := by
  induction snapshots using List.reverseRecOn with
  | nil => exact (trim_empty).symm
  | append_singleton snapshots snapshot ih =>
      rw [List.isChain_append] at hgrows
      rw [foldl_merge_concat, ih hgrows.1, List.getLastD_concat]
      apply merge_of_prefix
      rcases List.eq_nil_or_concat snapshots with rfl | ⟨rest, last, rfl⟩
      · exact List.nil_prefix
      · rw [List.concat_eq_append, List.getLastD_concat]
        exact hgrows.2.2 last (by simp) snapshot (by simp)

end Snapshots

/-- **Cumulative streaming** keeps a reply: after texts that grow, and a last one that is empty
or grew once more, the longest of them is buffered, trimmed. -/
theorem foldl_merge_final {snapshots : List String} {final : String}
    (hgrows : snapshots.IsChain fun before next => before.toList <+: next.toList)
    (hfinal : final = "" ∨ (snapshots.getLastD "").toList <+: final.toList) :
    (snapshots ++ [final]).foldl mergeOpenclawReplyText "" =
      unicodeTrim (if final = "" then snapshots.getLastD "" else final) := by
  rw [foldl_merge_concat, foldl_merge_snapshots hgrows]
  split_ifs with hempty
  · have hblank : unicodeTrim final = "" := by
      rw [hempty]
      exact trim_empty
    rw [merge_trim_left, merge_of_blank_right hblank]
  · exact merge_of_prefix (hfinal.resolve_left hempty)

/-- A greeting, with a blank at the end for a while. -/
theorem foldl_merge_greeting :
    ["", "He", "Hello ", "Hello w", ""].foldl mergeOpenclawReplyText "" = "Hello w" := by
  have hgrows : ["", "He", "Hello ", "Hello w"].IsChain fun before next =>
      before.toList <+: next.toList := by
    decide +kernel
  have hlast : unicodeTrim "Hello w" = "Hello w" := by decide +kernel
  exact (@foldl_merge_final ["", "He", "Hello ", "Hello w"] "" hgrows (.inl rfl)).trans hlast

end OpenClaw.Desktop

import OpenClaw.Mobile.ChatGraph

/-!
# What reconciling a session keeps

Reconciling leaves one message of every trimmed id, so the logs it works on have
distinct chat ids; `SessionLog` carries that as a field.  On such a log it is a
permutation of the normalized messages (`reconcile_perm`), and therefore keeps
every number a message carries.
-/

namespace OpenClaw.Mobile

open OpenClaw.Runtime StableSort

variable {choices : Choices} {message : ChatMessage} {messages : List ChatMessage}
  {origin : Origin} {n : ℕ} {nodes : List MessageLike}

/-! ## The numbers of a log -/

/-- The message is number `n` of the origin. -/
def Carries (origin : Origin) (n : ℕ) (message : ChatMessage) : Prop :=
  message.kind ≠ .system ∧ jsTrim message.id ≠ "" ∧ normalizeOrigin message = origin ∧
    normalizeOriginSeq message = n

instance (origin : Origin) (n : ℕ) : DecidablePred (Carries origin n) := fun _ =>
  inferInstanceAs (Decidable (_ ∧ _ ∧ _ ∧ _))

theorem jsTrim_jsTrim (text : String) : jsTrim (jsTrim text) = jsTrim text := trim_trim text

theorem normalizeAfterIds_idem (values : List String) :
    normalizeAfterIds (normalizeAfterIds values) = normalizeAfterIds values :=
  ofList_trimmed_idem values

@[simp] theorem id_normalize : (normalizeChatMessage message).id = jsTrim message.id := rfl

@[simp] theorem kind_normalize : (normalizeChatMessage message).kind = message.kind := rfl

theorem normalizeOrigin_normalize (hkind : message.kind ≠ .system) :
    normalizeOrigin (normalizeChatMessage message) = normalizeOrigin message := by
  have horigin : (normalizeChatMessage message).origin = some (normalizeOrigin message) :=
    if_neg hkind
  rw [normalizeOrigin, horigin]
  cases normalizeOrigin message with
  | host => rfl
  | mobile => rfl

theorem normalizeOriginSeq_normalize (hkind : message.kind ≠ .system) :
    normalizeOriginSeq (normalizeChatMessage message) = normalizeOriginSeq message := by
  have hseq : (normalizeChatMessage message).originSeq = .ofCount (normalizeOriginSeq message) :=
    if_neg hkind
  rw [normalizeOriginSeq, hseq, JsNumber.count_ofCount]

/-- A message and its normal form carry the same numbers. -/
theorem carries_normalize :
    Carries origin n (normalizeChatMessage message) ↔ Carries origin n message := by
  unfold Carries
  rw [kind_normalize, id_normalize, jsTrim_jsTrim]
  refine and_congr_right fun hkind => ?_
  rw [normalizeOrigin_normalize hkind, normalizeOriginSeq_normalize hkind]

theorem carries_finish {missingIds : List String} :
    Carries origin n (finishMessage missingIds message) ↔ Carries origin n message := Iff.rfl

theorem mem_extractChatMessages :
    message ∈ extractChatMessages messages ↔
      ∃ old ∈ messages, normalizeChatMessage old = message ∧ old.kind ≠ .system ∧
        jsTrim old.id ≠ "" := by
  unfold extractChatMessages
  rw [List.mem_filter, List.mem_map, decide_eq_true_eq]
  constructor
  · rintro ⟨⟨old, hold, rfl⟩, hchat⟩
    exact ⟨old, hold, rfl, hchat⟩
  · rintro ⟨old, hold, rfl, hchat⟩
    exact ⟨⟨old, hold, rfl⟩, hchat⟩

theorem mem_originNumbers :
    (n : ℕ∞) ∈ originNumbers (extractChatMessages messages) origin ↔
      0 < n ∧ ∃ message ∈ messages, Carries origin n message := by
  unfold originNumbers
  rw [List.mem_filter, List.mem_map, decide_eq_true_eq, Nat.cast_pos, and_comm]
  refine and_congr_right fun _ => ?_
  constructor
  · rintro ⟨message, hmessage, hseq⟩
    obtain ⟨hextracted, horigin⟩ := List.mem_filter.mp hmessage
    obtain ⟨old, hold, rfl, hkind, hid⟩ := mem_extractChatMessages.mp hextracted
    rw [decide_eq_true_eq, normalizeOrigin_normalize hkind] at horigin
    rw [normalizeOriginSeq_normalize hkind] at hseq
    exact ⟨old, hold, hkind, hid, horigin, hseq⟩
  · rintro ⟨message, hmem, hkind, hid, horigin, hseq⟩
    refine ⟨normalizeChatMessage message, List.mem_filter.mpr ⟨?_, ?_⟩, ?_⟩
    · exact mem_extractChatMessages.mpr ⟨message, hmem, rfl, hkind, hid⟩
    · rw [decide_eq_true_eq, normalizeOrigin_normalize hkind, horigin]
    · rw [normalizeOriginSeq_normalize hkind, hseq]

/-- **The cursor without its loop.** -/
theorem isCursor_contiguousSeq :
    ContiguousPrefix.IsCursor (contiguousSeq (extractChatMessages messages) origin) fun n =>
      ∃ message ∈ messages, Carries origin n message := by
  have hnodup : (sortBy compare (OrderedSet.ofList
      (originNumbers (extractChatMessages messages) origin))).Nodup :=
    nodup_sortBy (OrderedSet.nodup_ofList _)
  have hsorted : (sortBy compare (OrderedSet.ofList
      (originNumbers (extractChatMessages messages) origin))).Pairwise (· < ·) := by
    have hle : (sortBy compare (OrderedSet.ofList
        (originNumbers (extractChatMessages messages) origin))).Pairwise (· ≤ ·) :=
      (pairwise_sortBy _).imp fun hle => compare_le_iff_le.mp (Ordering.ne_gt_iff_isLE.mpr hle)
    exact (hle.and hnodup).imp fun hboth => lt_of_le_of_ne hboth.1 hboth.2
  unfold contiguousSeq
  refine ContiguousPrefix.isCursor_contiguous ContiguousPrefix.gapless_natCast hsorted
    (fun value hvalue => ?_) fun n hn => ?_
  · rw [mem_sortBy, OrderedSet.mem_ofList, originNumbers, List.mem_filter] at hvalue
    exact of_decide_eq_true hvalue.2
  · rw [mem_sortBy, OrderedSet.mem_ofList, mem_originNumbers]
    exact and_iff_right hn

/-! ## The worklist orders every message -/

theorem compareMessageOrder_eq : compareMessageOrder choices =
    compareLex
      (fun left right : MessageLike =>
        compare (JsNumber.rank left.ts.orZero) (JsNumber.rank right.ts.orZero))
      (fun left right => choices.localeCompare left.id right.id) := by
  funext left right
  exact JsNumber.compare_rank_then _

instance : Std.TransCmp (compareMessageOrder choices) := by
  rw [compareMessageOrder_eq]
  have := choices.trans
  have hts := transCmp_pullback (compare : WithBot (WithTop ℚ) → WithBot (WithTop ℚ) → Ordering)
    fun message : MessageLike => JsNumber.rank message.ts.orZero
  have hid := transCmp_pullback choices.localeCompare MessageLike.id
  infer_instance

instance : Std.TransCmp (likeGraph choices nodes).cmp := by
  have hcmp : (likeGraph choices nodes).cmp = compareMessageOrder choices := rfl
  rw [hcmp]
  infer_instance

theorem wellFormed_likeGraph (choices : Choices) (hnodup : (nodes.map MessageLike.id).Nodup) :
    (likeGraph choices nodes).WellFormed where
  nodup_keys := hnodup
  nodup_parents _ _ := (OrderedSet.nodup_ofList _).filter _
  parent_known _ _ _ hp := of_decide_eq_true (List.mem_filter.mp hp).2

/-- **Ordering permutes.** -/
theorem orderLikes_perm (choices : Choices) (hnodup : (nodes.map MessageLike.id).Nodup) :
    (orderLikes choices nodes).Perm nodes := by
  have hemission := Kahn.emission_kahn (wellFormed_likeGraph choices hnodup)
  have hsub : ∀ node ∈ (likeGraph choices nodes).kahn, node ∈ nodes := fun _ hnode =>
    hemission.node_of_mem hnode
  have hleft : (orderLikes choices nodes).Nodup := by
    refine List.nodup_append.mpr
      ⟨hemission.nodup, nodup_sortBy (hnodup.of_map.filter _), ?_⟩
    intro node hnode other hother heq
    have hfresh := of_decide_eq_true (List.mem_filter.mp (mem_sortBy.mp hother)).2
    exact hfresh (List.mem_map_of_mem (heq ▸ hnode))
  refine (List.perm_ext_iff_of_nodup hleft hnodup.of_map).mpr fun node => ?_
  unfold orderLikes
  dsimp only
  rw [List.mem_append, mem_sortBy, List.mem_filter, decide_eq_true_eq]
  constructor
  · intro hnode
    rcases hnode with hkahn | hrest
    · exact hsub node hkahn
    · exact hrest.1
  · intro hnode
    by_cases hseen : node.id ∈ (likeGraph choices nodes).kahn.map MessageLike.id
    · -- a node with the id of an emitted one is that one
      obtain ⟨other, hother, heq⟩ := List.mem_map.mp hseen
      have hsame := List.inj_on_of_nodup_map hnodup (hsub other hother) hnode heq
      exact Or.inl (hsame ▸ hother)
    · exact Or.inr ⟨hnode, hseen⟩

/-! ## Reconciling permutes -/

/-- The trimmed ids of the chat messages. -/
def chatIds (messages : List ChatMessage) : List String :=
  (extractChatMessages messages).map ChatMessage.id

/-- A log whose chat messages have distinct ids, as reconciling leaves it. -/
structure SessionLog where
  messages : List ChatMessage
  nodup : (chatIds messages).Nodup

/-- The chat messages by id are the normalized ones. -/
theorem values_messagesOfKind_chat (hnodup : (chatIds messages).Nodup) :
    (messagesOfKind .chat messages).values = extractChatMessages messages := by
  have hfilter : ((messages.map normalizeChatMessage).filter fun message =>
      decide (message.id ≠ "" ∧ message.kind = .chat)) = extractChatMessages messages := by
    refine List.filter_congr fun message _ => ?_
    cases message.kind <;> simp
  have hkeys : (((extractChatMessages messages).map fun message =>
      (message.id, message)).map Prod.fst).Nodup := by
    rw [List.map_map]
    exact hnodup
  unfold messagesOfKind OrderedMap.values
  rw [hfilter, OrderedMap.entries_ofList hkeys, List.map_map]
  exact List.map_id _

theorem trim_extracted (hmem : message ∈ extractChatMessages messages) :
    jsTrim message.id = message.id ∧ message.id ≠ "" := by
  obtain ⟨old, -, rfl, -, hid⟩ := mem_extractChatMessages.mp hmem
  exact ⟨jsTrim_jsTrim _, hid⟩

/-- A message that is kept stands under its id, and is the normal form of one. -/
theorem key_messagesOfKind {kind : ChatKind} {id : String}
    (hget : (messagesOfKind kind messages).get id = some message) :
    message.id = id ∧ message.kind = kind ∧ id ≠ "" ∧
      ∃ old ∈ messages, normalizeChatMessage old = message := by
  obtain ⟨other, hother, heq⟩ := List.mem_map.mp (OrderedMap.mem_of_get_ofList hget)
  obtain ⟨rfl, rfl⟩ := Prod.mk.inj heq
  obtain ⟨hnormal, hkept⟩ := List.mem_filter.mp hother
  obtain ⟨old, hold, rfl⟩ := List.mem_map.mp hnormal
  obtain ⟨hid, hkind⟩ := of_decide_eq_true hkept
  exact ⟨rfl, hkind, hid, old, hold, rfl⟩

theorem trim_key {kind : ChatKind} {id : String}
    (hget : (messagesOfKind kind messages).get id = some message) : jsTrim id = id := by
  obtain ⟨rfl, -, -, old, -, rfl⟩ := key_messagesOfKind hget
  exact jsTrim_jsTrim old.id

theorem ids_messagesOfKind (kind : ChatKind) (messages : List ChatMessage) :
    (messagesOfKind kind messages).values.map ChatMessage.id =
      (messagesOfKind kind messages).keys := by
  rw [OrderedMap.values, OrderedMap.keys, List.map_map]
  refine List.map_congr_left fun entry hentry => ?_
  exact (key_messagesOfKind (OrderedMap.get_eq_some_iff.mpr hentry)).1

/-- The nodes of the graph have the ids of the messages, in their order. -/
theorem ids_likeById (kind : ChatKind) (messages : List ChatMessage) :
    (likeById ((messagesOfKind kind messages).values.map toLike)).values.map MessageLike.id =
      (messagesOfKind kind messages).keys := by
  have htrim : ∀ kept ∈ (messagesOfKind kind messages).values,
      jsTrim kept.id = kept.id ∧ kept.id ≠ "" := by
    intro kept hkept
    obtain ⟨id, hget⟩ := OrderedMap.mem_values_iff.mp hkept
    obtain ⟨rfl, -, hne, -⟩ := key_messagesOfKind hget
    exact ⟨trim_key hget, hne⟩
  have hkeep : (((messagesOfKind kind messages).values.map toLike).filter fun like =>
      decide (jsTrim like.id ≠ "")) = (messagesOfKind kind messages).values.map toLike := by
    refine List.filter_eq_self.mpr fun like hlike => ?_
    obtain ⟨kept, hkept, rfl⟩ := List.mem_map.mp hlike
    obtain ⟨hid, hne⟩ := htrim kept hkept
    rw [decide_eq_true_eq, toLike]
    exact hid.symm ▸ hne
  have hids : ((messagesOfKind kind messages).values.map fun kept => jsTrim kept.id) =
      (messagesOfKind kind messages).keys := by
    rw [← ids_messagesOfKind]
    exact List.map_congr_left fun kept hkept => (htrim kept hkept).1
  have hkeys : ((((messagesOfKind kind messages).values.map toLike).map fun like =>
      (jsTrim like.id, (⟨jsTrim like.id, normalizeAfterIds like.after, like.ts.orZero⟩ :
        MessageLike))).map Prod.fst).Nodup := by
    rw [List.map_map, List.map_map]
    exact hids ▸ (messagesOfKind kind messages).nodup_keys
  have hvalues := congrArg (List.map Prod.snd) (OrderedMap.entries_ofList hkeys)
  rw [likeById, hkeep]
  refine (congrArg (List.map MessageLike.id) hvalues).trans ?_
  rw [List.map_map, List.map_map, List.map_map]
  exact hids

/-- The messages of a reconciliation: one of every id of either kind. -/
theorem reconcile_perm_values (choices : Choices) (messages : List ChatMessage) :
    (reconcileSessionMessages choices messages).messages.Perm
      ((messagesOfKind .system messages).values ++
        (messagesOfKind .chat messages).values.map (finishMessage (analyzeOpenClawPairChatGraph
          choices ((messagesOfKind .chat messages).values.map toLike)).missingIds)) := by
  unfold reconcileSessionMessages
  dsimp only
  generalize hanalysis : analyzeOpenClawPairChatGraph choices
    ((messagesOfKind .chat messages).values.map toLike) = analysis
  refine (choices.sorter.perm _ _).trans (List.Perm.append_left _ ?_)
  have hids := ids_likeById .chat messages
  have hordered : analysis.ordered.Perm
      (likeById ((messagesOfKind .chat messages).values.map toLike)).values := by
    rw [← hanalysis]
    exact orderLikes_perm choices (hids ▸ (messagesOfKind .chat messages).nodup_keys)
  refine (hordered.filterMap _).trans (List.Perm.of_eq ?_)
  -- the lookup reads only the id, and the ids are those of the messages
  have hlookup : ((likeById ((messagesOfKind .chat messages).values.map toLike)).values.filterMap
      fun like => ((messagesOfKind .chat messages).get like.id).map
        (finishMessage analysis.missingIds)) =
      (messagesOfKind .chat messages).keys.filterMap fun id =>
        ((messagesOfKind .chat messages).get id).map (finishMessage analysis.missingIds) := by
    rw [← hids, List.filterMap_map]
    rfl
  rw [hlookup, OrderedMap.keys, OrderedMap.values, List.filterMap_map, List.map_map,
    ← List.filterMap_eq_map]
  refine List.filterMap_congr fun entry hentry => ?_
  rw [Function.comp_apply, OrderedMap.get_eq_some_iff.mpr hentry]
  rfl

/-- The chat messages as reconciling leaves them, before they are ordered. -/
def finishedMessages (choices : Choices) (messages : List ChatMessage) : List ChatMessage :=
  (extractChatMessages messages).map (finishMessage
    (analyzeOpenClawPairChatGraph choices ((extractChatMessages messages).map toLike)).missingIds)

/-- **Reconciling normalizes and permutes** the chat messages, and adds the
system messages. -/
theorem reconcile_perm (choices : Choices) (hnodup : (chatIds messages).Nodup) :
    (reconcileSessionMessages choices messages).messages.Perm
      ((messagesOfKind .system messages).values ++ finishedMessages choices messages) := by
  have hperm := reconcile_perm_values choices messages
  rwa [values_messagesOfKind_chat hnodup] at hperm

theorem kind_messagesOfKind {kind : ChatKind}
    (hmem : message ∈ (messagesOfKind kind messages).values) : message.kind = kind := by
  obtain ⟨key, hget⟩ := OrderedMap.mem_values_iff.mp hmem
  exact (key_messagesOfKind hget).2.1

/-- A chat message with an id is there after reconciling. -/
theorem exists_finished (choices : Choices) (hnodup : (chatIds messages).Nodup)
    (hmem : message ∈ messages) (hkind : message.kind ≠ .system) (hid : jsTrim message.id ≠ "") :
    ∃ missingIds, finishMessage missingIds (normalizeChatMessage message) ∈
      (reconcileSessionMessages choices messages).messages :=
  ⟨_, (reconcile_perm choices hnodup).mem_iff.mpr (List.mem_append_right _
    (List.mem_map_of_mem (mem_extractChatMessages.mpr ⟨message, hmem, rfl, hkind, hid⟩)))⟩

/-- Reconciling keeps every number a message carries, and adds none. -/
theorem exists_carries_reconcile (choices : Choices) (hnodup : (chatIds messages).Nodup) :
    (∃ message ∈ (reconcileSessionMessages choices messages).messages, Carries origin n message) ↔
      ∃ message ∈ messages, Carries origin n message := by
  constructor
  · rintro ⟨message, hmem, hcarries⟩
    rw [(reconcile_perm choices hnodup).mem_iff, List.mem_append] at hmem
    rcases hmem with hsystem | hchat
    · exact absurd (kind_messagesOfKind hsystem) hcarries.1
    · obtain ⟨normal, hnormal, rfl⟩ := List.mem_map.mp hchat
      obtain ⟨old, hold, rfl, -⟩ := mem_extractChatMessages.mp hnormal
      exact ⟨old, hold, carries_normalize.mp (carries_finish.mp hcarries)⟩
  · rintro ⟨message, hmem, hcarries⟩
    obtain ⟨missingIds, hfinished⟩ :=
      exists_finished choices hnodup hmem hcarries.1 hcarries.2.1
    exact ⟨_, hfinished, carries_finish.mpr (carries_normalize.mpr hcarries)⟩

/-! ## Appending to a log -/

theorem chatIds_eq (messages : List ChatMessage) :
    chatIds messages = (messages.filter fun message =>
      decide (message.kind ≠ .system ∧ jsTrim message.id ≠ "")).map fun message =>
        jsTrim message.id := by
  unfold chatIds extractChatMessages
  rw [List.filter_map, List.map_map]
  rfl

theorem chatIds_append (left right : List ChatMessage) :
    chatIds (left ++ right) = chatIds left ++ chatIds right := by
  rw [chatIds_eq, chatIds_eq, chatIds_eq, List.filter_append, List.map_append]

theorem chatIds_sublist {left right : List ChatMessage} (hsub : left.Sublist right) :
    (chatIds left).Sublist (chatIds right) := by
  rw [chatIds_eq, chatIds_eq]
  exact (hsub.filter _).map _

theorem mem_chatIds {id : String} : id ∈ chatIds messages ↔
    ∃ message ∈ messages, message.kind ≠ .system ∧ jsTrim message.id ≠ "" ∧
      jsTrim message.id = id := by
  rw [chatIds_eq, List.mem_map]
  constructor
  · rintro ⟨message, hmem, rfl⟩
    obtain ⟨hmem, hchat⟩ := List.mem_filter.mp hmem
    obtain ⟨hkind, hid⟩ := of_decide_eq_true hchat
    exact ⟨message, hmem, hkind, hid, rfl⟩
  · rintro ⟨message, hmem, hkind, hid, rfl⟩
    exact ⟨message, List.mem_filter.mpr ⟨hmem, decide_eq_true ⟨hkind, hid⟩⟩, rfl⟩

theorem chatIds_reconcile_perm (choices : Choices) (hnodup : (chatIds messages).Nodup) :
    (chatIds (reconcileSessionMessages choices messages).messages).Perm (chatIds messages) := by
  have hperm := reconcile_perm choices hnodup
  have hsystem : chatIds (messagesOfKind .system messages).values = [] := by
    rw [chatIds_eq, List.map_eq_nil_iff, List.filter_eq_nil_iff]
    intro message hmem hchat
    exact (of_decide_eq_true hchat).1 (kind_messagesOfKind hmem)
  have hfinished : chatIds (finishedMessages choices messages) = chatIds messages := by
    unfold finishedMessages
    rw [chatIds_eq, List.filter_map, List.map_map, chatIds]
    have hall : ((extractChatMessages messages).filter ((fun message =>
        decide (message.kind ≠ .system ∧ jsTrim message.id ≠ "")) ∘ finishMessage
          (analyzeOpenClawPairChatGraph choices
            ((extractChatMessages messages).map toLike)).missingIds)) =
        extractChatMessages messages := by
      refine List.filter_eq_self.mpr fun message hmem => decide_eq_true ?_
      obtain ⟨old, -, rfl, hkind, hid⟩ := mem_extractChatMessages.mp hmem
      exact ⟨hkind, (jsTrim_jsTrim old.id).symm ▸ hid⟩
    rw [hall]
    exact List.map_congr_left fun message hmem => (trim_extracted hmem).1
  rw [chatIds_eq]
  refine ((hperm.filter _).map _).trans (List.Perm.of_eq ?_)
  rw [← chatIds_eq, chatIds_append, hsystem, hfinished, List.nil_append]

theorem nodup_replaceMessage (hnodup : (chatIds messages).Nodup) (message : ChatMessage) :
    (chatIds (replaceMessage messages (normalizeChatMessage message))).Nodup := by
  unfold replaceMessage
  rw [chatIds_append]
  refine List.nodup_append.mpr ⟨hnodup.sublist (chatIds_sublist List.filter_sublist), ?_, ?_⟩
  · have hone : (chatIds [normalizeChatMessage message]).Sublist
        [jsTrim (normalizeChatMessage message).id] := by
      rw [chatIds_eq]
      exact List.filter_sublist.map _
    exact (List.nodup_singleton _).sublist hone
  · intro id hid other hother heq
    obtain ⟨old, hold, -, -, rfl⟩ := mem_chatIds.mp hid
    obtain ⟨new, hnew, -, -, rfl⟩ := mem_chatIds.mp hother
    have hne := of_decide_eq_true (List.mem_filter.mp hold).2
    rw [List.mem_singleton.mp hnew, id_normalize, jsTrim_jsTrim] at heq
    exact hne heq

/-- `upsertSessionMessage` followed by the cut to the newest messages. -/
def SessionLog.upsert (choices : Choices) (log : SessionLog) (message : ChatMessage) :
    SessionLog where
  messages := sliceNewest (upsertSessionMessage choices log.messages message).session.messages
  nodup := by
    have hreplaced := nodup_replaceMessage log.nodup message
    have hreconciled := (chatIds_reconcile_perm choices hreplaced).nodup_iff.mpr hreplaced
    exact hreconciled.sublist (chatIds_sublist (List.drop_sublist _ _))

theorem session_upsertSessionMessage :
    (upsertSessionMessage choices messages message).session = reconcileSessionMessages choices
      (replaceMessage messages (normalizeChatMessage message)) := by
  unfold upsertSessionMessage
  dsimp only

theorem SessionLog.messages_upsert (log : SessionLog) :
    (log.upsert choices message).messages =
      sliceNewest (upsertSessionMessage choices log.messages message).session.messages := by
  unfold SessionLog.upsert
  dsimp only

/-! ## Logs that fit -/

/-- What reconciling keeps one message of. -/
def messageKey (message : ChatMessage) : ChatKind × String := (message.kind, jsTrim message.id)

theorem keys_messagesOfKind (kind : ChatKind) (messages : List ChatMessage) :
    (messagesOfKind kind messages).values.map messageKey =
      (messagesOfKind kind messages).keys.map fun id => (kind, id) := by
  rw [← ids_messagesOfKind, List.map_map]
  refine List.map_congr_left fun kept hkept => ?_
  obtain ⟨id, hget⟩ := OrderedMap.mem_values_iff.mp hkept
  obtain ⟨rfl, rfl, -, -⟩ := key_messagesOfKind hget
  rw [messageKey, trim_key hget, Function.comp_apply]

theorem keys_reconcile_perm (choices : Choices) (messages : List ChatMessage) :
    ((reconcileSessionMessages choices messages).messages.map messageKey).Perm
      ((messagesOfKind .system messages).keys.map (fun id => (.system, id)) ++
        (messagesOfKind .chat messages).keys.map fun id => (.chat, id)) := by
  rw [← keys_messagesOfKind, ← keys_messagesOfKind]
  refine ((reconcile_perm_values choices messages).map _).trans (List.Perm.of_eq ?_)
  rw [List.map_append, List.map_map]
  rfl

theorem nodup_keys_reconcile (choices : Choices) (messages : List ChatMessage) :
    ((reconcileSessionMessages choices messages).messages.map messageKey).Nodup := by
  refine (keys_reconcile_perm choices messages).nodup_iff.mpr (List.nodup_append.mpr ⟨?_, ?_, ?_⟩)
  · exact (messagesOfKind .system messages).nodup_keys.map fun _ _ heq => (Prod.mk.inj heq).2
  · exact (messagesOfKind .chat messages).nodup_keys.map fun _ _ heq => (Prod.mk.inj heq).2
  · intro key hsystem other hchat heq
    obtain ⟨id, -, rfl⟩ := List.mem_map.mp hsystem
    obtain ⟨id', -, rfl⟩ := List.mem_map.mp hchat
    cases heq

theorem mem_keys_of_reconcile
    (hmem : message ∈ (reconcileSessionMessages choices messages).messages) :
    messageKey message ∈ messages.map messageKey := by
  have hkey : ∀ {kind id}, id ∈ (messagesOfKind kind messages).keys →
      (kind, id) ∈ messages.map messageKey := by
    intro kind id hid
    rw [← ids_messagesOfKind] at hid
    obtain ⟨kept, hvalue, rfl⟩ := List.mem_map.mp hid
    obtain ⟨id, hget⟩ := OrderedMap.mem_values_iff.mp hvalue
    obtain ⟨rfl, rfl, -, old, hold, rfl⟩ := key_messagesOfKind hget
    exact List.mem_map.mpr ⟨old, hold, rfl⟩
  have hmapped := (keys_reconcile_perm choices messages).mem_iff.mp (List.mem_map_of_mem hmem)
  rcases List.mem_append.mp hmapped with hsystem | hchat
  · obtain ⟨id, hid, heq⟩ := List.mem_map.mp hsystem
    exact heq ▸ hkey hid
  · obtain ⟨id, hid, heq⟩ := List.mem_map.mp hchat
    exact heq ▸ hkey hid

theorem sliceNewest_of_le (hlength : messages.length ≤ maxSessionMessages) :
    sliceNewest messages = messages := by
  rw [sliceNewest, Nat.sub_eq_zero_of_le hlength, List.drop_zero]

/-- Messages with few enough keys are not cut. -/
theorem sliceNewest_reconcile (choices : Choices) {keys : Finset (ChatKind × String)}
    (hkeys : ∀ message ∈ messages, messageKey message ∈ keys)
    (hcard : keys.card ≤ maxSessionMessages) :
    sliceNewest (reconcileSessionMessages choices messages).messages =
      (reconcileSessionMessages choices messages).messages := by
  refine sliceNewest_of_le (le_trans ?_ hcard)
  rw [← List.length_map messageKey,
    ← List.toFinset_card_of_nodup (nodup_keys_reconcile choices messages)]
  refine Finset.card_le_card fun key hkey => ?_
  obtain ⟨message, hmem, rfl⟩ := List.mem_map.mp (List.mem_toFinset.mp hkey)
  obtain ⟨old, hold, heq⟩ := List.mem_map.mp (mem_keys_of_reconcile hmem)
  exact heq ▸ hkeys old hold

def SessionLog.empty : SessionLog := ⟨[], List.nodup_nil⟩

end OpenClaw.Mobile

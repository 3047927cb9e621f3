import Mathlib.Data.String.Basic
import OpenClaw.Chat.SystemOrder

/-!
# The two sides agree on the transcript

The desktop and the mobile each have their own version of the worklist: hash
maps and vectors here, insertion-ordered maps and sets there, with the ready
list sorted at different moments and a second sort at the end of one of them.
On the same chat messages both compute the causal order of one graph, so the
order, the leaves and the missing parents are the same (`transcripts_agree`):
for every graph, with cycles, repeated or missing parents, and however a hash
map is walked.
-/

namespace OpenClaw.Chat

open OpenClaw.Runtime OpenClaw.Desktop OpenClaw.Mobile StableSort Kahn Positions

/-- What the mobile's graph reads of a message. -/
def likeOf (message : PairBackendMessage) : MessageLike :=
  ⟨message.id, message.after, .finite message.ts⟩

/-- The ids and parents of the messages. -/
def idStrings (messages : List PairBackendMessage) : List String :=
  messages.flatMap fun message => message.id :: message.after

/-- Chat messages with distinct trimmed ids and no gateway numbers, whose ids the
two languages trim alike and compare by the same order. -/
structure Comparable (choices : Mobile.Choices) (messages : List PairBackendMessage) : Prop where
  distinct : (messages.map PairBackendMessage.id).Nodup
  chat : ∀ message ∈ messages, normalizeChatMessageKind message.kind ≠ "system"
  trimmed : ∀ message ∈ messages, unicodeTrim message.id = message.id ∧ message.id ≠ ""
  gateway : ∀ message ∈ messages, message.gatewayMessageSeq = 0
  trim : ∀ id ∈ idStrings messages, jsTrim id = unicodeTrim id
  order : ∀ left ∈ idStrings messages, ∀ right ∈ idStrings messages,
    choices.localeCompare (unicodeTrim left) (unicodeTrim right) =
        compare (unicodeTrim left) (unicodeTrim right) ∧
      utf16Compare (unicodeTrim left) (unicodeTrim right) =
        compare (unicodeTrim left) (unicodeTrim right)

/-- The desktop's channel and the mobile's analysis say the same. -/
structure SameTranscript (desktop : Desktop.Choices) (mobile : Mobile.Choices)
    (messages : List PairBackendMessage) (likes : List MessageLike) : Prop where
  order : (reconcileChannelMessages desktop messages).messages.map PairBackendMessage.id =
    (analyzeOpenClawPairChatGraph mobile likes).ordered.map MessageLike.id
  leaves : collectChannelLeafIds (reconcileChannelMessages desktop messages).messages =
    (analyzeOpenClawPairChatGraph mobile likes).leafIds
  missing : (reconcileChannelMessages desktop messages).missingMessageIds =
    (analyzeOpenClawPairChatGraph mobile likes).missingIds

variable {desktop : Desktop.Choices} {mobile : Mobile.Choices}
  {messages : List PairBackendMessage} {message left right : PairBackendMessage}
  {likes : List MessageLike} {like : MessageLike}

/-! ## Normal forms -/

/-- A message as the graph of the mobile stores it. -/
def normalizeLike (like : MessageLike) : MessageLike :=
  ⟨jsTrim like.id, normalizeAfterIds like.after, like.ts.orZero⟩

theorem values_likeById (hdistinct : (likes.map fun like => jsTrim like.id).Nodup)
    (hne : ∀ like ∈ likes, jsTrim like.id ≠ "") :
    (likeById likes).values = likes.map normalizeLike := by
  have hkeep : (likes.filter fun like => decide (jsTrim like.id ≠ "")) = likes :=
    List.filter_eq_self.mpr fun like hlike => decide_eq_true (hne like hlike)
  have hkeys :
      ((likes.map fun like => (jsTrim like.id, normalizeLike like)).map Prod.fst).Nodup := by
    rw [List.map_map]
    exact hdistinct
  unfold likeById OrderedMap.values
  rw [hkeep]
  refine (congrArg (List.map Prod.snd) (OrderedMap.entries_ofList hkeys)).trans ?_
  rw [List.map_map]
  rfl

theorem mem_idStrings (hmem : message ∈ messages) : message.id ∈ idStrings messages :=
  List.mem_flatMap.mpr ⟨message, hmem, List.mem_cons_self⟩

namespace Comparable

variable (hcomparable : Comparable mobile messages)

include hcomparable

theorem graph (hmem : message ∈ messages) : isGraphChatMessage message = true := by
  rw [isGraphChatMessage, decide_eq_true_eq, (hcomparable.trimmed message hmem).1]
  exact ⟨hcomparable.chat message hmem, (hcomparable.trimmed message hmem).2⟩

theorem jsTrim_id (hmem : message ∈ messages) : jsTrim message.id = message.id := by
  rw [hcomparable.trim _ (mem_idStrings hmem), (hcomparable.trimmed message hmem).1]

theorem normalizeAfterIds_eq (hmem : message ∈ messages) :
    normalizeAfterIds message.after = normalizeChatMessageIds message.after := by
  unfold normalizeAfterIds normalizeChatMessageIds
  have htrim : message.after.map jsTrim = message.after.map unicodeTrim :=
    List.map_congr_left fun id hid => hcomparable.trim id
      (List.mem_flatMap.mpr ⟨message, hmem, List.mem_cons_of_mem _ hid⟩)
  rw [htrim]

theorem after_reconcileMessage (hmem : message ∈ messages) :
    (reconcileMessage messages message).after = normalizeAfterIds message.after := by
  rw [reconcileMessage_of_graph (hcomparable.graph hmem), hcomparable.normalizeAfterIds_eq hmem]

/-- Both sides make the same of a message. -/
theorem normalizeLike_likeOf (hmem : message ∈ messages) :
    normalizeLike (likeOf message) = likeOf (reconcileMessage messages message) := by
  rw [reconcileMessage_of_graph (hcomparable.graph hmem), normalizeLike, likeOf, likeOf,
    MessageLike.mk.injEq]
  exact ⟨hcomparable.jsTrim_id hmem, hcomparable.normalizeAfterIds_eq hmem, rfl⟩

theorem linearOn : LinearOn comparePairMessageOrder messages := by
  refine (linearOn_iff hcomparable.distinct).mpr ?_
  intro left hleft _ _ _ _ hpos
  have := hcomparable.gateway left hleft
  omega

/-- Every marked message is one of the graph. -/
theorem mem_values_iff : message ∈ (messageById (markedMessages messages)).values ↔
    message ∈ markedMessages messages := by
  have hdistinct : ((markedMessages messages).map PairBackendMessage.id).Nodup := by
    rw [ids_markedMessages]
    exact hcomparable.distinct
  rw [mem_values_iff_of_nodup hdistinct]
  refine and_iff_left_of_imp fun hmem => ?_
  obtain ⟨old, hold, rfl⟩ := List.mem_map.mp hmem
  rw [isGraphChatMessage_reconcileMessage]
  exact hcomparable.graph hold

/-- The two comparators agree on the marked messages. -/
theorem compareMessageOrder_likeOf (hleft : left ∈ markedMessages messages)
    (hright : right ∈ markedMessages messages) :
    compareMessageOrder mobile (likeOf left) (likeOf right) =
      comparePairMessageOrder left right := by
  obtain ⟨oldLeft, holdLeft, rfl⟩ := List.mem_map.mp hleft
  obtain ⟨oldRight, holdRight, rfl⟩ := List.mem_map.mp hright
  rw [comparePairMessageOrder_reconcileMessage (hcomparable.graph holdLeft)
    (hcomparable.graph holdRight), reconcileMessage_of_graph (hcomparable.graph holdLeft),
    reconcileMessage_of_graph (hcomparable.graph holdRight), compareMessageOrder_eq]
  have hids := (hcomparable.order _ (mem_idStrings holdLeft) _ (mem_idStrings holdRight)).1
  rw [(hcomparable.trimmed _ holdLeft).1, (hcomparable.trimmed _ holdRight).1] at hids
  have hgateway := hcomparable.gateway oldLeft holdLeft
  have htime := JsNumber.compare_rank_natCast oldLeft.ts oldRight.ts
  rw [comparePairMessageOrder, if_neg (by omega), ← hids, ← htime]
  rfl

/-! ## The graph of the mobile -/

variable (hperm : likes.Perm (messages.map likeOf))

include hperm

theorem values_likeById_eq : (likeById likes).values = likes.map normalizeLike := by
  have hid : ∀ like ∈ likes, ∃ message ∈ messages, likeOf message = like := fun like hlike =>
    List.mem_map.mp (hperm.mem_iff.mp hlike)
  refine values_likeById ?_ fun like hlike => ?_
  · have hsame : (messages.map likeOf).map (fun like => jsTrim like.id) =
        messages.map PairBackendMessage.id := by
      rw [List.map_map]
      exact List.map_congr_left fun message hmem => hcomparable.jsTrim_id hmem
    exact (hperm.map _).nodup_iff.mpr (hsame ▸ hcomparable.distinct)
  · obtain ⟨message, hmem, rfl⟩ := hid like hlike
    show jsTrim message.id ≠ ""
    rw [hcomparable.jsTrim_id hmem]
    exact (hcomparable.trimmed message hmem).2

/-- The nodes of the mobile are the marked messages of the desktop. -/
theorem values_perm :
    (likeById likes).values.Perm ((markedMessages messages).map likeOf) := by
  rw [hcomparable.values_likeById_eq hperm, markedMessages, List.map_map]
  refine (hperm.map normalizeLike).trans (List.Perm.of_eq ?_)
  rw [List.map_map]
  exact List.map_congr_left fun message hmem => hcomparable.normalizeLike_likeOf hmem

theorem nodup_ids_values :
    ((likeById likes).values.map MessageLike.id).Nodup := by
  have hids : ((markedMessages messages).map likeOf).map MessageLike.id =
      messages.map PairBackendMessage.id := by
    rw [List.map_map, ← ids_markedMessages messages]
    rfl
  exact ((hcomparable.values_perm hperm).map _).nodup_iff.mpr (hids ▸ hcomparable.distinct)

omit hperm in
theorem normalizeAfterIds_marked (hmem : message ∈ markedMessages messages) :
    normalizeAfterIds message.after = message.after := by
  obtain ⟨old, hold, rfl⟩ := List.mem_map.mp hmem
  rw [hcomparable.after_reconcileMessage hold, normalizeAfterIds_idem]

theorem mem_ids_values_iff {id : String} :
    id ∈ (likeById likes).values.map MessageLike.id ↔ id ∈ messages.map PairBackendMessage.id := by
  rw [((hcomparable.values_perm hperm).map MessageLike.id).mem_iff, List.map_map,
    ← ids_markedMessages messages]
  exact Iff.rfl

/-- The parents of the mobile are those of the desktop. -/
theorem parent_iff (hmem : message ∈ markedMessages messages) (like : MessageLike) :
    (likeGraph mobile (likeById likes).values).Parent like (likeOf message) ↔
      ∃ parent, parent ∈ markedMessages messages ∧
        ChannelParent (markedMessages messages) parent message ∧ likeOf parent = like := by
  have hvalues := hcomparable.values_perm hperm
  have hnodes : (likeGraph mobile (likeById likes).values).nodes = (likeById likes).values := rfl
  have hafter := hcomparable.normalizeAfterIds_marked hmem
  have hparents : ∀ parent ∈ markedMessages messages, (likeOf parent).id ∈
      likeParents (likeById likes).values (likeOf message) ↔ parent.id ∈ message.after := by
    intro parent hparent
    have hlike : (likeOf message).after = message.after := rfl
    rw [likeParents, hlike, hafter, List.mem_filter, decide_eq_true_eq]
    exact and_iff_left (List.mem_map_of_mem (hvalues.mem_iff.mpr (List.mem_map_of_mem hparent)))
  unfold Kahn.Graph.Parent ChannelParent
  rw [hnodes, hvalues.mem_iff, hvalues.mem_iff]
  constructor
  · intro hlike
    obtain ⟨hlike, -, hid⟩ := hlike
    obtain ⟨parent, hparent, rfl⟩ := List.mem_map.mp hlike
    exact ⟨parent, hparent, ⟨hcomparable.mem_values_iff.mpr hparent,
      hcomparable.mem_values_iff.mpr hmem, (hparents parent hparent).mp hid⟩, rfl⟩
  · intro hexists
    obtain ⟨parent, hparent, ⟨-, -, hid⟩, rfl⟩ := hexists
    exact ⟨List.mem_map_of_mem hparent, List.mem_map_of_mem hmem,
      (hparents parent hparent).mpr hid⟩

/-- **Both worklists give one order.** -/
theorem exists_ordered (desktop : Desktop.Choices) :
    ∃ ordered : List PairBackendMessage,
      graphOrder desktop messages = ordered.map PairBackendMessage.id ∧
      ordered.Perm (markedMessages messages) ∧
      orderLikes mobile (likeById likes).values = ordered.map likeOf := by
  have hlinear := hcomparable.linearOn
  have hvalues := hcomparable.values_perm hperm
  obtain ⟨ordered, heq, hcausal⟩ := exists_causalOrder desktop hlinear hcomparable.distinct
  have hnode : ∀ message, message ∈ (messageById (markedMessages messages)).values ↔
      message ∈ markedMessages messages := fun _ => hcomparable.mem_values_iff
  have hdesktop := hcausal.congr hnode fun _ _ => Iff.rfl
  have hdistinct : ((markedMessages messages).map PairBackendMessage.id).Nodup := by
    rw [ids_markedMessages]
    exact hcomparable.distinct
  have hinj : ∀ left right, left ∈ markedMessages messages → right ∈ markedMessages messages →
      likeOf left = likeOf right → left = right := fun left right hleft hright hlike =>
    List.inj_on_of_nodup_map hdistinct hleft hright (congrArg MessageLike.id hlike)
  have hrenamed : CausalOrder (likeGraph mobile (likeById likes).values).Node
      (likeGraph mobile (likeById likes).values).Parent (compareMessageOrder mobile)
      (ordered.map likeOf) := by
    refine hdesktop.map hinj (fun like => ?_) (fun message hmem like =>
      hcomparable.parent_iff hperm hmem like) (fun parent child hparent => ?_)
      fun left right hleft hright => hcomparable.compareMessageOrder_likeOf hleft hright
    · exact hvalues.mem_iff.trans List.mem_map
    · exact (hnode parent).mp hparent.1
  have hmobile := causalOrder_ordered
    (wellFormed_likeGraph mobile (hcomparable.nodup_ids_values hperm))
  refine ⟨ordered, heq, ?_, ?_⟩
  · exact (List.perm_ext_iff_of_nodup hdesktop.nodup hdistinct.of_map).mpr fun message =>
      hdesktop.mem_iff
  · refine hmobile.unique hrenamed fun left right hleft hright hlr hrl => ?_
    obtain ⟨first, hfirst, rfl⟩ := List.mem_map.mp (hvalues.mem_iff.mp hleft)
    obtain ⟨second, hsecond, rfl⟩ := List.mem_map.mp (hvalues.mem_iff.mp hright)
    rw [Below, show (likeGraph mobile (likeById likes).values).cmp = compareMessageOrder mobile
      from rfl] at hlr hrl
    rw [hcomparable.compareMessageOrder_likeOf hfirst hsecond] at hlr
    rw [hcomparable.compareMessageOrder_likeOf hsecond hfirst] at hrl
    exact congrArg likeOf ((linearOn_values hlinear hcomparable.distinct).antisymm
      ((hnode first).mpr hfirst) ((hnode second).mpr hsecond) hlr hrl)

/-! ## The three results -/

omit hperm in
theorem knownIds_eq : knownIds messages = messages.map PairBackendMessage.id := by
  rw [knownIds, List.filter_eq_self.mpr fun message hmem => hcomparable.graph hmem]

omit hperm in
/-- A reconciled channel has chat messages only. -/
theorem filter_reconcile (desktop : Desktop.Choices) :
    (reconcileChannelMessages desktop messages).messages.filter isGraphChatMessage =
      (reconcileChannelMessages desktop messages).messages := by
  refine List.filter_eq_self.mpr fun message hmem => ?_
  obtain ⟨old, hold, rfl⟩ := mem_reconcile.mp hmem
  rw [isGraphChatMessage_reconcileMessage]
  exact hcomparable.graph hold

omit hperm in
/-- The final sort of the desktop leaves the order of the graph. -/
theorem ids_reconcile_eq (desktop : Desktop.Choices) :
    (reconcileChannelMessages desktop messages).messages.map PairBackendMessage.id =
      graphOrder desktop messages := by
  have hlinear := hcomparable.linearOn
  have hperm := graphOrder_perm desktop hlinear hcomparable.distinct
  rw [hcomparable.knownIds_eq] at hperm
  have hkeeps := (channelKeepsOrder_iff.mpr (positionsClear_of_chat desktop hlinear
    hcomparable.distinct fun message hmem => hcomparable.graph hmem)).chat
  rw [hcomparable.filter_reconcile] at hkeeps
  exact eq_of_sorted_positions (hperm.nodup_iff.mpr hcomparable.distinct)
    ((ids_reconcile_perm desktop messages).trans hperm.symm) hkeeps

omit hcomparable hperm in
theorem mem_reconcile_iff : message ∈ (reconcileChannelMessages desktop messages).messages ↔
    message ∈ markedMessages messages := (reconcile_perm desktop messages).mem_iff

theorem mem_referenced_iff {id : String} :
    id ∈ (likeById likes).values.flatMap (likeParents (likeById likes).values) ↔
      ∃ message ∈ markedMessages messages, id ∈ message.after ∧
        id ∈ messages.map PairBackendMessage.id := by
  have hvalues := hcomparable.values_perm hperm
  rw [List.mem_flatMap]
  constructor
  · intro hreferenced
    obtain ⟨like, hlike, hid⟩ := hreferenced
    obtain ⟨message, hmem, rfl⟩ := List.mem_map.mp (hvalues.mem_iff.mp hlike)
    obtain ⟨hafter, hknown⟩ := List.mem_filter.mp hid
    refine ⟨message, hmem, ?_, (hcomparable.mem_ids_values_iff hperm).mp (of_decide_eq_true hknown)⟩
    rwa [show (likeOf message).after = message.after from rfl,
      hcomparable.normalizeAfterIds_marked hmem] at hafter
  · intro hreferenced
    obtain ⟨message, hmem, hafter, hknown⟩ := hreferenced
    refine ⟨likeOf message, hvalues.mem_iff.mpr (List.mem_map_of_mem hmem),
      List.mem_filter.mpr ⟨?_, decide_eq_true ((hcomparable.mem_ids_values_iff hperm).mpr hknown)⟩⟩
    rwa [show (likeOf message).after = message.after from rfl,
      hcomparable.normalizeAfterIds_marked hmem]

theorem leaves_eq : collectChannelLeafIds (reconcileChannelMessages desktop messages).messages =
    ((reconcileChannelMessages desktop messages).messages.map PairBackendMessage.id).filter
      fun id => decide
        (id ∉ (likeById likes).values.flatMap (likeParents (likeById likes).values)) := by
  have hreferenced : ∀ id, id ∈ ((reconcileChannelMessages desktop messages).messages.flatMap
      fun message => message.after.filter fun id => decide
        (id ∈ knownIds (reconcileChannelMessages desktop messages).messages)) ↔
      id ∈ (likeById likes).values.flatMap (likeParents (likeById likes).values) := by
    intro id
    rw [hcomparable.mem_referenced_iff hperm, List.mem_flatMap, knownIds,
      hcomparable.filter_reconcile]
    simp only [List.mem_filter, decide_eq_true_eq, mem_ids_reconcile, mem_reconcile_iff]
  unfold collectChannelLeafIds
  dsimp only
  rw [hcomparable.filter_reconcile, List.filter_map]
  refine congrArg _ (List.filter_congr fun message _ => ?_)
  rw [Function.comp_apply, decide_eq_decide]
  exact not_congr (hreferenced message.id)

omit hperm in
theorem mem_missingAfter_iff (hmem : message ∈ markedMessages messages) {id : String} :
    id ∈ message.missingAfter ↔
      id ∈ message.after ∧ id ∉ messages.map PairBackendMessage.id := by
  have hknown : knownIds (messages.map normalizeStored) = messages.map PairBackendMessage.id := by
    have hgraph : messages.filter (isGraphChatMessage ∘ normalizeStored) =
        messages.filter isGraphChatMessage :=
      List.filter_congr fun message _ => by
        rw [Function.comp_apply, isGraphChatMessage_normalizeStored]
    have hid : PairBackendMessage.id ∘ normalizeStored = PairBackendMessage.id :=
      funext fun message => by rw [Function.comp_apply, id_normalizeStored]
    rw [← hcomparable.knownIds_eq, knownIds, knownIds, List.filter_map, List.map_map, hgraph, hid]
  obtain ⟨old, hold, rfl⟩ := List.mem_map.mp hmem
  rw [reconcileMessage_of_graph (hcomparable.graph hold)]
  dsimp only
  rw [List.mem_filter, decide_eq_true_eq, hknown]

/-- What neither side knows. -/
theorem mem_missing_iff {id : String} :
    id ∈ (reconcileChannelMessages desktop messages).messages.flatMap
        PairBackendMessage.missingAfter ↔
      id ∈ (likeById likes).values.flatMap fun like => (normalizeAfterIds like.after).filter
        fun id => decide (id ∉ (likeById likes).values.map MessageLike.id) := by
  have hvalues := hcomparable.values_perm hperm
  have hlike : ∀ message ∈ markedMessages messages, ∀ id,
      id ∈ (normalizeAfterIds (likeOf message).after).filter (fun id =>
        decide (id ∉ (likeById likes).values.map MessageLike.id)) ↔ id ∈ message.missingAfter := by
    intro message hmem id
    rw [hcomparable.mem_missingAfter_iff hmem, List.mem_filter, decide_eq_true_eq,
      hcomparable.mem_ids_values_iff hperm, show (likeOf message).after = message.after from rfl,
      hcomparable.normalizeAfterIds_marked hmem]
  rw [List.mem_flatMap, List.mem_flatMap]
  constructor
  · intro hleft
    obtain ⟨message, hmem, hid⟩ := hleft
    have hmarked := mem_reconcile_iff.mp hmem
    exact ⟨likeOf message, hvalues.mem_iff.mpr (List.mem_map_of_mem hmarked),
      (hlike message hmarked id).mpr hid⟩
  · intro hright
    obtain ⟨like, hnode, hid⟩ := hright
    obtain ⟨message, hmarked, rfl⟩ := List.mem_map.mp (hvalues.mem_iff.mp hnode)
    exact ⟨message, mem_reconcile_iff.mpr hmarked, (hlike message hmarked id).mp hid⟩

omit hperm in
/-- The parents of a marked message are among the trimmed strings. -/
theorem exists_of_mem_after (hmem : message ∈ markedMessages messages) {id : String}
    (hid : id ∈ message.after) : ∃ value ∈ idStrings messages, unicodeTrim value = id := by
  obtain ⟨old, hold, rfl⟩ := List.mem_map.mp hmem
  rw [reconcileMessage_of_graph (hcomparable.graph hold)] at hid
  obtain ⟨htrimmed, -⟩ := List.mem_filter.mp (OrderedSet.mem_ofList.mp hid)
  obtain ⟨value, hvalue, rfl⟩ := List.mem_map.mp htrimmed
  exact ⟨value, List.mem_flatMap.mpr ⟨old, hold, List.mem_cons_of_mem _ hvalue⟩, rfl⟩

/-- The missing parents, each language sorting by its own order. -/
theorem missing_eq :
    (reconcileChannelMessages desktop messages).missingMessageIds =
      (analyzeOpenClawPairChatGraph mobile likes).missingIds := by
  have hmem : ∀ id, id ∈ (reconcileChannelMessages desktop messages).messages.flatMap
      PairBackendMessage.missingAfter ↔ id ∈ OrderedSet.ofList
        ((likeById likes).values.flatMap fun like => (normalizeAfterIds like.after).filter
          fun id => decide (id ∉ (likeById likes).values.map MessageLike.id)) := fun id => by
    rw [OrderedSet.mem_ofList]
    exact hcomparable.mem_missing_iff hperm
  have htrimmed : ∀ id, id ∈ (reconcileChannelMessages desktop messages).messages.flatMap
      PairBackendMessage.missingAfter → ∃ value ∈ idStrings messages, unicodeTrim value = id := by
    intro id hid
    obtain ⟨message, hmessage, hid⟩ := List.mem_flatMap.mp hid
    have hmarked := mem_reconcile_iff.mp hmessage
    exact hcomparable.exists_of_mem_after hmarked
      ((hcomparable.mem_missingAfter_iff hmarked).mp hid).1
  have hdesktop := dropRepeats_sortBy_eq (OrderedSet.nodup_ofList _) hmem
  refine hdesktop.trans (sortBy_congr fun left hleft right hright => ?_)
  obtain ⟨first, hfirst, rfl⟩ := htrimmed left ((hmem left).mpr hleft)
  obtain ⟨second, hsecond, rfl⟩ := htrimmed right ((hmem right).mpr hright)
  exact (hcomparable.order first hfirst second hsecond).2.symm

end Comparable

/-- **The two sides agree on the transcript.** -/
theorem transcripts_agree (desktop : Desktop.Choices) (hcomparable : Comparable mobile messages)
    (hperm : likes.Perm (messages.map likeOf)) :
    SameTranscript desktop mobile messages likes := by
  obtain ⟨ordered, horder, -, hlikes⟩ := hcomparable.exists_ordered hperm desktop
  have hids : (reconcileChannelMessages desktop messages).messages.map PairBackendMessage.id =
      (orderLikes mobile (likeById likes).values).map MessageLike.id := by
    rw [hcomparable.ids_reconcile_eq, horder, hlikes, List.map_map]
    rfl
  refine ⟨hids, ?_, hcomparable.missing_eq hperm⟩
  rw [hcomparable.leaves_eq hperm, hids]
  rfl

/-- A parent and its child, with a second parent that nobody has. -/
def branchedMessages : List PairBackendMessage :=
  [skewedMessage "msg_c" "chat" 1 ["msg_p", "msg_x", "msg_c"], skewedMessage "msg_p" "chat" 10 []]

theorem transcripts_agree_branched :
    SameTranscript .plain plainSession branchedMessages
      [likeOf (skewedMessage "msg_p" "chat" 10 []),
        likeOf (skewedMessage "msg_c" "chat" 1 ["msg_p", "msg_x", "msg_c"])] := by
  have hcomparable : Comparable plainSession branchedMessages :=
    ⟨by decide, by decide, by decide, by decide, by decide, by decide⟩
  exact transcripts_agree .plain hcomparable (by decide)

end OpenClaw.Chat

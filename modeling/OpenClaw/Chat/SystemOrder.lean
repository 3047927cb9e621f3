import OpenClaw.Desktop.MessageOrder
import OpenClaw.Mobile.SessionLog

/-!
# System messages and the causal order

Both sides sort the whole log at the end of a reconciliation: two messages that
have a position in the graph by that position, any other pair by time and id.
The comparator is an order exactly if no message without a position stands in
time between two that the graph has the other way round; then the chat messages
keep the order of the graph (`keepsGraphOrder_iff`).  A parent with a clock ahead
of its child's and a system message in between are enough to break it
(`not_keepsGraphOrder`).
-/

namespace OpenClaw.Chat

open OpenClaw.Runtime OpenClaw.Desktop OpenClaw.Mobile StableSort RankedOrder Positions

/-- The ids with a position stand in the order of their positions. -/
def InOrder (order ids : List String) : Prop :=
  ids.Pairwise fun left right => ∀ i j, order.idxOf? left = some i → order.idxOf? right = some j →
    i ≤ j

/-! ## The desktop -/

/-- The final sort of `reconcile_channel_messages_locked` compares by an order,
and leaves the chat messages in the order of the graph. -/
structure ChannelKeepsOrder (choices : Desktop.Choices) (messages : List PairBackendMessage) :
    Prop where
  order : OrderOn (compareByIndex (graphOrder choices messages)) (markedMessages messages)
  chat : InOrder (graphOrder choices messages)
    (((reconcileChannelMessages choices messages).messages.filter isGraphChatMessage).map
      PairBackendMessage.id)

theorem channelKeepsOrder_iff {choices : Desktop.Choices} {messages : List PairBackendMessage} :
    ChannelKeepsOrder choices messages ↔ PositionsClear choices messages := by
  rw [← orderOn_compareByIndex_iff]
  constructor
  · exact ChannelKeepsOrder.order
  · intro horder
    refine ⟨horder, ?_⟩
    have hsorted := horder.pairwise_sortBy
    rw [messages_reconcile, choices.sorter.stable _ _ horder, InOrder, List.pairwise_map]
    refine (hsorted.sublist List.filter_sublist).imp fun {left right} hbelow i j hi hj => ?_
    rw [Below, compareByIndex, hi, hj] at hbelow
    exact Nat.isLE_compare.mp hbelow

/-! ## The mobile -/

/-- The chat messages in the order of the graph. -/
def orderedChatMessages (choices : Mobile.Choices) (messages : List ChatMessage) :
    List ChatMessage :=
  let chatMessages := messagesOfKind .chat messages
  let analysis := analyzeOpenClawPairChatGraph choices (chatMessages.values.map toLike)
  analysis.ordered.filterMap fun messageLike =>
    (chatMessages.get messageLike.id).map (finishMessage analysis.missingIds)

def sessionGraphOrder (choices : Mobile.Choices) (messages : List ChatMessage) : List String :=
  (orderedChatMessages choices messages).map ChatMessage.id

/-- The messages as the final sort gets them. -/
def unsortedMessages (choices : Mobile.Choices) (messages : List ChatMessage) :
    List ChatMessage :=
  (messagesOfKind .system messages).values ++ orderedChatMessages choices messages

theorem messages_reconcileSession (choices : Mobile.Choices) (messages : List ChatMessage) :
    (reconcileSessionMessages choices messages).messages =
      choices.sorter.sort (compareSessionOrder choices (sessionGraphOrder choices messages))
        (unsortedMessages choices messages) := rfl

/-- The final sort of `reconcileSessionMessages` compares by an order, and leaves
the chat messages in the order of the graph. -/
structure SessionKeepsOrder (choices : Mobile.Choices) (messages : List ChatMessage) : Prop where
  order : OrderOn (compareSessionOrder choices (sessionGraphOrder choices messages))
    (unsortedMessages choices messages)
  chat : InOrder (sessionGraphOrder choices messages)
    (((reconcileSessionMessages choices messages).messages.filter fun message =>
      decide (message.kind ≠ .system)).map ChatMessage.id)

def sessionPosition (order : List String) (message : ChatMessage) : Option ℕ :=
  order.idxOf? message.id

/-- No message without a position stands in time between two that the positions
have the other way round. -/
def SessionPositionsClear (choices : Mobile.Choices) (messages : List ChatMessage) : Prop :=
  NoneBetween (sessionPosition (sessionGraphOrder choices messages)) compare
    (compareFallbackOrder choices) (unsortedMessages choices messages)

instance (choices : Mobile.Choices) : Std.TransCmp (compareFallbackOrder choices) := by
  have heq : compareFallbackOrder choices = fun left right =>
      compareMessageOrder choices (toLike left) (toLike right) := rfl
  rw [heq]
  exact transCmp_pullback (compareMessageOrder choices) toLike

theorem compareSessionOrder_eq (choices : Mobile.Choices) (order : List String) :
    compareSessionOrder choices order =
      compareRanked (sessionPosition order) compare (compareFallbackOrder choices) := by
  funext left right
  unfold compareSessionOrder compareRanked sessionPosition
  cases order.idxOf? left.id <;> cases order.idxOf? right.id <;> rfl

theorem sessionKeepsOrder_iff {choices : Mobile.Choices} {messages : List ChatMessage} :
    SessionKeepsOrder choices messages ↔ SessionPositionsClear choices messages := by
  unfold SessionPositionsClear
  rw [← orderOn_iff_noneBetween, ← compareSessionOrder_eq]
  constructor
  · exact SessionKeepsOrder.order
  · intro horder
    refine ⟨horder, ?_⟩
    have hsorted := horder.pairwise_sortBy
    rw [messages_reconcileSession, choices.sorter.stable _ _ horder, InOrder, List.pairwise_map]
    refine (hsorted.sublist List.filter_sublist).imp fun {left right} hbelow i j hi hj => ?_
    rw [Below, compareSessionOrder, hi, hj] at hbelow
    exact Nat.isLE_compare.mp hbelow

/-! ## Both sides -/

/-- **When system messages leave the causal order alone.**  On either side, exactly
when no message without a position in the graph stands in time between two that
the graph has the other way round. -/
theorem keepsGraphOrder_iff (choices : Desktop.Choices) (messages : List PairBackendMessage)
    (mobileChoices : Mobile.Choices) (chat : List ChatMessage) :
    (ChannelKeepsOrder choices messages ↔ PositionsClear choices messages) ∧
      (SessionKeepsOrder mobileChoices chat ↔ SessionPositionsClear mobileChoices chat) :=
  ⟨channelKeepsOrder_iff, sessionKeepsOrder_iff⟩

/-- A message of the host, written at `ts` by its clock. -/
def skewedMessage (id kind : String) (ts : ℕ) (after : List String) : PairBackendMessage where
  id := id
  sender := "agent"
  text := "hello"
  ts := ts
  kind := kind
  origin := "host"
  originSeq := 0
  after := after
  missingAfter := []
  gatewayMessageId := ""
  gatewayMessageSeq := 0

/-- A parent, its child with a clock behind, and a system message in between. -/
def skewedMessages : List PairBackendMessage :=
  [skewedMessage "msg_p" "chat" 10 [], skewedMessage "msg_c" "chat" 1 ["msg_p"],
    skewedMessage "msg_s" "system" 5 []]

def skewedSessionMessage (id : String) (kind : ChatKind) (ts : JsNumber) (after : List String) :
    ChatMessage where
  id := id
  sender := .host
  text := "hello"
  createdAt := ""
  ts := ts
  kind := kind
  origin := some .host
  originSeq := 0
  after := after
  missingAfter := []
  deliveryStatus := none
  deliveryError := ""

def skewedSessionMessages : List ChatMessage :=
  [skewedSessionMessage "msg_p" .chat 10 [], skewedSessionMessage "msg_c" .chat 1 ["msg_p"],
    skewedSessionMessage "msg_s" .system 5 []]

def plainSession : Mobile.Choices := ⟨compare, String.instTransOrd, .insertion⟩

/-- **System messages break the causal order** on both sides: by time the child
stands before the system message and that before the parent, by position the
parent before the child. -/
theorem not_keepsGraphOrder :
    (¬∀ choices messages, ChannelKeepsOrder choices messages) ∧
      ¬∀ choices messages, SessionKeepsOrder choices messages := by
  constructor
  · intro hall
    have htrans := (hall .plain skewedMessages).order.trans
      (markedMessages skewedMessages)[1] (List.getElem_mem _)
      (markedMessages skewedMessages)[2] (List.getElem_mem _)
      (markedMessages skewedMessages)[0] (List.getElem_mem _)
    exact absurd (htrans (by decide) (by decide)) (by decide)
  · intro hall
    have htrans := (hall plainSession skewedSessionMessages).order.trans
      (unsortedMessages plainSession skewedSessionMessages)[2] (List.getElem_mem _)
      (unsortedMessages plainSession skewedSessionMessages)[0] (List.getElem_mem _)
      (unsortedMessages plainSession skewedSessionMessages)[1] (List.getElem_mem _)
    exact absurd (htrans (by decide) (by decide)) (by decide)

end OpenClaw.Chat

import OpenClaw.Lib.ContiguousPrefix
import OpenClaw.Lib.Kahn
import OpenClaw.Runtime.Number
import OpenClaw.Runtime.Text

/-!
# The chat log of a mobile session

The mobile keeps the messages of a session in an array.  Every change goes
through `reconcileSessionMessages`: it normalizes the messages, keeps one per
trimmed id, orders the chat messages by the graph of their parents
(`analyzeOpenClawPairChatGraph`, the same worklist as everywhere) and sorts the
system messages in between.  `describeSessionChatState` is the summary the
mobile sends to the desktop.
-/

namespace OpenClaw.Mobile

open OpenClaw.Runtime StableSort

inductive Sender
  | self
  | host
deriving DecidableEq, Inhabited

inductive ChatKind
  | chat
  | system
deriving DecidableEq, Inhabited

inductive Origin
  | host
  | mobile
deriving DecidableEq, Inhabited

inductive DeliveryStatus
  | sending
  | sent
  | failed
deriving DecidableEq, Inhabited

/-- A message of a session.  `sender` is the field `from` of the source; a
missing number is `nan`, since every reader applies `|| 0` first. -/
structure ChatMessage where
  id : String
  sender : Sender
  text : String
  createdAt : String
  ts : JsNumber
  kind : ChatKind
  origin : Option Origin
  originSeq : JsNumber
  after : List String
  missingAfter : List String
  deliveryStatus : Option DeliveryStatus
  deliveryError : String
deriving DecidableEq, Inhabited

/-- What the runtime decides: `localeCompare`, which is an order, and what
sorting by a comparator that is none gives. -/
structure Choices where
  localeCompare : String → String → Ordering
  trans : Std.TransCmp localeCompare
  sorter : SortAlgorithm

/-! ## Normal forms -/

def normalizeMessageTs (message : ChatMessage) : JsNumber := message.ts.orZero

def normalizeOrigin (message : ChatMessage) : Origin :=
  if message.origin = some .mobile then .mobile else .host

def normalizeOriginSeq (message : ChatMessage) : ℕ∞ := message.originSeq.count

/-- `normalizeOpenClawPairChatAfterIds`. -/
def normalizeAfterIds (values : List String) : List String :=
  OrderedSet.ofList ((values.map jsTrim).filter fun value => decide (value ≠ ""))

def normalizeDeliveryStatus (message : ChatMessage) : Option DeliveryStatus :=
  if message.kind ≠ .system ∧ message.sender = .self then
    if message.deliveryStatus = some .sending ∨ message.deliveryStatus = some .failed then
      message.deliveryStatus
    else some .sent
  else none

def normalizeChatMessage (message : ChatMessage) : ChatMessage :=
  { message with
    id := jsTrim message.id
    ts := normalizeMessageTs message
    origin := if message.kind = .system then none else some (normalizeOrigin message)
    originSeq := if message.kind = .system then .nan else .ofCount (normalizeOriginSeq message)
    after := if message.kind = .system then [] else normalizeAfterIds message.after
    missingAfter := if message.kind = .system then [] else normalizeAfterIds message.missingAfter
    deliveryStatus := normalizeDeliveryStatus message
    deliveryError :=
      if normalizeDeliveryStatus message = some .failed then jsTrim message.deliveryError else "" }

def extractChatMessages (messages : List ChatMessage) : List ChatMessage :=
  (messages.map normalizeChatMessage).filter fun message =>
    decide (message.kind ≠ .system ∧ message.id ≠ "")

/-! ## The graph -/

/-- What the graph reads of a message (`OpenClawPairChatMessageLike`). -/
structure MessageLike where
  id : String
  after : List String
  ts : JsNumber
deriving DecidableEq

def toLike (message : ChatMessage) : MessageLike := ⟨message.id, message.after, message.ts⟩

/-- By timestamp, then by id. -/
def compareMessageOrder (choices : Choices) (left right : MessageLike) : Ordering :=
  if left.ts.orZero ≠ right.ts.orZero then
    if JsNumber.lt left.ts.orZero right.ts.orZero then .lt else .gt
  else choices.localeCompare left.id right.id

/-- `byId`. -/
def likeById (messages : List MessageLike) : OrderedMap String MessageLike :=
  .ofList ((messages.filter fun message => decide (jsTrim message.id ≠ "")).map fun message =>
    (jsTrim message.id, ⟨jsTrim message.id, normalizeAfterIds message.after, message.ts.orZero⟩))

def likeParents (nodes : List MessageLike) (node : MessageLike) : List String :=
  (normalizeAfterIds node.after).filter fun id => decide (id ∈ nodes.map MessageLike.id)

def likeGraph (choices : Choices) (nodes : List MessageLike) : Kahn.Graph MessageLike String where
  nodes := nodes
  key := MessageLike.id
  parents := likeParents nodes
  cmp := compareMessageOrder choices

/-- The worklist, then what it leaves over. -/
def orderLikes (choices : Choices) (nodes : List MessageLike) : List MessageLike :=
  let ordered := (likeGraph choices nodes).kahn
  ordered ++ sortBy (compareMessageOrder choices)
    (nodes.filter fun node => decide (node.id ∉ ordered.map MessageLike.id))

structure ChatGraphAnalysis where
  ordered : List MessageLike
  leafIds : List String
  missingIds : List String

def analyzeOpenClawPairChatGraph (choices : Choices) (messages : List MessageLike) :
    ChatGraphAnalysis :=
  let nodes := (likeById messages).values
  let ordered := orderLikes choices nodes
  { ordered
    leafIds := (ordered.map MessageLike.id).filter fun id =>
      decide (id ∉ nodes.flatMap (likeParents nodes))
    missingIds := sortStrings (OrderedSet.ofList (nodes.flatMap fun node =>
      (normalizeAfterIds node.after).filter fun id => decide (id ∉ nodes.map MessageLike.id))) }

/-! ## The summary -/

structure SessionChatState where
  hostSeq : ℕ
  mobileSeq : ℕ
  leafIds : List String

/-- The numbers of an origin that are not zero. -/
def originNumbers (messages : List ChatMessage) (origin : Origin) : List ℕ∞ :=
  ((messages.filter fun message => decide (normalizeOrigin message = origin)).map
    normalizeOriginSeq).filter fun seq => decide (0 < seq)

/-- The local function `contiguousSeq`. -/
def contiguousSeq (messages : List ChatMessage) (origin : Origin) : ℕ :=
  ContiguousPrefix.contiguous Nat.cast
    (sortBy compare (OrderedSet.ofList (originNumbers messages origin)))

def describeSessionChatState (choices : Choices) (messages : List ChatMessage) :
    SessionChatState :=
  let chatMessages := extractChatMessages messages
  { hostSeq := contiguousSeq chatMessages .host
    mobileSeq := contiguousSeq chatMessages .mobile
    leafIds := (analyzeOpenClawPairChatGraph choices (chatMessages.map toLike)).leafIds }

/-! ## Reconciling -/

structure SessionMessages where
  messages : List ChatMessage
  leafIds : List String
  missingMessageIds : List String

/-- The messages of one kind by id, the last one of each id. -/
def messagesOfKind (kind : ChatKind) (messages : List ChatMessage) :
    OrderedMap String ChatMessage :=
  .ofList (((messages.map normalizeChatMessage).filter fun message =>
    decide (message.id ≠ "" ∧ message.kind = kind)).map fun message => (message.id, message))

/-- The fields a message gets from the analysis. -/
def finishMessage (missingIds : List String) (message : ChatMessage) : ChatMessage :=
  { message with
    after := normalizeAfterIds message.after
    missingAfter := (normalizeAfterIds message.after).filter fun id => decide (id ∈ missingIds) }

def compareFallbackOrder (choices : Choices) (left right : ChatMessage) : Ordering :=
  if normalizeMessageTs left ≠ normalizeMessageTs right then
    if JsNumber.lt (normalizeMessageTs left) (normalizeMessageTs right) then .lt else .gt
  else choices.localeCompare left.id right.id

/-- The comparator of the final sort; it is no order when system messages stand
between chat messages. -/
def compareSessionOrder (choices : Choices) (graphOrder : List String) (left right : ChatMessage) :
    Ordering :=
  match graphOrder.idxOf? left.id, graphOrder.idxOf? right.id with
  | some leftIndex, some rightIndex => compare leftIndex rightIndex
  | _, _ => compareFallbackOrder choices left right

def reconcileSessionMessages (choices : Choices) (messages : List ChatMessage) :
    SessionMessages :=
  let systemMessages := messagesOfKind .system messages
  let chatMessages := messagesOfKind .chat messages
  let analysis := analyzeOpenClawPairChatGraph choices (chatMessages.values.map toLike)
  let orderedChatMessages := analysis.ordered.filterMap fun messageLike =>
    (chatMessages.get messageLike.id).map (finishMessage analysis.missingIds)
  let graphOrder := orderedChatMessages.map ChatMessage.id
  { messages := choices.sorter.sort (compareSessionOrder choices graphOrder)
      (systemMessages.values ++ orderedChatMessages)
    leafIds := analysis.leafIds
    missingMessageIds := analysis.missingIds }

/-- What `upsertSessionMessage` returns. -/
structure Upserted where
  session : SessionMessages
  inserted : Bool
  newlyMissingMessageIds : List String

/-- The messages before they are reconciled: the new one replaces those of its
id. -/
def replaceMessage (currentMessages : List ChatMessage) (incoming : ChatMessage) :
    List ChatMessage :=
  (currentMessages.filter fun message => decide (jsTrim message.id ≠ incoming.id)) ++ [incoming]

def upsertSessionMessage (choices : Choices) (currentMessages : List ChatMessage)
    (nextMessage : ChatMessage) : Upserted :=
  let incoming := normalizeChatMessage nextMessage
  let previous := reconcileSessionMessages choices currentMessages
  let reconciled := reconcileSessionMessages choices (replaceMessage currentMessages incoming)
  { session := reconciled
    inserted := !currentMessages.any fun message => decide (jsTrim message.id = incoming.id)
    newlyMissingMessageIds := reconciled.missingMessageIds.filter fun id =>
      decide (id ∉ previous.missingMessageIds) }

def maxSessionMessages : ℕ := 1000

/-- `messages.slice(-MAX_SESSION_MESSAGES)`. -/
def sliceNewest (messages : List ChatMessage) : List ChatMessage :=
  messages.drop (messages.length - maxSessionMessages)

end OpenClaw.Mobile

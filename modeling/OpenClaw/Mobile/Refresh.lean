import OpenClaw.Lib.Steps
import OpenClaw.Mobile.Copies
import OpenClaw.Mobile.Session

/-!
# Refreshing a session

`refreshSessions` asks the server about the sessions as they are, and when the
answers are there merges what it asked about with what the sessions are by then.
Meanwhile messages are added and written to.  The merge puts the refreshed messages
behind the latest ones and lets the last copy win, so a refreshed copy always wins.

`Window` follows the messages of a session through the refresh, and beside them what
was last written to each.  `merge_keepsUpdates_iff` says when the merge loses none
of it.
-/

namespace OpenClaw.Mobile

open OpenClaw.Runtime StableSort Steps

/-! ## The refresh -/

/-- `refreshSessionsV2`: a session it could ask about is normalized against itself. -/
def refreshMessages (choices : Choices) (synced : Bool) (snapshot : List ChatMessage) :
    List ChatMessage :=
  if synced then (reconcileSessionMessages choices (snapshot ++ snapshot)).messages else snapshot

/-- `mergeRefreshedSessions` -/
def mergeMessages (choices : Choices) (latest refreshed : List ChatMessage) : List ChatMessage :=
  (reconcileSessionMessages choices (latest ++ refreshed)).messages

inductive WindowStep
  /-- `appendMessageLocal` -/
  | append (env : Env) (message : LocalMessage)
  /-- `upsertRemoteChatMessage` -/
  | receive (env : Env) (message : RemoteMessage)
  /-- `updateMessageDeliveryState` -/
  | deliver (messageId : String) (deliveryStatus : DeliveryStatus) (deliveryError : String)

/-- The messages of the session; a step that throws leaves them. -/
def stepMessages (choices : Choices) (messages : List ChatMessage) :
    WindowStep → List ChatMessage
  | .append env message =>
      (appendMessageLocal choices env messages message).toOption.getD messages
  | .receive env message =>
      (upsertRemoteChatMessage choices env messages message).toOption.getD messages
  | .deliver messageId deliveryStatus deliveryError =>
      updateMessageDeliveryState messages messageId deliveryStatus deliveryError

/-- The message a step adds, if it adds one. -/
def addedBy : WindowStep → Option ChatMessage
  | .append env message =>
      if jsTrim message.text ≠ "" ∧ validTime (timeOr env message.ts) then
        some (localMessage env (jsTrim message.text) message)
      else none
  | .receive env message =>
      if jsTrim message.id ≠ "" ∧ validTime (timeOr env message.ts) then
        some (remoteMessage env message)
      else none
  | .deliver _ _ _ => none

/-- A session during a refresh: its messages, every message as it was last written,
and the ids of the messages that were added. -/
structure Window where
  messages : List ChatMessage
  written : List ChatMessage
  added : List String

/-- A message is written to by being added, or by an update that finds it. -/
def writtenAfter (window : Window) : WindowStep → List ChatMessage
  | .deliver messageId deliveryStatus deliveryError =>
      if window.messages.any fun message => decide (jsTrim message.id = jsTrim messageId) then
        updateMessageDeliveryState window.written messageId deliveryStatus deliveryError
      else window.written
  | step =>
      match addedBy step with
      | some message => replaceMessage window.written (normalizeChatMessage message)
      | none => window.written

def windowStep (choices : Choices) (window : Window) (step : WindowStep) : Window where
  messages := stepMessages choices window.messages step
  written := writtenAfter window step
  added := window.added ++ (addedBy step).toList.map fun message => jsTrim message.id

def Window.start (snapshot : List ChatMessage) : Window := ⟨snapshot, snapshot, []⟩

/-! ## What must not be lost -/

structure Carried where
  text : String
  deliveryStatus : Option DeliveryStatus
  originSeq : JsNumber
deriving DecidableEq

def carried (message : ChatMessage) : Carried :=
  ⟨message.text, message.deliveryStatus, message.originSeq⟩

/-- What was added is there, and every message carries what was last written to it. -/
structure KeepsUpdates (window : Window) (merged : List ChatMessage) : Prop where
  added : ∀ id ∈ window.added, ∃ message ∈ merged, message.id = id
  current : ∀ message ∈ merged, ∃ last,
    lastCopy message.kind message.id window.written = some last ∧
      carried message = carried (normalizeChatMessage last)

/-- No message of the snapshot was changed on balance, and what was added and not in
the snapshot was not cut again. -/
structure NothingStale (snapshot : List ChatMessage) (window : Window) : Prop where
  unchanged : ∀ kind id old, lastCopy kind id snapshot = some old → ∃ last,
    lastCopy kind id window.written = some last ∧
      carried (normalizeChatMessage last) = carried (normalizeChatMessage old)
  present : ∀ id ∈ window.added, ∃ message ∈ window.messages ++ snapshot, jsTrim message.id = id

variable {choices : Choices} {message last : ChatMessage}
  {messages snapshot : List ChatMessage} {window : Window} {kind : ChatKind} {id : String}
  {step : WindowStep}

def CopyReading.carried (reading : CopyReading) : Carried :=
  ⟨reading.text, reading.deliveryStatus, reading.originSeq⟩

theorem carried_normalize (message : ChatMessage) :
    carried (normalizeChatMessage message) = (reading message).carried := rfl

/-! ## The steps -/

/-- The steps that may add a message. -/
def mayAdd : WindowStep → Bool
  | .deliver _ _ _ => false
  | _ => true

/-- **What a step that may add a message does.** -/
theorem windowStep_of_mayAdd (hadd : mayAdd step = true) :
    windowStep choices window step =
      match addedBy step with
      | some message =>
          ⟨upsertAndCut choices window.messages message,
            replaceMessage window.written (normalizeChatMessage message),
            window.added ++ [jsTrim message.id]⟩
      | none => window := by
  cases step with
  | append env message =>
      unfold windowStep
      dsimp only [stepMessages, writtenAfter]
      rw [appendMessageLocal_eq, addedBy]
      split
      · rfl
      · rw [Option.toList_none, List.map_nil, List.append_nil]
  | receive env message =>
      unfold windowStep
      dsimp only [stepMessages, writtenAfter]
      rw [upsertRemoteChatMessage_eq, addedBy]
      split
      · rfl
      · rw [Option.toList_none, List.map_nil, List.append_nil]
  | deliver messageId deliveryStatus deliveryError => cases hadd

/-! ## The invariant -/

/-- What is left of a message is what was last written to it. -/
def Current (window : Window) : Prop :=
  ∀ kind id kept, lastCopy kind id window.messages = some kept → ∃ last,
    lastCopy kind id window.written = some last ∧ reading kept = reading last

theorem lastCopy_replaceMessage {incoming : ChatMessage} :
    lastCopy kind id (replaceMessage messages incoming) =
      if isCopy kind id incoming then some incoming
      else if id = incoming.id then none else lastCopy kind id messages := by
  rw [replaceMessage, lastCopy_append, lastCopy_singleton]
  split
  · rfl
  · rw [Option.none_or]
    split
    · next hid =>
      -- the messages of this id are the ones that were taken out
      cases hlast : lastCopy kind id (messages.filter fun message =>
          decide (jsTrim message.id ≠ incoming.id)) with
      | none => rfl
      | some last =>
          obtain ⟨hmem, hcopy⟩ := lastCopy_eq_some hlast
          obtain ⟨-, -, hown⟩ := isCopy_iff.mp hcopy
          exact absurd (hown.trans hid) (of_decide_eq_true (List.mem_filter.mp hmem).2)
    · next hid =>
      refine lastCopy_filter fun message hcopy => decide_eq_true ?_
      obtain ⟨-, -, hown⟩ := isCopy_iff.mp hcopy
      exact hown.symm ▸ hid

theorem Current.upsert (hcurrent : Current window) (choices : Choices) (message : ChatMessage)
    (added : List String) : Current ⟨upsertAndCut choices window.messages message,
      replaceMessage window.written (normalizeChatMessage message), added⟩ := by
  intro kind id kept hkept
  dsimp only at hkept
  rw [upsertAndCut, session_upsertSessionMessage, sliceNewest] at hkept
  have hread := @reading_lastCopy_reconcile kind id choices
    (replaceMessage window.messages (normalizeChatMessage message))
  rw [lastCopy_of_drop hkept, Option.map_some, lastCopy_replaceMessage] at hread
  dsimp only
  rw [lastCopy_replaceMessage]
  split at hread
  · next hcopy =>
    rw [Option.map_some, Option.some_inj] at hread
    rw [if_pos hcopy]
    exact ⟨normalizeChatMessage message, rfl, hread⟩
  · next hcopy =>
    rw [if_neg hcopy]
    split at hread
    · cases hread
    · next hid =>
      rw [if_neg hid]
      cases hold : lastCopy kind id window.messages with
      | none =>
          rw [hold] at hread
          cases hread
      | some old =>
          rw [hold, Option.map_some, Option.some_inj] at hread
          obtain ⟨last, hlast, hsame⟩ := hcurrent kind id old hold
          exact ⟨last, hlast, hread.trans hsame⟩

/-- What a message reads after its delivery state was set. -/
theorem reading_withDeliveryState {left right : ChatMessage} (hsame : reading left = reading right)
    (deliveryStatus : DeliveryStatus) (deliveryError : String) :
    reading (withDeliveryState deliveryStatus deliveryError left) =
      reading (withDeliveryState deliveryStatus deliveryError right) := by
  rw [reading, reading, CopyReading.mk.injEq] at hsame
  obtain ⟨hkind, hsender, htext, -, hseq⟩ := hsame
  rw [reading, reading, CopyReading.mk.injEq]
  refine ⟨hkind, hsender, htext, ?_, hseq⟩
  rw [normalizeDeliveryStatus, normalizeDeliveryStatus, withDeliveryState, withDeliveryState]
  dsimp only
  rw [hkind, hsender]

/-- The change an update makes to a message. -/
def deliverTo (messageId : String) (deliveryStatus : DeliveryStatus) (deliveryError : String)
    (message : ChatMessage) : ChatMessage :=
  if jsTrim message.id ≠ jsTrim messageId then message
  else withDeliveryState deliveryStatus deliveryError message

theorem isCopy_deliverTo (messageId : String) (deliveryStatus : DeliveryStatus)
    (deliveryError : String) (message : ChatMessage) :
    isCopy kind id (deliverTo messageId deliveryStatus deliveryError message) =
      isCopy kind id message := by
  unfold deliverTo
  split
  · rfl
  · rfl

theorem updateMessageDeliveryState_eq {messageId : String} (hid : jsTrim messageId ≠ "")
    (deliveryStatus : DeliveryStatus) (deliveryError : String) :
    updateMessageDeliveryState messages messageId deliveryStatus deliveryError =
      messages.map (deliverTo messageId deliveryStatus deliveryError) := if_neg hid

theorem Current.deliver (hcurrent : Current window) (messageId : String)
    (deliveryStatus : DeliveryStatus) (deliveryError : String) :
    Current (windowStep choices window (.deliver messageId deliveryStatus deliveryError)) := by
  intro kind id kept hkept
  unfold windowStep at hkept ⊢
  dsimp only [stepMessages, writtenAfter] at hkept ⊢
  by_cases hblank : jsTrim messageId = ""
  · rw [updateMessageDeliveryState, if_pos hblank] at hkept
    rw [updateMessageDeliveryState, if_pos hblank, ite_self]
    exact hcurrent kind id kept hkept
  rw [updateMessageDeliveryState_eq hblank, lastCopy_map (isCopy_deliverTo _ _ _),
    Option.map_eq_some_iff] at hkept
  obtain ⟨old, hold, rfl⟩ := hkept
  obtain ⟨last, hlast, hsame⟩ := hcurrent kind id old hold
  have htrim : ∀ {messages message}, lastCopy kind id messages = some message →
      jsTrim message.id = id := fun hmessage =>
    (isCopy_iff.mp (lastCopy_eq_some hmessage).2).2.2
  split
  · rw [updateMessageDeliveryState_eq hblank, lastCopy_map (isCopy_deliverTo _ _ _), hlast]
    refine ⟨_, rfl, ?_⟩
    rw [deliverTo, deliverTo, htrim hold, htrim hlast]
    split
    · exact hsame
    · exact reading_withDeliveryState hsame deliveryStatus deliveryError
  · next hnone =>
    -- the update finds nothing, so it is not for this message either
    have hother : jsTrim old.id ≠ jsTrim messageId := by
      intro hid
      exact hnone (List.any_eq_true.mpr ⟨old, (lastCopy_eq_some hold).1, decide_eq_true hid⟩)
    rw [deliverTo, if_pos hother]
    exact ⟨last, hlast, hsame⟩

theorem Current.windowStep (hcurrent : Current window) (step : WindowStep) :
    Current (Mobile.windowStep choices window step) := by
  cases hadd : mayAdd step with
  | true =>
      rw [windowStep_of_mayAdd hadd]
      split
      · exact hcurrent.upsert choices _ _
      · exact hcurrent
  | false =>
      cases step with
      | deliver messageId deliveryStatus deliveryError => exact hcurrent.deliver _ _ _
      | _ => cases hadd

theorem current_run (choices : Choices) (snapshot : List ChatMessage) (steps : List WindowStep) :
    Current (run (windowStep choices) (.start snapshot) steps) :=
  run_preserves_of_step (fun _ step hcurrent => hcurrent.windowStep step) steps
    fun _ _ kept hkept => ⟨kept, hkept, rfl⟩

/-! ## The merge -/

theorem reading_lastCopy_refresh (synced : Bool) :
    (lastCopy kind id (refreshMessages choices synced snapshot)).map reading =
      (lastCopy kind id snapshot).map reading := by
  unfold refreshMessages
  split
  · rw [reading_lastCopy_reconcile, lastCopy_append, Option.or_self]
  · rfl

/-- **The refreshed copy wins.** -/
theorem reading_lastCopy_merge (latest : List ChatMessage) (synced : Bool) :
    (lastCopy kind id (latest ++ refreshMessages choices synced snapshot)).map reading =
      ((lastCopy kind id snapshot).or (lastCopy kind id latest)).map reading := by
  rw [lastCopy_append, Option.map_or, reading_lastCopy_refresh, ← Option.map_or]

theorem carried_of_mem_reconcile
    (hmem : message ∈ (reconcileSessionMessages choices messages).messages) :
    carried message = (reading message).carried := by
  have hkept : ∀ {kind kept}, kept ∈ (messagesOfKind kind messages).values →
      carried kept = (reading kept).carried := by
    intro kind kept hvalue
    obtain ⟨id, hget⟩ := OrderedMap.mem_values_iff.mp hvalue
    obtain ⟨-, -, -, old, -, rfl⟩ := key_messagesOfKind hget
    rw [reading_normalize, carried_normalize]
  rcases List.mem_append.mp ((reconcile_perm_values choices messages).mem_iff.mp hmem) with
    hsystem | hchat
  · exact hkept hsystem
  · obtain ⟨kept, hvalue, rfl⟩ := List.mem_map.mp hchat
    have hcarried : carried kept = (reading kept).carried := hkept hvalue
    rw [reading_finish]
    exact hcarried

theorem addedBy_id (hadded : addedBy step = some message) : jsTrim message.id ≠ "" := by
  have hmade : jsTrim "msg_" ≠ "" := by decide
  cases step with
  | append env argument =>
      rw [addedBy] at hadded
      split at hadded
      · obtain rfl := Option.some.inj hadded
        rw [localMessage]
        dsimp only
        split
        · exact trim_append_ne_empty hmade env.random
        · next hid => rwa [jsTrim_jsTrim]
      · cases hadded
  | receive env argument =>
      rw [addedBy] at hadded
      split at hadded
      · next hvalid =>
        obtain rfl := Option.some.inj hadded
        rw [remoteMessage, jsTrim_jsTrim]
        exact hvalid.1
      · cases hadded
  | deliver messageId deliveryStatus deliveryError => cases hadded

theorem added_run (choices : Choices) (snapshot : List ChatMessage) (steps : List WindowStep) :
    ∀ id ∈ (run (windowStep choices) (.start snapshot) steps).added, id ≠ "" := by
  have hkeep : ∀ (window : Window) (step : WindowStep), (∀ id ∈ window.added, id ≠ "") →
      ∀ id ∈ (windowStep choices window step).added, id ≠ "" := by
    intro window step hne id hid
    rcases List.mem_append.mp hid with hold | hnew
    · exact hne id hold
    · obtain ⟨message, hmessage, rfl⟩ := List.mem_map.mp hnew
      exact addedBy_id (Option.mem_toList.mp hmessage)
  exact run_preserves_of_step hkeep steps fun id hid => nomatch hid

/-- A copy that is there on either side is merged. -/
theorem exists_merged (choices : Choices) (latest : List ChatMessage) (synced : Bool)
    (hlast : (lastCopy kind id snapshot).or (lastCopy kind id latest) = some last) :
    ∃ message ∈ mergeMessages choices latest (refreshMessages choices synced snapshot),
      message.kind = kind ∧ message.id = id ∧ reading message = reading last := by
  have hmerged := @reading_lastCopy_merge choices snapshot kind id latest synced
  rw [hlast, Option.map_some, Option.map_eq_some_iff] at hmerged
  obtain ⟨copy, hcopy, hsame⟩ := hmerged
  obtain ⟨message, hmem, hkind, hid, hread⟩ := exists_mem_reconcile choices hcopy
  exact ⟨message, hmem, hkind, hid, hread.trans hsame⟩

/-- What is merged was there on one side, the refreshed one first. -/
theorem exists_origin (latest : List ChatMessage) (synced : Bool) (hmem : message ∈
    mergeMessages choices latest (refreshMessages choices synced snapshot)) :
    ∃ last, (lastCopy message.kind message.id snapshot).or
        (lastCopy message.kind message.id latest) = some last ∧ reading message = reading last := by
  obtain ⟨-, copy, hcopy, hread⟩ := exists_lastCopy hmem
  have hmerged := @reading_lastCopy_merge choices snapshot message.kind message.id latest synced
  rw [hcopy, Option.map_some, eq_comm, Option.map_eq_some_iff] at hmerged
  obtain ⟨last, hlast, hsame⟩ := hmerged
  exact ⟨last, hlast, hread.trans hsame.symm⟩

/-- **When a refresh loses no update.** -/
theorem merge_keepsUpdates_iff (choices : Choices) (snapshot : List ChatMessage)
    (steps : List WindowStep) (synced : Bool) :
    KeepsUpdates (run (windowStep choices) (.start snapshot) steps)
        (mergeMessages choices (run (windowStep choices) (.start snapshot) steps).messages
          (refreshMessages choices synced snapshot)) ↔
      NothingStale snapshot (run (windowStep choices) (.start snapshot) steps) := by
  have hcurrent := current_run choices snapshot steps
  have hadded := added_run choices snapshot steps
  generalize run (windowStep choices) (.start snapshot) steps = window at hcurrent hadded
  constructor
  · intro hkeeps
    constructor
    · intro kind id old hold
      obtain ⟨message, hmem, rfl, rfl, hread⟩ := exists_merged choices
        window.messages synced (by rw [hold, Option.some_or])
      obtain ⟨last, hlast, hsame⟩ := hkeeps.current message hmem
      refine ⟨last, hlast, ?_⟩
      rw [← hsame, carried_of_mem_reconcile hmem, hread, carried_normalize]
    · intro id hid
      obtain ⟨message, hmem, rfl⟩ := hkeeps.added id hid
      obtain ⟨last, hlast, -⟩ := exists_origin window.messages synced hmem
      rcases Option.or_eq_some_iff.mp hlast with hsnapshot | ⟨-, hlatest⟩
      · obtain ⟨hin, hcopy⟩ := lastCopy_eq_some hsnapshot
        exact ⟨last, List.mem_append_right _ hin, (isCopy_iff.mp hcopy).2.2⟩
      · obtain ⟨hin, hcopy⟩ := lastCopy_eq_some hlatest
        exact ⟨last, List.mem_append_left _ hin, (isCopy_iff.mp hcopy).2.2⟩
  · intro hstale
    constructor
    · intro id hid
      obtain ⟨message, hmem, rfl⟩ := hstale.present id hid
      have hcopy : isCopy message.kind (jsTrim message.id) message = true :=
        isCopy_iff.mpr ⟨hadded _ hid, rfl, rfl⟩
      have hlast : ∃ last, (lastCopy message.kind (jsTrim message.id) snapshot).or
          (lastCopy message.kind (jsTrim message.id) window.messages) = some last := by
        rw [← lastCopy_append]
        exact exists_lastCopy_iff.mpr ⟨message, hmem, hcopy⟩
      obtain ⟨last, hlast⟩ := hlast
      obtain ⟨merged, hmerged, -, hsame, -⟩ := exists_merged choices
        window.messages synced hlast
      exact ⟨merged, hmerged, hsame⟩
    · intro message hmem
      obtain ⟨origin, horigin, hread⟩ := exists_origin window.messages synced hmem
      rw [carried_of_mem_reconcile hmem, hread]
      rcases Option.or_eq_some_iff.mp horigin with hsnapshot | ⟨-, hlatest⟩
      · obtain ⟨last, hlast, hsame⟩ := hstale.unchanged _ _ _ hsnapshot
        exact ⟨last, hlast, hsame.symm⟩
      · obtain ⟨last, hlast, hsame⟩ := hcurrent _ _ _ hlatest
        exact ⟨last, hlast, by rw [hsame, carried_normalize]⟩

/-- An own message is being sent when the refresh starts and is sent before it is
merged; the refreshed copy is still being sent. -/
theorem not_merge_keepsUpdates : ¬∀ (choices : Choices) (snapshot : List ChatMessage)
    (steps : List WindowStep) (synced : Bool),
    KeepsUpdates (run (windowStep choices) (.start snapshot) steps)
      (mergeMessages choices (run (windowStep choices) (.start snapshot) steps).messages
        (refreshMessages choices synced snapshot)) := by
  intro hkeeps
  let sending : ChatMessage :=
    ⟨"msg_1", .self, "hello", "", .nan, .chat, some .mobile, .ofCount 1, [], [], some .sending, ""⟩
  have hcurrent := (hkeeps ⟨compare, String.instTransOrd, .insertion⟩ [sending]
    [.deliver "msg_1" .sent ""] true).current
  revert hcurrent
  decide

end OpenClaw.Mobile

import OpenClaw.Desktop.Message
import OpenClaw.Runtime.Object
import OpenClaw.Lib.Steps

/-!
# Waiting for the acks of a mobile

A message that the mobile has to acknowledge is registered in `pending_mobile_acks` before it
is sent and armed after that: a timer is started, and when it fires the message is sent again.
Acks, failed sends, timers and retries interleave freely, and an event here is one critical
section of the desktop, or the end of a retry's send.

Every registration has a number of its own.  The `history` records, newest first, the
registrations, the acks and the retries; no function of the source reads it.
-/

namespace OpenClaw.Desktop

open OpenClaw.Runtime
open OrderedMap (get_of_get_erase)

structure PendingMobileAck where
  messageId : String
  bindingId : String
  mobileId : String
  payload : Json
  preferRelay : Bool
  attempts : ℕ

/-- An entry of `pending_mobile_acks`; it is armed once an arm that found it has started the
timer. -/
structure Registration extends PendingMobileAck where
  number : ℕ
  armed : Bool

inductive AckMark
  | registered (number : ℕ)
  | acked (messageIds : List String)
  | retried (registration : Registration) (preferRelay : Bool)

structure PendingAcks where
  entries : OrderedMap String Registration
  /-- The calls of `arm_pending_mobile_ack` that are to start a timer, with the registration
  they found. -/
  arming : List (String × ℕ)
  /-- The timers that have not fired yet. -/
  timers : List String
  /-- The retries whose send is not answered. -/
  sends : List Registration
  registrations : ℕ
  history : List AckMark

def PendingAcks.initial : PendingAcks := ⟨∅, [], [], [], 0, []⟩

/-! ## Critical sections -/

def registerPendingMobileAck (acks : PendingAcks) (bindingId mobileId messageId : String)
    (payload : Json) (preferRelay : Bool) : PendingAcks :=
  let normalizedMessageId := unicodeTrim messageId
  if normalizedMessageId = "" then acks
  else
    { acks with
      entries := acks.entries.set normalizedMessageId
        { messageId := normalizedMessageId
          bindingId := unicodeTrim bindingId
          mobileId := unicodeTrim mobileId
          payload := payload
          preferRelay := preferRelay
          attempts := 0
          number := acks.registrations
          armed := false }
      registrations := acks.registrations + 1
      history := .registered acks.registrations :: acks.history }

/-- `arm_pending_mobile_ack`, up to the timer. -/
def armPendingMobileAck (acks : PendingAcks) (messageId : String) (preferRelay : Bool) :
    PendingAcks :=
  let normalizedMessageId := unicodeTrim messageId
  if normalizedMessageId = "" then acks
  else
    match acks.entries.get normalizedMessageId with
    | some entry =>
        { acks with
          entries := acks.entries.set normalizedMessageId { entry with preferRelay := preferRelay }
          arming := acks.arming ++ [(normalizedMessageId, entry.number)] }
    | none => acks

/-- The registration is armed, if its entry is still there. -/
def markArmed (entries : OrderedMap String Registration) (messageId : String) (number : ℕ) :
    OrderedMap String Registration :=
  match entries.get messageId with
  | some entry =>
      if entry.number = number then entries.set messageId { entry with armed := true } else entries
  | none => entries

/-- `schedule_mobile_ack_retry` -/
def scheduleMobileAckRetry (acks : PendingAcks) (messageId : String) : PendingAcks :=
  { acks with timers := acks.timers ++ [messageId] }

/-- The rest of `arm_pending_mobile_ack`. -/
def startTimer (acks : PendingAcks) (index : ℕ) : PendingAcks :=
  match acks.arming[index]? with
  | some (messageId, number) =>
      scheduleMobileAckRetry
        { acks with
          arming := acks.arming.eraseIdx index
          entries := markArmed acks.entries messageId number }
        messageId
  | none => acks

def markMobileAckReceived (acks : PendingAcks) (messageIds : List String) : PendingAcks :=
  let normalizedIds := normalizeChatMessageIds messageIds
  if normalizedIds = [] then acks
  else
    { acks with
      entries := acks.entries.filter fun messageId _ => decide (messageId ∉ normalizedIds)
      history := .acked normalizedIds :: acks.history }

def clearPendingMobileAck (acks : PendingAcks) (messageId : String) : PendingAcks :=
  let normalizedMessageId := unicodeTrim messageId
  if normalizedMessageId = "" then acks
  else { acks with entries := acks.entries.erase normalizedMessageId }

/-- `retry_pending_mobile_ack`, up to the send. -/
def retryPendingMobileAck (acks : PendingAcks) (messageId : String) : PendingAcks :=
  match acks.entries.get messageId with
  | none => acks
  | some entry =>
      if 2 ≤ entry.attempts then { acks with entries := acks.entries.erase messageId }
      else
        let pending := { entry with attempts := entry.attempts + 1 }
        { acks with
          entries := acks.entries.set messageId pending
          sends := acks.sends ++ [pending]
          history := .retried pending (pending.preferRelay || 0 < pending.attempts) ::
            acks.history }

/-- The timer of a message fires. -/
def fireTimer (acks : PendingAcks) (messageId : String) : PendingAcks :=
  if messageId ∈ acks.timers then
    retryPendingMobileAck { acks with timers := acks.timers.erase messageId } messageId
  else acks

/-- `retry_pending_mobile_ack`, behind the send; after a failure it only writes to the log. -/
def finishRetry (acks : PendingAcks) (index : ℕ) (delivered : Bool) : PendingAcks :=
  match acks.sends[index]? with
  | some pending =>
      let finished := { acks with sends := acks.sends.eraseIdx index }
      if delivered then scheduleMobileAckRetry finished pending.messageId else finished
  | none => acks

inductive AckEvent
  | register (bindingId mobileId messageId : String) (payload : Json) (preferRelay : Bool)
  | arm (messageId : String) (preferRelay : Bool)
  /-- The arm with this index starts its timer. -/
  | start (index : ℕ)
  | ack (messageIds : List String)
  | clear (messageId : String)
  | fire (messageId : String)
  /-- The send of the retry with this index is answered. -/
  | answer (index : ℕ) (delivered : Bool)

def stepAcks (acks : PendingAcks) : AckEvent → PendingAcks
  | .register bindingId mobileId messageId payload preferRelay =>
      registerPendingMobileAck acks bindingId mobileId messageId payload preferRelay
  | .arm messageId preferRelay => armPendingMobileAck acks messageId preferRelay
  | .start index => startTimer acks index
  | .ack messageIds => markMobileAckReceived acks messageIds
  | .clear messageId => clearPendingMobileAck acks messageId
  | .fire messageId => fireTimer acks messageId
  | .answer index delivered => finishRetry acks index delivered

/-! ## What the bookkeeping is for -/

/-- A timer or a retry will get back to the message. -/
def PendingAcks.Attended (acks : PendingAcks) (messageId : String) : Prop :=
  messageId ∈ acks.timers ∨ ∃ retry ∈ acks.sends, retry.messageId = messageId

/-- No orphans: what is armed is attended. -/
def PendingAcks.NoOrphans (acks : PendingAcks) : Prop :=
  ∀ messageId entry, acks.entries.get messageId = some entry → entry.armed = true →
    acks.Attended messageId

def AckMark.isRetryOf (number : ℕ) : AckMark → Bool
  | .retried registration _ => registration.number = number
  | _ => false

/-- How often a registration was retried. -/
def PendingAcks.retries (acks : PendingAcks) (number : ℕ) : ℕ :=
  acks.history.countP (AckMark.isRetryOf number)

/-- The message was not acknowledged since this registration of it. -/
def Awaited (history : List AckMark) (registration : Registration) : Prop :=
  ∀ since messageIds older, history = since ++ .acked messageIds :: older →
    registration.messageId ∈ messageIds → AckMark.registered registration.number ∈ since

/-- A retry never starts after its ack. -/
def RespectsAcks (history : List AckMark) : Prop :=
  ∀ later registration preferRelay earlier,
    history = later ++ .retried registration preferRelay :: earlier → Awaited earlier registration

structure PendingAcks.Kept (acks : PendingAcks) : Prop where
  noOrphans : acks.NoOrphans
  retries : ∀ number, acks.retries number ≤ 2
  acked : RespectsAcks acks.history

/-- A retry fails, and nothing else gets back to its armed entry. -/
def Abandons (acks : PendingAcks) : AckEvent → Prop
  | .answer index false =>
      ∃ retry entry, acks.sends[index]? = some retry ∧
        acks.entries.get retry.messageId = some entry ∧ entry.armed = true ∧
        ¬{ acks with sends := acks.sends.eraseIdx index }.Attended retry.messageId
  | _ => False

section PendingAcks

variable {acks after : PendingAcks} {history : List AckMark} {mark : AckMark}
  {messageId bindingId mobileId : String} {messageIds : List String} {payload : Json}
  {preferRelay delivered : Bool} {entry pending registration : Registration} {number index : ℕ}

/-! ## The history -/

theorem awaited_cons (hawaited : Awaited history registration)
    (hmark : ∀ messageIds, mark = .acked messageIds → registration.messageId ∉ messageIds) :
    Awaited (mark :: history) registration := by
  intro since messageIds older heq hmem
  cases since with
  | nil => exact absurd hmem (hmark messageIds (List.cons.inj heq).1)
  | cons first since =>
      exact List.mem_cons_of_mem _ (hawaited since messageIds older (List.cons.inj heq).2 hmem)

/-- A registration is awaited from the moment it is made. -/
theorem awaited_registered (hnumber : registration.number = number) :
    Awaited (.registered number :: history) registration := by
  intro since messageIds older heq hmem
  cases since with
  | nil => cases (List.cons.inj heq).1
  | cons first since =>
      rw [hnumber, ← (List.cons.inj heq).1]
      exact List.mem_cons_self

theorem respectsAcks_cons (hrespects : RespectsAcks history)
    (hmark : ∀ registration preferRelay, mark = .retried registration preferRelay →
      Awaited history registration) :
    RespectsAcks (mark :: history) := by
  intro later registration preferRelay earlier heq
  cases later with
  | nil =>
      obtain ⟨hretried, rfl⟩ := List.cons.inj heq
      exact hmark registration preferRelay hretried
  | cons first later =>
      exact hrespects later registration preferRelay earlier (List.cons.inj heq).2

/-! ## Entries and their numbers -/

/-- Every entry stands under its id, has a number of its own, counts its retries, and was not
acknowledged. -/
structure Numbered (acks : PendingAcks) : Prop where
  keyed : ∀ messageId entry, acks.entries.get messageId = some entry → entry.messageId = messageId
  old : ∀ messageId entry, acks.entries.get messageId = some entry →
    entry.number < acks.registrations
  distinct : ∀ messageId other entry entry', acks.entries.get messageId = some entry →
    acks.entries.get other = some entry' → entry.number = entry'.number → messageId = other
  counted : ∀ messageId entry, acks.entries.get messageId = some entry →
    acks.retries entry.number = entry.attempts
  attempts : ∀ messageId entry, acks.entries.get messageId = some entry → entry.attempts ≤ 2
  fresh : ∀ number, acks.registrations ≤ number → acks.retries number = 0
  bounded : ∀ number, acks.retries number ≤ 2
  awaited : ∀ messageId entry, acks.entries.get messageId = some entry →
    Awaited acks.history entry
  respects : RespectsAcks acks.history

/-- Entries go, or only their flags change. -/
structure Keeps (acks after : PendingAcks) : Prop where
  history : after.history = acks.history
  registrations : after.registrations = acks.registrations
  entries : ∀ messageId entry, after.entries.get messageId = some entry →
    ∃ before, acks.entries.get messageId = some before ∧ before.messageId = entry.messageId ∧
      before.number = entry.number ∧ before.attempts = entry.attempts

theorem Keeps.refl (acks : PendingAcks) : Keeps acks acks :=
  ⟨rfl, rfl, fun _ entry hget => ⟨entry, hget, rfl, rfl, rfl⟩⟩

theorem Numbered.of_keeps (hnumbered : Numbered acks) (hkeeps : Keeps acks after) :
    Numbered after := by
  obtain ⟨hhistory, hregistrations, hentries⟩ := hkeeps
  have hretries : after.retries = acks.retries := by
    funext number
    rw [PendingAcks.retries, hhistory, PendingAcks.retries]
  refine
    { keyed := fun messageId entry hget => ?_
      old := fun messageId entry hget => ?_
      distinct := fun messageId other entry entry' hget hother hnumber => ?_
      counted := fun messageId entry hget => ?_
      attempts := fun messageId entry hget => ?_
      fresh := by rw [hretries, hregistrations]; exact hnumbered.fresh
      bounded := by rw [hretries]; exact hnumbered.bounded
      awaited := fun messageId entry hget => ?_
      respects := by rw [hhistory]; exact hnumbered.respects }
  · obtain ⟨before, hbefore, hid, -, -⟩ := hentries messageId entry hget
    rw [← hid]
    exact hnumbered.keyed messageId before hbefore
  · obtain ⟨before, hbefore, -, hnumber, -⟩ := hentries messageId entry hget
    rw [← hnumber, hregistrations]
    exact hnumbered.old messageId before hbefore
  · obtain ⟨before, hbefore, -, hfirst, -⟩ := hentries messageId entry hget
    obtain ⟨before', hbefore', -, hsecond, -⟩ := hentries other entry' hother
    apply hnumbered.distinct messageId other before before' hbefore hbefore'
    rw [hfirst, hsecond, hnumber]
  · obtain ⟨before, hbefore, -, hnumber, hattempts⟩ := hentries messageId entry hget
    rw [hretries, ← hnumber, ← hattempts]
    exact hnumbered.counted messageId before hbefore
  · obtain ⟨before, hbefore, -, -, hattempts⟩ := hentries messageId entry hget
    rw [← hattempts]
    exact hnumbered.attempts messageId before hbefore
  · obtain ⟨before, hbefore, hid, hnumber, -⟩ := hentries messageId entry hget
    rw [hhistory, Awaited, ← hid, ← hnumber]
    exact hnumbered.awaited messageId before hbefore

/-- A mark that is no retry changes no count. -/
theorem countP_cons_of_not (hmark : ∀ number, mark.isRetryOf number = false) (number : ℕ) :
    (mark :: history).countP (AckMark.isRetryOf number) =
      history.countP (AckMark.isRetryOf number) := by
  apply List.countP_cons_of_neg
  rw [hmark number]
  exact Bool.false_ne_true

theorem numbered_register (hnumbered : Numbered acks) :
    Numbered (registerPendingMobileAck acks bindingId mobileId messageId payload preferRelay) := by
  unfold registerPendingMobileAck
  dsimp only
  split
  · exact hnumbered
  set key := unicodeTrim messageId
  have hretries : ∀ number, (AckMark.registered acks.registrations :: acks.history).countP
      (AckMark.isRetryOf number) = acks.retries number := countP_cons_of_not fun _ => rfl
  refine
    { keyed := fun other entry hget => ?_
      old := fun other entry hget => ?_
      distinct := fun first second entry entry' hfirst hsecond hnumber => ?_
      counted := fun other entry hget => ?_
      attempts := fun other entry hget => ?_
      fresh := fun number hle => ?_
      bounded := fun number => ?_
      awaited := fun other entry hget => ?_
      respects := ?_ }
  · rcases OrderedMap.of_get_set hget with ⟨rfl, rfl⟩ | ⟨-, hold⟩
    · rfl
    · exact hnumbered.keyed other entry hold
  · show entry.number < acks.registrations + 1
    rcases OrderedMap.of_get_set hget with ⟨rfl, rfl⟩ | ⟨-, hold⟩
    · exact Nat.lt_succ_self _
    · exact Nat.lt_succ_of_lt (hnumbered.old other entry hold)
  · rcases OrderedMap.of_get_set hfirst with ⟨rfl, rfl⟩ | ⟨-, hold⟩
    · rcases OrderedMap.of_get_set hsecond with ⟨rfl, rfl⟩ | ⟨-, hold'⟩
      · rfl
      · have hlt := hnumbered.old second entry' hold'
        rw [← hnumber] at hlt
        exact absurd hlt (lt_irrefl _)
    · rcases OrderedMap.of_get_set hsecond with ⟨rfl, rfl⟩ | ⟨-, hold'⟩
      · have hlt := hnumbered.old first entry hold
        rw [hnumber] at hlt
        exact absurd hlt (lt_irrefl _)
      · exact hnumbered.distinct first second entry entry' hold hold' hnumber
  · apply (hretries entry.number).trans
    rcases OrderedMap.of_get_set hget with ⟨rfl, rfl⟩ | ⟨-, hold⟩
    · exact hnumbered.fresh _ le_rfl
    · exact hnumbered.counted other entry hold
  · rcases OrderedMap.of_get_set hget with ⟨rfl, rfl⟩ | ⟨-, hold⟩
    · exact Nat.zero_le 2
    · exact hnumbered.attempts other entry hold
  · have hsucc : acks.registrations + 1 ≤ number := hle
    exact (hretries number).trans (hnumbered.fresh number (by omega))
  · exact (hretries number).trans_le (hnumbered.bounded number)
  · rcases OrderedMap.of_get_set hget with ⟨rfl, rfl⟩ | ⟨-, hold⟩
    · exact awaited_registered rfl
    · exact awaited_cons (hnumbered.awaited other entry hold) nofun
  · exact respectsAcks_cons hnumbered.respects nofun

theorem keeps_arm : Keeps acks (armPendingMobileAck acks messageId preferRelay) := by
  unfold armPendingMobileAck
  dsimp only
  split
  · exact Keeps.refl acks
  split
  · next before hbefore =>
      refine ⟨rfl, rfl, fun other entry hget => ?_⟩
      rw [OrderedMap.get_set] at hget
      split at hget
      · next hother =>
          obtain rfl := Option.some_inj.mp hget
          exact ⟨before, hother ▸ hbefore, rfl, rfl, rfl⟩
      · exact ⟨entry, hget, rfl, rfl, rfl⟩
  · exact Keeps.refl acks

/-- Marking touches the flag of one entry. -/
theorem get_markArmed {entries : OrderedMap String Registration} {other : String}
    (hget : (markArmed entries messageId number).get other = some entry) :
    ∃ before, entries.get other = some before ∧
      (entry = before ∨ other = messageId ∧ entry = { before with armed := true }) := by
  unfold markArmed at hget
  split at hget
  · next before hbefore =>
      split at hget
      · rw [OrderedMap.get_set] at hget
        split at hget
        · next hother =>
            obtain rfl := Option.some_inj.mp hget
            exact ⟨before, hother ▸ hbefore, Or.inr ⟨hother, rfl⟩⟩
        · exact ⟨entry, hget, Or.inl rfl⟩
      · exact ⟨entry, hget, Or.inl rfl⟩
  · exact ⟨entry, hget, Or.inl rfl⟩

theorem keeps_start : Keeps acks (startTimer acks index) := by
  unfold startTimer
  split
  · refine ⟨rfl, rfl, fun other entry hget => ?_⟩
    obtain ⟨before, hbefore, rfl | ⟨-, rfl⟩⟩ := get_markArmed hget
    · exact ⟨entry, hbefore, rfl, rfl, rfl⟩
    · exact ⟨before, hbefore, rfl, rfl, rfl⟩
  · exact Keeps.refl acks

theorem keeps_clear : Keeps acks (clearPendingMobileAck acks messageId) := by
  unfold clearPendingMobileAck
  dsimp only
  split
  · exact Keeps.refl acks
  · exact ⟨rfl, rfl, fun other entry hget => ⟨entry, get_of_get_erase hget, rfl, rfl, rfl⟩⟩

theorem numbered_ack (hnumbered : Numbered acks) :
    Numbered (markMobileAckReceived acks messageIds) := by
  unfold markMobileAckReceived
  dsimp only
  split
  · exact hnumbered
  set ids := normalizeChatMessageIds messageIds
  let filtered : PendingAcks :=
    { acks with entries := acks.entries.filter fun messageId _ => decide (messageId ∉ ids) }
  have hget : ∀ other entry, filtered.entries.get other = some entry →
      acks.entries.get other = some entry ∧ other ∉ ids := by
    intro other entry hfiltered
    rw [OrderedMap.get_filter_eq_some_iff] at hfiltered
    exact ⟨hfiltered.1, of_decide_eq_true hfiltered.2⟩
  have hkeeps : Keeps acks filtered :=
    ⟨rfl, rfl, fun other entry hother => ⟨entry, (hget other entry hother).1, rfl, rfl, rfl⟩⟩
  have hfiltered : Numbered filtered := hnumbered.of_keeps hkeeps
  have hretries : ∀ number, (AckMark.acked ids :: filtered.history).countP
      (AckMark.isRetryOf number) = filtered.retries number := countP_cons_of_not fun _ => rfl
  refine
    { keyed := hfiltered.keyed, old := hfiltered.old, distinct := hfiltered.distinct
      counted := fun other entry hother => (hretries _).trans (hfiltered.counted other entry hother)
      attempts := hfiltered.attempts
      fresh := fun number hle => (hretries number).trans (hfiltered.fresh number hle)
      bounded := fun number => (hretries number).trans_le (hfiltered.bounded number)
      awaited := fun other entry hother => ?_
      respects := respectsAcks_cons hfiltered.respects nofun }
  refine awaited_cons (hfiltered.awaited other entry hother) ?_
  intro acked hacked
  -- what the ack names has left the entries
  rw [hfiltered.keyed other entry hother, ← (AckMark.acked.inj hacked)]
  exact (hget other entry hother).2

theorem numbered_retry (hnumbered : Numbered acks) :
    Numbered (retryPendingMobileAck acks messageId) := by
  unfold retryPendingMobileAck
  split
  · exact hnumbered
  next before hbefore =>
  split
  · have hkeeps : Keeps acks { acks with entries := acks.entries.erase messageId } :=
      ⟨rfl, rfl, fun other entry hget => ⟨entry, get_of_get_erase hget, rfl, rfl, rfl⟩⟩
    exact hnumbered.of_keeps hkeeps
  next hfew =>
  dsimp only
  set retried : Registration := { before with attempts := before.attempts + 1 }
  set relay : Bool := retried.preferRelay || decide (0 < retried.attempts)
  have hcount : ∀ number,
      (AckMark.retried retried relay :: acks.history).countP (AckMark.isRetryOf number) =
        acks.retries number + if before.number = number then 1 else 0 := by
    intro number
    rw [List.countP_cons]
    congr 1
    exact if_congr decide_eq_true_iff rfl rfl
  have hown : acks.retries before.number = before.attempts :=
    hnumbered.counted messageId before hbefore
  refine
    { keyed := fun other entry hget => ?_
      old := fun other entry hget => ?_
      distinct := fun first second entry entry' hfirst hsecond hnumber => ?_
      counted := fun other entry hget => ?_
      attempts := fun other entry hget => ?_
      fresh := fun number hle => ?_
      bounded := fun number => ?_
      awaited := fun other entry hget => ?_
      respects := ?_ }
  · rcases OrderedMap.of_get_set hget with ⟨rfl, rfl⟩ | ⟨-, hold⟩
    · exact hnumbered.keyed other before hbefore
    · exact hnumbered.keyed other entry hold
  · rcases OrderedMap.of_get_set hget with ⟨rfl, rfl⟩ | ⟨-, hold⟩
    · exact hnumbered.old other before hbefore
    · exact hnumbered.old other entry hold
  · -- the entry keeps its number
    have hsource : ∀ other entry, (acks.entries.set messageId retried).get other = some entry →
        ∃ old, acks.entries.get other = some old ∧ old.number = entry.number := by
      intro other entry hget
      rcases OrderedMap.of_get_set hget with ⟨rfl, rfl⟩ | ⟨-, hold⟩
      · exact ⟨before, hbefore, rfl⟩
      · exact ⟨entry, hold, rfl⟩
    obtain ⟨old, hold, hnumber₁⟩ := hsource first entry hfirst
    obtain ⟨old', hold', hnumber₂⟩ := hsource second entry' hsecond
    apply hnumbered.distinct first second old old' hold hold'
    rw [hnumber₁, hnumber₂, hnumber]
  · show (AckMark.retried retried relay :: acks.history).countP _ = entry.attempts
    rw [hcount entry.number]
    rcases OrderedMap.of_get_set hget with ⟨rfl, rfl⟩ | ⟨hne, hold⟩
    · rw [if_pos rfl, show retried.number = before.number from rfl, hown]
    · rw [if_neg fun hnumber => hne (hnumbered.distinct _ _ _ _ hold hbefore hnumber.symm),
        Nat.add_zero]
      exact hnumbered.counted other entry hold
  · rcases OrderedMap.of_get_set hget with ⟨rfl, rfl⟩ | ⟨-, hold⟩
    · show before.attempts + 1 ≤ 2
      omega
    · exact hnumbered.attempts other entry hold
  · show (AckMark.retried retried relay :: acks.history).countP _ = 0
    have hlt := hnumbered.old messageId before hbefore
    have hle : acks.registrations ≤ number := hle
    rw [hcount number, if_neg (by omega), hnumbered.fresh number hle]
  · show (AckMark.retried retried relay :: acks.history).countP _ ≤ 2
    rw [hcount number]
    by_cases hnumber : before.number = number
    · rw [if_pos hnumber, ← hnumber, hown]
      omega
    · rw [if_neg hnumber]
      exact hnumbered.bounded number
  · rcases OrderedMap.of_get_set hget with ⟨rfl, rfl⟩ | ⟨-, hold⟩
    · have hawaited : Awaited acks.history retried := hnumbered.awaited other before hbefore
      exact awaited_cons hawaited nofun
    · exact awaited_cons (hnumbered.awaited other entry hold) nofun
  · refine respectsAcks_cons hnumbered.respects fun registration preferRelay heq => ?_
    obtain ⟨rfl, -⟩ := AckMark.retried.inj heq
    exact hnumbered.awaited messageId before hbefore

theorem numbered_stepAcks {event : AckEvent} (hnumbered : Numbered acks) :
    Numbered (stepAcks acks event) := by
  cases event with
  | register bindingId mobileId messageId payload preferRelay =>
      rw [stepAcks]
      exact numbered_register hnumbered
  | arm messageId preferRelay =>
      rw [stepAcks]
      exact hnumbered.of_keeps keeps_arm
  | start index => exact hnumbered.of_keeps keeps_start
  | ack messageIds => exact numbered_ack hnumbered
  | clear messageId =>
      rw [stepAcks]
      exact hnumbered.of_keeps keeps_clear
  | fire messageId =>
      show Numbered (fireTimer acks messageId)
      unfold fireTimer
      split
      · have hfired : Numbered { acks with timers := acks.timers.erase messageId } :=
          hnumbered.of_keeps ⟨rfl, rfl, fun _ entry hget => ⟨entry, hget, rfl, rfl, rfl⟩⟩
        exact numbered_retry hfired
      · exact hnumbered
  | answer index delivered =>
      show Numbered (finishRetry acks index delivered)
      unfold finishRetry
      split
      · dsimp only
        split
        · exact hnumbered.of_keeps ⟨rfl, rfl, fun _ entry hget => ⟨entry, hget, rfl, rfl, rfl⟩⟩
        · exact hnumbered.of_keeps ⟨rfl, rfl, fun _ entry hget => ⟨entry, hget, rfl, rfl, rfl⟩⟩
      · exact hnumbered

/-! ## Orphans -/

/-- No orphan comes up where nothing is armed that was not, and what was attended still is. -/
theorem PendingAcks.NoOrphans.of (hkept : acks.NoOrphans)
    (harmed : ∀ messageId entry, after.entries.get messageId = some entry → entry.armed = true →
      ∃ before, acks.entries.get messageId = some before ∧ before.armed = true)
    (hattended : ∀ messageId, acks.Attended messageId → after.Attended messageId) :
    after.NoOrphans := by
  intro messageId entry hget hentry
  obtain ⟨before, hbefore, hold⟩ := harmed messageId entry hget hentry
  exact hattended messageId (hkept messageId before hbefore hold)

theorem noOrphans_register (hkept : acks.NoOrphans) :
    (registerPendingMobileAck acks bindingId mobileId messageId payload preferRelay).NoOrphans := by
  unfold registerPendingMobileAck
  dsimp only
  split
  · exact hkept
  refine hkept.of (fun other entry hget hentry => ?_) fun _ hattended => hattended
  rw [OrderedMap.get_set] at hget
  split at hget
  · -- a new registration is not armed
    obtain rfl := Option.some_inj.mp hget
    cases hentry
  · exact ⟨entry, hget, hentry⟩

theorem noOrphans_arm (hkept : acks.NoOrphans) :
    (armPendingMobileAck acks messageId preferRelay).NoOrphans := by
  unfold armPendingMobileAck
  dsimp only
  split
  · exact hkept
  split
  · next before hbefore =>
      refine hkept.of (fun other entry hget hentry => ?_) fun _ hattended => hattended
      rw [OrderedMap.get_set] at hget
      split at hget
      · next hother =>
          obtain rfl := Option.some_inj.mp hget
          exact ⟨before, hother ▸ hbefore, hentry⟩
      · exact ⟨entry, hget, hentry⟩
  · exact hkept

theorem attended_schedule (messageId : String) :
    (scheduleMobileAckRetry acks messageId).Attended messageId :=
  Or.inl (List.mem_append_right _ (List.mem_singleton_self _))

theorem noOrphans_start (hkept : acks.NoOrphans) : (startTimer acks index).NoOrphans := by
  unfold startTimer
  split
  · next armed number _ =>
      intro other entry hget hentry
      obtain ⟨before, hbefore, rfl | ⟨rfl, -⟩⟩ := get_markArmed hget
      · rcases hkept other entry hbefore hentry with htimer | hsend
        · exact Or.inl (List.mem_append_left _ htimer)
        · exact Or.inr hsend
      · exact attended_schedule other
  · exact hkept

theorem noOrphans_ack (hkept : acks.NoOrphans) :
    (markMobileAckReceived acks messageIds).NoOrphans := by
  unfold markMobileAckReceived
  dsimp only
  split
  · exact hkept
  refine hkept.of (fun other entry hget hentry => ?_) fun _ hattended => hattended
  rw [OrderedMap.get_filter_eq_some_iff] at hget
  exact ⟨entry, hget.1, hentry⟩

theorem noOrphans_clear (hkept : acks.NoOrphans) :
    (clearPendingMobileAck acks messageId).NoOrphans := by
  unfold clearPendingMobileAck
  dsimp only
  split
  · exact hkept
  · exact hkept.of (fun other entry hget hentry => ⟨entry, get_of_get_erase hget, hentry⟩)
      fun _ hattended => hattended

/-- A timer that fires leaves a retry behind, or no entry. -/
theorem noOrphans_fire (hnumbered : Numbered acks) (hkept : acks.NoOrphans) :
    (fireTimer acks messageId).NoOrphans := by
  unfold fireTimer
  split
  swap
  · exact hkept
  have hothers : ∀ other, other ≠ messageId → acks.Attended other →
      { acks with timers := acks.timers.erase messageId }.Attended other := by
    rintro other hne (htimer | hsend)
    · exact Or.inl ((List.mem_erase_of_ne hne).mpr htimer)
    · exact Or.inr hsend
  unfold retryPendingMobileAck
  dsimp only
  cases hbefore : acks.entries.get messageId with
  | none =>
      intro other entry hget hentry
      have hne : other ≠ messageId := by
        rintro rfl
        rw [show acks.entries.get other = some entry from hget] at hbefore
        cases hbefore
      exact hothers other hne (hkept other entry hget hentry)
  | some before =>
      dsimp only
      split
      · intro other entry hget hentry
        have hne : other ≠ messageId := by
          rintro rfl
          rw [OrderedMap.get_erase_self] at hget
          cases hget
        exact hothers other hne (hkept other entry (get_of_get_erase hget) hentry)
      · intro other entry hget hentry
        by_cases hother : other = messageId
        · refine Or.inr ⟨_, List.mem_append_right _ (List.mem_singleton_self _), ?_⟩
          rw [hother]
          exact hnumbered.keyed messageId before hbefore
        · rw [OrderedMap.get_set_of_ne _ _ hother] at hget
          rcases hothers other hother (hkept other entry hget hentry) with htimer | hsend
          · exact Or.inl htimer
          · obtain ⟨retry, hretry, hid⟩ := hsend
            exact Or.inr ⟨retry, List.mem_append_left _ hretry, hid⟩

/-- The end of one retry leaves the others. -/
theorem attended_eraseIdx {retry : Registration} (hretry : acks.sends[index]? = some retry)
    (hother : messageId ≠ retry.messageId) (hattended : acks.Attended messageId) :
    { acks with sends := acks.sends.eraseIdx index }.Attended messageId := by
  rcases hattended with htimer | ⟨other, hmem, hid⟩
  · exact Or.inl htimer
  · obtain ⟨position, hposition⟩ := List.getElem?_of_mem hmem
    have hne : position ≠ index := by
      rintro rfl
      rw [hretry, Option.some_inj] at hposition
      exact hother (by rw [← hid, hposition])
    exact Or.inr ⟨other, List.mem_eraseIdx_iff_getElem?.mpr ⟨position, hne, hposition⟩, hid⟩

theorem noOrphans_answer_iff (hkept : acks.NoOrphans) :
    (finishRetry acks index delivered).NoOrphans ↔ ¬Abandons acks (.answer index delivered) := by
  unfold finishRetry
  cases hretry : acks.sends[index]? with
  | none =>
      refine iff_of_true hkept ?_
      cases delivered with
      | true => exact not_false
      | false =>
          rintro ⟨retry, -, hsome, -⟩
          rw [hretry] at hsome
          cases hsome
  | some retry =>
      dsimp only
      cases delivered with
      | true =>
          refine iff_of_true (fun other entry hget hentry => ?_) not_false
          by_cases hother : other = retry.messageId
          · rw [hother]
            exact attended_schedule retry.messageId
          · have hattended := attended_eraseIdx hretry hother (hkept other entry hget hentry)
            rcases hattended with htimer | hsend
            · exact Or.inl (List.mem_append_left _ htimer)
            · exact Or.inr hsend
      | false =>
          constructor
          · rintro hafter ⟨retry', entry, hsome, hget, hentry, hleft⟩
            obtain rfl := Option.some_inj.mp (hretry.symm.trans hsome)
            exact hleft (hafter retry.messageId entry hget hentry)
          · intro hnot other entry hget hentry
            by_cases hother : other = retry.messageId
            · subst hother
              by_contra hleft
              exact hnot ⟨retry, entry, hretry, hget, hentry, hleft⟩
            · exact attended_eraseIdx hretry hother (hkept other entry hget hentry)

/-- **One step** leaves an orphan exactly if it abandons an entry. -/
theorem noOrphans_stepAcks_iff {event : AckEvent} (hnumbered : Numbered acks)
    (hkept : acks.NoOrphans) : (stepAcks acks event).NoOrphans ↔ ¬Abandons acks event := by
  cases event with
  | register bindingId mobileId messageId payload preferRelay =>
      rw [stepAcks]
      exact iff_of_true (noOrphans_register hkept) not_false
  | arm messageId preferRelay =>
      rw [stepAcks]
      exact iff_of_true (noOrphans_arm hkept) not_false
  | start index => exact iff_of_true (noOrphans_start hkept) not_false
  | ack messageIds => exact iff_of_true (noOrphans_ack hkept) not_false
  | clear messageId =>
      rw [stepAcks]
      exact iff_of_true (noOrphans_clear hkept) not_false
  | fire messageId => exact iff_of_true (noOrphans_fire hnumbered hkept) not_false
  | answer index delivered => exact noOrphans_answer_iff hkept

/-! ## Runs -/

theorem numbered_initial : Numbered .initial where
  keyed := nofun
  old := nofun
  distinct := nofun
  counted := nofun
  attempts := nofun
  fresh _ _ := rfl
  bounded _ := Nat.zero_le 2
  awaited := nofun
  respects := by
    intro later registration preferRelay earlier heq
    cases later with
    | nil => cases heq
    | cons first later => cases heq

theorem numbered_run (events : List AckEvent) : Numbered (Steps.run stepAcks .initial events) := by
  have hstep : ∀ acks event, Numbered acks → Numbered (stepAcks acks event) :=
    fun _ _ hnumbered => numbered_stepAcks hnumbered
  exact Steps.run_preserves_of_step hstep events numbered_initial

/-- **The bookkeeping is kept exactly if no retry that fails abandons its entry.** -/
theorem pendingAcks_kept_iff (events : List AckEvent) :
    (∀ reached, reached <+: events → (Steps.run stepAcks .initial reached).Kept) ↔
      Steps.Along stepAcks (fun acks event => ¬Abandons acks event) .initial events := by
  have hkept : ∀ reached, (Steps.run stepAcks .initial reached).Kept ↔
      (Steps.run stepAcks .initial reached).NoOrphans := by
    intro reached
    have hnumbered := numbered_run reached
    exact ⟨PendingAcks.Kept.noOrphans, fun hnone => ⟨hnone, hnumbered.bounded, hnumbered.respects⟩⟩
  have hfree : Steps.Along stepAcks (fun _ _ => True) .initial events :=
    Steps.along_of_forall fun _ _ _ => trivial
  have hnone : PendingAcks.initial.NoOrphans := fun _ _ hget => by cases hget
  calc
    _ ↔ ∀ reached, reached <+: events → (Steps.run stepAcks .initial reached).NoOrphans :=
      forall₂_congr fun reached _ => hkept reached
    _ ↔ Steps.Along stepAcks (fun acks event => ¬Abandons acks event) .initial events :=
      Steps.forall_prefix_iff_along_of_sound (fun _ _ hnumbered _ => numbered_stepAcks hnumbered)
        (fun _ _ hnumbered hnone _ => noOrphans_stepAcks_iff hnumbered hnone)
        numbered_initial hnone hfree

end PendingAcks

/-- A message is registered and armed, its timer fires, and the retry fails. -/
def failedRetry : List AckEvent :=
  [.register "binding" "mobile" "msg" .null false, .arm "msg" false, .start 0, .fire "msg",
    .answer 0 false]

/-- **Its entry stays behind**, and nothing will ever get back to it. -/
theorem failed_retry_orphans :
    ¬∀ events, (Steps.run stepAcks .initial events).Kept := by
  intro hall
  have hrun : ((Steps.run stepAcks .initial failedRetry).entries.get "msg").any
      Registration.armed = true ∧ (Steps.run stepAcks .initial failedRetry).timers = [] ∧
      (Steps.run stepAcks .initial failedRetry).sends.length = 0 := by
    decide
  obtain ⟨hentry, htimers, hsends⟩ := hrun
  obtain ⟨entry, hget, harmed⟩ := (Option.any_eq_true _ _).mp hentry
  rcases (hall failedRetry).noOrphans "msg" entry hget harmed with htimer | ⟨retry, hretry, -⟩
  · rw [htimers] at htimer
    cases htimer
  · rw [List.eq_nil_of_length_eq_zero hsends] at hretry
    cases hretry

end OpenClaw.Desktop

import OpenClaw.Chat.Sending
import OpenClaw.Chat.SystemOrder
import OpenClaw.Mobile.Session

/-!
# Numbers are not used again

Either side numbers an own message by the largest own number it still has, plus
one.  The desktop appends a new message at the end before it cuts the front, so
the last number it gave is there when it gives the next one: executed one at a
time, its numbers grow until `u64` runs out.  The mobile cuts after it has sorted,
and a received message of the same id replaces an own one; it gives larger numbers
exactly as long as some own message still reaches every number it gave
(`numbers_increase_iff`).
-/

namespace OpenClaw.Chat

open OpenClaw.Runtime OpenClaw.Desktop OpenClaw.Mobile Steps

/-! ## The desktop, one call at a time -/

inductive Turn
  /-- A call that numbers its message and appends it. -/
  | send (call : Call) (text : String) (now : ℕ) (suffix : String) (choices : Desktop.Choices)
  | transcript (entries : List OpenClawTranscriptEntry) (choices : Desktop.Choices)

def Turn.events : Turn → List SendEvent
  | .send call text now suffix choices => [.build 0 call text now suffix, .append 0 true choices]
  | .transcript entries choices => [.transcript entries choices]

def turnStep (state : Sending) (turn : Turn) : Sending := run sendStep state turn.events

variable {state : Sending} {channel : PairBackendChannel}

theorem appends_true (call : Call) : call.appends true = true := by cases call <;> rfl

/-- A call that has something to say, from its number to its append. -/
theorem turnStep_send {call : Call} {text : String} (now : ℕ) (suffix : String)
    (choices : Desktop.Choices) (htext : ¬(call = .mirrorReply ∧ unicodeTrim text = "")) :
    let message := buildOutgoingChatMessage ("msg_" ++ suffix) state.channel.messages call.sender
      text now
    turnStep state (.send call text now suffix choices) =
      { channel := (appendMessage choices state.channel message).1
        calls := Function.update state.calls 0 none
        appended := state.appended ++ [message.originSeq] } := by
  have happends := appends_true call
  unfold turnStep Turn.events
  rw [run_cons, run_cons, run_nil, sendStep, build, if_neg htext, sendStep, appendOutgoing]
  dsimp only
  rw [Function.update_self]
  dsimp only
  rw [happends, if_pos rfl, Function.update_idem]

/-- A reply that is blank is not sent. -/
theorem turnStep_blank {call : Call} {text : String} (now : ℕ) (suffix : String)
    (choices : Desktop.Choices) (hidle : state.calls 0 = none)
    (htext : call = .mirrorReply ∧ unicodeTrim text = "") :
    turnStep state (.send call text now suffix choices) = state := by
  unfold turnStep Turn.events
  rw [run_cons, run_cons, run_nil, sendStep, build, if_pos htext, sendStep, appendOutgoing, hidle]

/-- Between two turns no call is under way. -/
structure AtRest (state : Sending) : Prop extends Serial state where
  idle : ∀ id, state.calls id = none

theorem atRest_start (channel : PairBackendChannel) : AtRest (.start channel) :=
  ⟨serial_start channel, fun _ => rfl⟩

theorem prefix_appended_turn (state : Sending) (turn : Turn) :
    state.appended <+: (turnStep state turn).appended := by
  cases turn with
  | send call text now suffix choices =>
      exact (prefix_appended state _).trans (prefix_appended _ (.append 0 true choices))
  | transcript entries choices => exact prefix_appended state (.transcript entries choices)

/-- While there are numbers left, a turn is not disturbed. -/
theorem AtRest.turn (hrest : AtRest state) {turn : Turn}
    (hroom : (turnStep state turn).appended.length ≤ u64Max) : AtRest (turnStep state turn) := by
  cases turn with
  | send call text now suffix choices =>
      by_cases htext : call = .mirrorReply ∧ unicodeTrim text = ""
      · rw [turnStep_blank now suffix choices (hrest.idle 0) htext]
        exact hrest
      · have hturn := @turnStep_send state call text now suffix choices htext
        rw [hturn, List.length_append, List.length_singleton] at hroom
        have hbuilt := hrest.build 0 call text now suffix
        have hserial : Serial (turnStep state (.send call text now suffix choices)) := by
          refine hbuilt.appendOutgoing choices fun outgoing hcall _ => ?_
          rw [build, if_neg htext] at hcall ⊢
          dsimp only at hcall
          rw [Function.update_self] at hcall
          obtain rfl := Option.some.inj hcall
          exact ⟨rfl, hroom⟩
        refine ⟨hserial, fun id => ?_⟩
        rw [hturn]
        dsimp only
        rw [Function.update_apply, hrest.idle id, ite_self]
  | transcript entries choices =>
      refine ⟨hrest.importAll choices fun _ => ?_, hrest.idle⟩
      exact List.length_append.symm.trans_le hroom

theorem Serial.increasing (hserial : Serial state) : state.appended.Pairwise (· < ·) :=
  hserial.appended ▸ List.pairwise_lt_range'

/-- Every number is one of `u64`. -/
structure InRange (state : Sending) : Prop where
  idle : ∀ id, state.calls id = none
  range : ∀ n ∈ state.appended, 1 ≤ n ∧ n ≤ u64Max

theorem InRange.turn (hrange : InRange state) (turn : Turn) : InRange (turnStep state turn) := by
  cases turn with
  | send call text now suffix choices =>
      by_cases htext : call = .mirrorReply ∧ unicodeTrim text = ""
      · rw [turnStep_blank now suffix choices (hrange.idle 0) htext]
        exact hrange
      · rw [turnStep_send now suffix choices htext]
        refine ⟨fun id => ?_, fun n hn => ?_⟩
        · dsimp only
          rw [Function.update_apply, hrange.idle id, ite_self]
        · rcases List.mem_append.mp hn with hold | hnew
          · exact hrange.range n hold
          · rw [List.mem_singleton.mp hnew]
            exact ⟨saturatingSucc_pos _, saturatingSucc_le _⟩
  | transcript entries choices =>
      refine ⟨hrange.idle, fun n hn => ?_⟩
      rcases List.mem_append.mp hn with hold | hnew
      · exact hrange.range n hold
      · obtain ⟨new, hgrown⟩ := exists_grown entries
          ⟨state.channel.messages, nextChannelOriginSeq state.channel.messages "host", none⟩
        have hseqs : importedSeqs entries state.channel.messages = seqsFrom _ new.length :=
          hgrown.seqs_drop
        rw [hseqs] at hnew
        exact mem_seqsFrom (saturatingSucc_pos _) (saturatingSucc_le _) hnew

/-- **The desktop's numbers grow** until `u64` runs out. -/
theorem appended_increasing_iff (channel : PairBackendChannel) (turns : List Turn) :
    (run turnStep (.start channel) turns).appended.Pairwise (· < ·) ↔
      (run turnStep (.start channel) turns).appended.length ≤ u64Max := by
  constructor
  · intro hincreasing
    have hstart : InRange (.start channel) := ⟨fun _ => rfl, fun _ hn => nomatch hn⟩
    have hrange : InRange (run turnStep (.start channel) turns) :=
      run_preserves_of_step (fun _ turn hrange => hrange.turn turn) turns hstart
    have hnodup : (run turnStep (.start channel) turns).appended.Nodup := hincreasing.imp ne_of_lt
    have hsubset : (run turnStep (.start channel) turns).appended ⊆ List.range' 1 u64Max := by
      intro n hn
      have := hrange.range n hn
      exact List.mem_range'_1.mpr (by omega)
    have hle := (List.subperm_of_subset hnodup hsubset).length_le
    rwa [List.length_range'] at hle
  · intro hroom
    have halong : Along turnStep
        (fun state turn => (turnStep state turn).appended.length ≤ u64Max) (.start channel)
          turns := by
      refine (safe_iff_along (fun state (hrest : AtRest state) => hrest.bound)
        (fun _ _ hrest hnext => hrest.turn hnext) (fun _ _ _ hnot => hnot)
        (fun state turn hnext => ?_) (atRest_start channel)).mp hroom
      exact (prefix_appended_turn state turn).length_le.trans hnext
    have hrest : AtRest (run turnStep (.start channel) turns) :=
      run_preserves (fun _ _ hrest hnext => hrest.turn hnext) (atRest_start channel) halong
    exact hrest.increasing

/-! ## The mobile -/

/-- A session, and the numbers its user's messages were given, in order. -/
structure OwnNumbers where
  messages : List ChatMessage
  given : List ℕ∞

inductive OwnEvent
  | send (env : Mobile.Env) (trustState text : String) (options : SendOptions)
  | receive (env : Mobile.Env) (message : RemoteMessage)
  /-- A delivery ends, well or not. -/
  | settle (messageId : String) (deliveryStatus : DeliveryStatus) (deliveryError : String)

def ownStep (choices : Mobile.Choices) (state : OwnNumbers) : OwnEvent → OwnNumbers
  | .send env trustState text options =>
      match sendMessage choices env trustState state.messages text options with
      | .ok (messages, draft) => ⟨messages, state.given ++ [draft.originSeq.count]⟩
      | .error _ => state
  | .receive env message =>
      match upsertRemoteChatMessage choices env state.messages message with
      | .ok messages => { state with messages }
      | .error _ => state
  | .settle messageId deliveryStatus deliveryError =>
      { state with
        messages := updateMessageDeliveryState state.messages messageId deliveryStatus
          deliveryError }

/-- The session still has an own message that reaches every number it gave. -/
def StillReaches (state : OwnNumbers) : OwnEvent → Prop
  | .send env trustState text options => Accepted env trustState text options →
      ∀ n ∈ state.given, ∃ message ∈ state.messages,
        countsFor .mobile message = true ∧ n < JsNumber.plusOne message.originSeq.count
  | .receive .. => True
  | .settle .. => True

theorem lt_nextOriginSeq_iff {messages : List ChatMessage} {n : ℕ∞} (hpos : 1 ≤ n) :
    n < nextOriginSeq messages .mobile ↔ ∃ message ∈ messages,
      countsFor .mobile message = true ∧ n < JsNumber.plusOne message.originSeq.count := by
  let numbers := (messages.filter (countsFor .mobile)).map fun message => message.originSeq.count
  have hmem : ∀ {value}, value ∈ numbers ↔ ∃ message ∈ messages,
      countsFor .mobile message = true ∧ message.originSeq.count = value := by
    intro value
    simp only [numbers, List.mem_map, List.mem_filter, and_assoc]
  constructor
  · intro hlt
    rcases ContiguousPrefix.foldl_max_mem numbers 0 with hzero | hlargest
    · have hone : nextOriginSeq messages .mobile = 1 := by
        rw [nextOriginSeq, hzero]
        rfl
      exact absurd hpos (hone ▸ hlt).not_ge
    · obtain ⟨message, hmessage, hcounts, heq⟩ := hmem.mp hlargest
      exact ⟨message, hmessage, hcounts, heq ▸ hlt⟩
  · intro hexists
    obtain ⟨message, hmessage, hcounts, hlt⟩ := hexists
    have hle := (ContiguousPrefix.foldl_max_le_iff.mp (le_refl (numbers.foldl max 0))).2
      message.originSeq.count (hmem.mpr ⟨message, hmessage, hcounts, rfl⟩)
    exact hlt.trans_le (JsNumber.plusOne_mono hle)

variable {choices : Mobile.Choices} {own : OwnNumbers} {event : OwnEvent}

/-- The numbers so far grow, and none is zero. -/
structure Growing (own : OwnNumbers) : Prop where
  increasing : own.given.Pairwise (· < ·)
  positive : ∀ n ∈ own.given, 1 ≤ n

theorem given_send {env : Mobile.Env} {trustState text : String} {options : SendOptions}
    (haccepted : Accepted env trustState text options) :
    (ownStep choices own (.send env trustState text options)).given =
      own.given ++ [nextOriginSeq own.messages .mobile] := by
  rw [ownStep, sendMessage_of_accepted haccepted]
  dsimp only
  rw [draftMessage, JsNumber.count_ofCount]

theorem given_of_not_send (hnot : ∀ env trustState text options,
    event = .send env trustState text options → ¬Accepted env trustState text options) :
    (ownStep choices own event).given = own.given := by
  cases event with
  | send env trustState text options =>
      obtain ⟨error, herror⟩ :
          ∃ error, sendMessage choices env trustState own.messages text options = .error error :=
        sendMessage_of_not_accepted (hnot env trustState text options rfl)
      rw [ownStep, herror]
  | receive env message =>
      rw [ownStep]
      split
      · rfl
      · rfl
  | settle messageId deliveryStatus deliveryError => rfl

theorem prefix_given (choices : Mobile.Choices) (own : OwnNumbers) (event : OwnEvent) :
    own.given <+: (ownStep choices own event).given := by
  by_cases hsend : ∃ env trustState text options, event = .send env trustState text options ∧
      Accepted env trustState text options
  · obtain ⟨env, trustState, text, options, rfl, haccepted⟩ := hsend
    rw [given_send haccepted]
    exact List.prefix_append _ _
  · push Not at hsend
    rw [given_of_not_send hsend]

theorem stillReaches_of_not_send (hnot : ∀ env trustState text options,
    event = .send env trustState text options → ¬Accepted env trustState text options) :
    StillReaches own event := by
  cases event with
  | send env trustState text options =>
      exact fun haccepted => absurd haccepted (hnot env trustState text options rfl)
  | receive env message => trivial
  | settle messageId deliveryStatus deliveryError => trivial

/-- The next number is larger exactly if every number given is still reached. -/
theorem increasing_send_iff (hgrowing : Growing own) {env : Mobile.Env} {trustState text : String}
    {options : SendOptions} (haccepted : Accepted env trustState text options) :
    (ownStep choices own (.send env trustState text options)).given.Pairwise (· < ·) ↔
      StillReaches own (.send env trustState text options) := by
  rw [given_send haccepted, List.pairwise_append, and_iff_right hgrowing.increasing,
    and_iff_right (List.pairwise_singleton _ _)]
  constructor
  · intro hall _ n hn
    exact (lt_nextOriginSeq_iff (hgrowing.positive n hn)).mp
      (hall n hn _ (List.mem_singleton_self _))
  · intro hreaches n hn next hnext
    rw [List.mem_singleton.mp hnext]
    exact (lt_nextOriginSeq_iff (hgrowing.positive n hn)).mpr (hreaches haccepted n hn)

theorem Growing.keep (hgrowing : Growing own) (hreaches : StillReaches own event) :
    Growing (ownStep choices own event) := by
  by_cases hsend : ∃ env trustState text options, event = .send env trustState text options ∧
      Accepted env trustState text options
  · obtain ⟨env, trustState, text, options, rfl, haccepted⟩ := hsend
    refine ⟨(increasing_send_iff hgrowing haccepted).mpr hreaches, fun n hn => ?_⟩
    rw [given_send haccepted] at hn
    rcases List.mem_append.mp hn with hold | hnew
    · exact hgrowing.positive n hold
    · rw [List.mem_singleton.mp hnew]
      exact JsNumber.one_le_plusOne _
  · push Not at hsend
    have hgiven : (ownStep choices own event).given = own.given := given_of_not_send hsend
    exact ⟨hgiven ▸ hgrowing.increasing, hgiven ▸ hgrowing.positive⟩

theorem Growing.break (hgrowing : Growing own) (hnot : ¬StillReaches own event) :
    ¬(ownStep choices own event).given.Pairwise (· < ·) := by
  by_cases hsend : ∃ env trustState text options, event = .send env trustState text options ∧
      Accepted env trustState text options
  · obtain ⟨env, trustState, text, options, rfl, haccepted⟩ := hsend
    exact fun hincreasing => hnot ((increasing_send_iff hgrowing haccepted).mp hincreasing)
  · push Not at hsend
    exact absurd (stillReaches_of_not_send hsend) hnot

theorem given_increasing_iff (choices : Mobile.Choices) (events : List OwnEvent) :
    (run (ownStep choices) ⟨[], []⟩ events).given.Pairwise (· < ·) ↔
      Along (ownStep choices) StillReaches ⟨[], []⟩ events := by
  have hstart : Growing ⟨[], []⟩ := ⟨List.Pairwise.nil, fun _ hn => absurd hn List.not_mem_nil⟩
  exact safe_iff_along (fun _ => Growing.increasing) (fun _ _ => Growing.keep)
    (fun _ _ => Growing.break)
    (fun own event hnext => hnext.sublist (prefix_given choices own event).sublist) hstart

/-! ## Both sides -/

/-- **When numbers are not used again.**  On the desktop, as long as `u64` has not
run out; on the mobile, exactly as long as the session still has an own message
that reaches every number it gave. -/
theorem numbers_increase_iff (channel : PairBackendChannel) (turns : List Turn)
    (choices : Mobile.Choices) (events : List OwnEvent) :
    ((run turnStep (.start channel) turns).appended.Pairwise (· < ·) ↔
        (run turnStep (.start channel) turns).appended.length ≤ u64Max) ∧
      ((run (ownStep choices) ⟨[], []⟩ events).given.Pairwise (· < ·) ↔
        Along (ownStep choices) StillReaches ⟨[], []⟩ events) :=
  ⟨appended_increasing_iff channel turns, given_increasing_iff choices events⟩

def plainEnv (now : ℕ) (random : String) : Mobile.Env := ⟨now, random, fun _ => ""⟩

/-- An own message, a received one of the same id, and another own one. -/
def replaced : List OwnEvent :=
  [.send (plainEnv 1 "1a") "active" "hello" ⟨"msg_1", .nan⟩,
    .receive (plainEnv 2 "2b") ⟨"msg_1", .host, "hello", 1, some .host, 0, []⟩,
    .send (plainEnv 3 "3c") "active" "again" ⟨"msg_2", .nan⟩]

/-- **The mobile can use a number again.** -/
theorem not_numbers_increase :
    ¬∀ choices events, (run (ownStep choices) ⟨[], []⟩ events).given.Pairwise (· < ·) := by
  intro hall
  have hincreasing := hall plainSession replaced
  have hgiven : (run (ownStep plainSession) ⟨[], []⟩ replaced).given = [1, 1] := by decide
  rw [hgiven] at hincreasing
  exact absurd hincreasing (by decide)

end OpenClaw.Chat

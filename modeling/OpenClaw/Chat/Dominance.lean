import OpenClaw.Desktop.Dominance
import OpenClaw.Mobile.Dominance

/-!
# A new message dominates the conversation

On either side a new message names the leaves of the log it is appended to.  It is then
the only leaf, every earlier chat message is its ancestor, and the graph puts it last,
whatever the clocks say and whichever parents are missing (`new_message_dominates`).
-/

namespace OpenClaw.Chat

open OpenClaw.Runtime OpenClaw.Desktop OpenClaw.Mobile

/-- **A new message dominates the log**, on the mobile and on the desktop. -/
theorem new_message_dominates :
    (∀ (choices : Mobile.Choices) (messages : List ChatMessage) (message : ChatMessage),
      Frontier.Acyclic (SessionParent messages) → Mobile.OnLeaves choices messages message →
        Mobile.Dominates choices messages message) ∧
    ∀ (choices : Desktop.Choices) (log : ChannelLog) (message : PairBackendMessage),
      Frontier.Acyclic (NamedParent log.messages) → Desktop.OnLeaves log.messages message →
        Desktop.Dominates choices log.messages message :=
  ⟨fun _ _ _ hacyclic hnew => hnew.dominates hacyclic,
    fun choices _ _ hacyclic hnew => hnew.dominates hacyclic choices⟩

/-! ## The clock of a phone runs late -/

/-- The mobile compares ids by code points. -/
def codePointChoices : Mobile.Choices := ⟨compare, String.instTransOrd, .insertion⟩

def sessionMessage (id : String) (ts : ℕ) (after : List String) : ChatMessage :=
  { (default : ChatMessage) with id, ts := .finite ts, kind := .chat, after }

def channelMessage (id : String) (ts : ℕ) (after : List String) : PairBackendMessage :=
  { (default : PairBackendMessage) with id, ts, after }

/-- A parent that never arrived, and an answer that is older than its question. -/
def skewedSession : List ChatMessage :=
  [sessionMessage "b" 5 ["a"], sessionMessage "a" 9 ["lost"]]

def skewedChannel : ChannelLog where
  messages := [channelMessage "b" 5 ["a"], channelMessage "a" 9 ["lost"]]
  distinct := by decide +kernel
  trimmed := by decide +kernel
  after := by decide +kernel

theorem new_message_dominates_skewed :
    Mobile.Dominates codePointChoices skewedSession (sessionMessage "c" 1 ["b"]) ∧
      Desktop.Dominates .plain skewedChannel.messages (channelMessage "c" 1 ["b"]) := by
  let rank : String → ℕ := fun id => if id = "a" then 0 else 1
  refine ⟨new_message_dominates.1 _ _ _ (Frontier.acyclic_of_rank rank ?_) ?_,
    new_message_dominates.2 _ _ _ (Frontier.acyclic_of_rank rank ?_) ?_⟩
  · have hranked : ∀ node ∈ sessionNodes skewedSession,
        ∀ p ∈ likeParents (sessionNodes skewedSession) node, rank p < rank node.id := by
      decide +kernel
    rintro p child ⟨node, hnode, rfl, hp⟩
    exact hranked node hnode p hp
  · exact ⟨by decide, by decide +kernel, by decide +kernel, by decide +kernel, by decide +kernel⟩
  · have hranked : ∀ message ∈ skewedChannel.messages, ∀ p ∈ message.after,
        p ∈ knownIds skewedChannel.messages → rank p < rank message.id := by
      decide +kernel
    rintro p child ⟨hknown, message, hmem, -, rfl, hp⟩
    exact hranked message hmem p hp hknown
  · exact ⟨by decide +kernel, by decide +kernel, by decide +kernel, by decide +kernel,
      by decide +kernel⟩

end OpenClaw.Chat

import OpenClaw.Peer.Channel

/-!
# The connections of a peer channel

A channel drops its connection and makes another, and never returns to one it had.  `Moved`
says so of a step; checks, signatures and messages leave the connection as it is.
-/

namespace OpenClaw.Peer

section Connections

variable {options : PeerOptions} {channel before after : PeerChannel} {reading : Reading}

/-- The connection is the one before, or a new one. -/
structure Moved (before after : PeerChannel) : Prop where
  next : before.next ≤ after.next
  peer : ∀ connection, after.peer = some connection →
    before.peer = some connection ∨ before.next ≤ connection ∧ connection < after.next

theorem Moved.refl (channel : PeerChannel) : Moved channel channel := ⟨le_rfl, fun _ => Or.inl⟩

theorem Moved.trans {middle : PeerChannel} (hfirst : Moved before middle)
    (hsecond : Moved middle after) : Moved before after := by
  refine ⟨hfirst.next.trans hsecond.next, fun connection hpeer => ?_⟩
  obtain hmiddle | hnew := hsecond.peer connection hpeer
  · obtain hbefore | hnew := hfirst.peer connection hmiddle
    · exact Or.inl hbefore
    · exact Or.inr ⟨hnew.1, hnew.2.trans_le hsecond.next⟩
  · exact Or.inr ⟨hfirst.next.trans hnew.1, hnew.2⟩

theorem Moved.of_same (hpeer : after.peer = before.peer) (hnext : after.next = before.next) :
    Moved before after :=
  ⟨hnext.ge, fun _ hsome => Or.inl (hpeer ▸ hsome)⟩

theorem Moved.ite {condition : Prop} [Decidable condition] {other : PeerChannel}
    (hyes : Moved before after) (hno : Moved before other) :
    Moved before (if condition then after else other) := by
  split
  · exact hyes
  · exact hno

theorem moved_disposePeer (state : PeerState) : Moved channel (disposePeer channel state) :=
  ⟨le_rfl, fun _ hpeer => by cases hpeer⟩

theorem moved_ensurePeer (forceRecreate : Bool) :
    Moved channel (ensurePeer channel forceRecreate) := by
  have hkept : Moved channel (if forceRecreate then disposePeer channel .connecting
      else channel) := Moved.ite (moved_disposePeer .connecting) (.refl channel)
  refine hkept.trans ?_
  unfold ensurePeer
  dsimp only
  generalize (if forceRecreate then disposePeer channel .connecting else channel) = kept
  cases hpeer : kept.peer with
  | some connection => exact .refl kept
  | none =>
      refine ⟨Nat.le_succ _, fun connection hsome => Or.inr ?_⟩
      cases hsome
      exact ⟨le_rfl, Nat.lt_succ_self _⟩

theorem exists_peer_ensurePeer (channel : PeerChannel) (forceRecreate : Bool) :
    ∃ connection, (ensurePeer channel forceRecreate).peer = some connection := by
  unfold ensurePeer
  dsimp only
  generalize (if forceRecreate then disposePeer channel .connecting else channel) = kept
  cases hpeer : kept.peer with
  | some connection => exact ⟨connection, hpeer⟩
  | none => exact ⟨kept.next, rfl⟩

theorem ensurePeer_of_peer {connection : ℕ} (hpeer : channel.peer = some connection) :
    ensurePeer channel false = channel := by
  unfold ensurePeer
  simp [hpeer]

theorem peer_attachDataChannel (channel : PeerChannel) :
    (attachDataChannel channel).peer = channel.peer := by
  unfold attachDataChannel
  split
  · rfl
  · rfl

theorem moved_attachDataChannel : Moved channel (attachDataChannel channel) := by
  unfold attachDataChannel
  split
  · exact ⟨Nat.le_succ _, fun _ => Or.inl⟩
  · exact .refl channel

theorem moved_connect (terminal closed : Bool) :
    Moved channel (connect channel terminal closed reading) := by
  have hcalled : Moved channel { channel with closedByUser := false } := .of_same rfl rfl
  unfold connect
  dsimp only
  split
  · exact hcalled
  · have hensured := hcalled.trans (moved_ensurePeer
      (channel.peer.isSome && (terminal || channel.dataChannel.isSome && closed)))
    split
    · exact (hensured.trans moved_attachDataChannel).trans (.of_same rfl rfl)
    · exact hensured.trans (.of_same rfl rfl)

/-- What leaves the connection alone. -/
structure SameConnection (before after : PeerChannel) : Prop where
  peer : after.peer = before.peer
  next : after.next = before.next

theorem SameConnection.trans {middle : PeerChannel} (hfirst : SameConnection before middle)
    (hsecond : SameConnection middle after) : SameConnection before after :=
  ⟨hsecond.peer.trans hfirst.peer, hsecond.next.trans hfirst.next⟩

/-- A `connect` keeps the connection of a ready channel, and else has one. -/
theorem connect_spec (channel : PeerChannel) (terminal closed : Bool) (reading : Reading) :
    isReady channel reading = true ∧
        (connect channel terminal closed reading).peer = channel.peer ∨
      isReady channel reading = false ∧
        ∃ connection, (connect channel terminal closed reading).peer = some connection := by
  have hattached (ensured : PeerChannel) :
      (setState (if ensured.dataChannel.isNone ∨ closed then attachDataChannel ensured
        else ensured) .connecting).peer = ensured.peer := by
    show (if ensured.dataChannel.isNone ∨ closed then attachDataChannel ensured
      else ensured).peer = ensured.peer
    split
    · exact peer_attachDataChannel ensured
    · rfl
  have hcalled : isReady { channel with closedByUser := false } reading
    = isReady channel reading := rfl
  unfold connect
  dsimp only
  rw [hcalled]
  cases hready : isReady channel reading with
  | true => exact Or.inl ⟨rfl, rfl⟩
  | false =>
      refine Or.inr ⟨rfl, ?_⟩
      rw [if_neg Bool.false_ne_true, hattached]
      exact exists_peer_ensurePeer _ _

theorem same_sendCapabilitiesIfReady :
    SameConnection channel (sendCapabilitiesIfReady channel reading).1 := by
  unfold sendCapabilitiesIfReady
  split
  · exact ⟨rfl, rfl⟩
  · exact ⟨rfl, rfl⟩

theorem same_sendHello (fromOpen : Bool) :
    SameConnection channel (sendHello channel reading fromOpen).1 := by
  unfold sendHello
  split
  · exact ⟨rfl, rfl⟩
  · exact ⟨rfl, rfl⟩

theorem same_helloSigned : SameConnection channel (helloSigned channel reading).1 := by
  unfold helloSigned
  dsimp only
  split
  · exact ⟨rfl, rfl⟩
  · split
    · have hsent : SameConnection channel
          (setState { channel with helloSent := true } .connected) := ⟨rfl, rfl⟩
      exact hsent.trans same_sendCapabilitiesIfReady
    · exact ⟨rfl, rfl⟩

theorem same_handleDataMessage {dataChannel : DataChannel} (data : DataMessage) :
    SameConnection channel (handleDataMessage options channel dataChannel data) := by
  cases data with
  | hello hello =>
      have hheard : SameConnection channel (hear options channel dataChannel hello) := by
        unfold hear
        split
        · exact ⟨rfl, rfl⟩
        · exact ⟨rfl, rfl⟩
      unfold handleDataMessage
      dsimp only
      split
      · exact hheard.trans ⟨rfl, rfl⟩
      · exact hheard
  | capabilities supportedMessages =>
      unfold handleDataMessage
      dsimp only
      split
      · exact ⟨rfl, rfl⟩
      · exact ⟨rfl, rfl⟩
  | app =>
      unfold handleDataMessage
      dsimp only
      split
      · exact ⟨rfl, rfl⟩
      · exact ⟨rfl, rfl⟩
  | other => exact ⟨rfl, rfl⟩

theorem same_helloVerified : SameConnection channel (helloVerified channel reading) := by
  unfold helloVerified
  dsimp only
  split
  · have hconnected : SameConnection channel
        (setState { channel with remoteVerified := true } .connected) := ⟨rfl, rfl⟩
    exact hconnected.trans same_sendCapabilitiesIfReady
  · have hverified : SameConnection channel { channel with remoteVerified := true } := ⟨rfl, rfl⟩
    have hsent : SameConnection channel
        (sendHello { channel with remoteVerified := true } reading false).1 :=
      hverified.trans (same_sendHello false)
    split
    · exact hsent
    · exact hsent.trans ⟨rfl, rfl⟩

theorem same_resumeSign (fromOpen signed : Bool) :
    SameConnection channel (resumeSign channel fromOpen signed reading) := by
  have hsent : SameConnection channel (if signed then helloSigned channel reading
      else (channel, false)).1 := by
    split
    · exact same_helloSigned
    · exact ⟨rfl, rfl⟩
  unfold resumeSign
  dsimp only
  generalize (if signed then helloSigned channel reading else (channel, false)) = sent at hsent
  split
  · split
    · exact hsent
    · exact hsent.trans ⟨rfl, rfl⟩
  · split
    · exact hsent.trans ⟨rfl, rfl⟩
    · exact hsent

theorem same_resume (task : Task) (signed : Bool) :
    SameConnection channel (resume channel task signed reading) := by
  cases task with
  | verify connection valid =>
      unfold resume
      dsimp only
      split
      · exact same_helloVerified
      · exact ⟨rfl, rfl⟩
  | sign fromOpen => exact same_resumeSign fromOpen signed
  | verified =>
      have hconnected : SameConnection channel (setState channel .connected) := ⟨rfl, rfl⟩
      exact hconnected.trans same_sendCapabilitiesIfReady

theorem SameConnection.moved (hsame : SameConnection before after) : Moved before after :=
  .of_same hsame.peer hsame.next

/-- **A channel** goes on to new connections only. -/
theorem moved_peerStep (event : PeerEvent) :
    Moved channel (peerStep options channel event) := by
  cases event with
  | connect terminal closed reading => exact moved_connect terminal closed
  | offer offer =>
      have hcalled : Moved channel { channel with closedByUser := false } := .of_same rfl rfl
      cases offer with
      | none => exact hcalled
      | some offer => exact (hcalled.trans (moved_ensurePeer _)).trans (.of_same rfl rfl)
  | signal => exact moved_ensurePeer false
  | incomingChannel => exact moved_attachDataChannel
  | opened dataChannel reading =>
      have hopen : SameConnection channel (setState channel .channelOpen) := ⟨rfl, rfl⟩
      exact Moved.ite (hopen.trans (same_sendHello true)).moved (.refl channel)
  | closed dataChannel =>
      have hdetached : Moved channel { channel with dataChannel := none } := .of_same rfl rfl
      exact Moved.ite (Moved.ite hdetached (hdetached.trans (moved_disposePeer .disconnected)))
        (.refl channel)
  | errored dataChannel =>
      have hdetached : Moved channel { channel with dataChannel := none } := .of_same rfl rfl
      exact Moved.ite (hdetached.trans (moved_disposePeer .failed)) (.refl channel)
  | message dataChannel data =>
      exact Moved.ite (same_handleDataMessage data).moved (.refl channel)
  | connectionState connection state =>
      refine Moved.ite ?_ (.refl channel)
      cases state with
      | failed => exact moved_disposePeer .failed
      | closed => exact moved_disposePeer .disconnected
      | disconnected => exact .of_same rfl rfl
      | other => exact .refl channel
  | iceFailed connection => exact Moved.ite (moved_disposePeer .failed) (.refl channel)
  | close =>
      have hclosed : Moved channel { channel with closedByUser := true } := .of_same rfl rfl
      exact hclosed.trans (moved_disposePeer .disconnected)
  | resume index signed reading =>
      unfold peerStep
      dsimp only
      split
      next task htask =>
        have herased : SameConnection channel
            { channel with tasks := channel.tasks.eraseIdx index } := ⟨rfl, rfl⟩
        exact (herased.trans (same_resume task signed)).moved
      · exact .refl channel

end Connections

end OpenClaw.Peer

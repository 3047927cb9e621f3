import OpenClaw.Peer.Connections

/-!
# Offers and answers between the two peers

The phone makes an offer with every `connect`, the desktop answers it, and the server carries
both: a signal may wait for hours until the other end is online, be lost, come twice, or be
overtaken.  The desktop looks at what an offer says and makes a new connection for another
one; the phone takes any answer for its connection, as long as that waits for one.  An answer
does not say which offer it answers, so a phone that has given up a connection takes the late
answer to it for the new one, and the answer to the new offer is refused.

The state has the connections of the phone that wait for an answer (`have-local-offer`), the
calls of `connect` that wait for `createOffer`, and the signals on their way.  A connection is
never a former one again, so a new `PairV2PeerChannel` for the same binding is a `close`.
-/

namespace OpenClaw.Peer

open OpenClaw.Runtime

/-- An offer and the connection it was made for; no two are the same. -/
structure SdpOffer where
  connection : ℕ
  number : ℕ
deriving DecidableEq

/-- An answer and the offer it was made for, which the answer itself does not tell. -/
structure SdpAnswer where
  offer : SdpOffer
  number : ℕ
deriving DecidableEq

/-! ## The desktop -/

/-- The connection of the desktop for the binding. -/
structure DesktopPeer where
  remoteDescription : Option SdpOffer
  localDescription : Option SdpAnswer
  dataChannel : Bool

def DesktopPeer.created : DesktopPeer := ⟨none, none, false⟩

/-- How far `accept_offer` comes: a connection is made, the offer is set, the answer is made
and set, the signal is sent. -/
structure AcceptOutcome where
  created : Bool
  described : Bool
  answered : Bool
  sent : Bool

/-- The second half of `accept_offer`, with the connection it is to answer on. -/
def answerOffer (peer : DesktopPeer) (offer : SdpOffer) (outcome : AcceptOutcome) (number : ℕ) :
    Option DesktopPeer × Option SdpAnswer :=
  if peer.remoteDescription = some offer ∨ outcome.described then
    let described := { peer with remoteDescription := some offer }
    if outcome.answered then
      (some { described with localDescription := some ⟨offer, number⟩ },
        if outcome.sent then some ⟨offer, number⟩ else none)
    else (some described, none)
  else (some peer, none)

/-- `create_answerer_peer`, and what follows. -/
def answerAnew (offer : SdpOffer) (outcome : AcceptOutcome) (number : ℕ) :
    Option DesktopPeer × Option SdpAnswer :=
  if outcome.created then answerOffer .created offer outcome number else (none, none)

def acceptOffer (existing : Option DesktopPeer) (offer : SdpOffer) (outcome : AcceptOutcome)
    (number : ℕ) : Option DesktopPeer × Option SdpAnswer :=
  match existing with
  | none => answerAnew offer outcome number
  | some peer =>
      if peer.remoteDescription = some offer then
        match peer.localDescription with
        | some answer => (some peer, if outcome.sent then some answer else none)
        | none => answerOffer peer offer outcome number
      else if peer.remoteDescription.isSome ∨ peer.localDescription.isSome ∨ peer.dataChannel then
        answerAnew offer outcome number
      else answerOffer peer offer outcome number

/-! ## Both ends and the signals between them -/

structure Negotiation where
  channel : PeerChannel
  /-- The remote descriptions of the connections of the phone. -/
  remote : OrderedMap ℕ SdpAnswer
  /-- The connections that wait for an answer. -/
  awaiting : List ℕ
  /-- The calls of `connect` at `createOffer`, by their connection. -/
  offering : List ℕ
  desktop : Option DesktopPeer
  offers : List SdpOffer
  answers : List SdpAnswer
  /-- No description has a number from here on. -/
  number : ℕ

def Negotiation.initial : Negotiation := ⟨.initial, ∅, [], [], none, [], [], 0⟩

inductive NegotiationEvent
  /-- Something happens to the channel of the phone. -/
  | mobile (event : PeerEvent)
  /-- `createOffer` and `setLocalDescription` are through; the offer is sent or not. -/
  | offerCreated (index : ℕ) (ok sent : Bool)
  /-- An offer arrives, for the last time or not. -/
  | offerArrives (index : ℕ) (again : Bool) (outcome : AcceptOutcome)
  | answerArrives (index : ℕ) (again ok : Bool)
  | offerLost (index : ℕ)
  | answerLost (index : ℕ)
  /-- `dispose_peer` -/
  | desktopDisposed
  /-- The data channel of the desktop. -/
  | desktopAttached

/-- What stays on its way of `signals`. -/
def remaining {α : Type} (signals : List α) (index : ℕ) (again : Bool) : List α :=
  if again then signals else signals.eraseIdx index

section Steps

variable (options : PeerOptions)

/-- The desktop makes no offers. -/
def mobileEvent (negotiation : Negotiation) : PeerEvent → Negotiation
  | .connect terminal closed reading =>
      let connected := connect negotiation.channel terminal closed reading
      { negotiation with
        channel := connected
        offering :=
          if isReady negotiation.channel reading then negotiation.offering
          else negotiation.offering ++ connected.peer.toList }
  | .offer _ => negotiation
  | event => { negotiation with channel := peerStep options negotiation.channel event }

/-- `connect` behind `setLocalDescription`.  A connection that was dropped is closed. -/
def offerCreated (negotiation : Negotiation) (index : ℕ) (ok sent : Bool) : Negotiation :=
  match negotiation.offering[index]? with
  | none => negotiation
  | some connection =>
      let called := { negotiation with offering := negotiation.offering.eraseIdx index }
      if negotiation.channel.peer = some connection ∧ ok then
        { called with
          awaiting := connection :: called.awaiting
          offers :=
            if sent then called.offers ++ [⟨connection, called.number⟩] else called.offers
          number := called.number + 1 }
      else called

def offerArrives (negotiation : Negotiation) (index : ℕ) (again : Bool)
    (outcome : AcceptOutcome) : Negotiation :=
  match negotiation.offers[index]? with
  | none => negotiation
  | some offer =>
      let accepted := acceptOffer negotiation.desktop offer outcome negotiation.number
      { negotiation with
        offers := remaining negotiation.offers index again
        desktop := accepted.1
        answers := negotiation.answers ++ accepted.2.toList
        number := negotiation.number + 1 }

/-- `handleSignalInternal` of an answer.  `setRemoteDescription` takes one only for a
connection that waits for it. -/
def answerArrives (negotiation : Negotiation) (index : ℕ) (again ok : Bool) : Negotiation :=
  match negotiation.answers[index]? with
  | none => negotiation
  | some answer =>
      let ensured := { negotiation with
        answers := remaining negotiation.answers index again
        channel := ensurePeer negotiation.channel false }
      match ensured.channel.peer with
      | none => ensured
      | some connection =>
          if connection ∈ ensured.awaiting ∧ ok then
            { ensured with
              remote := ensured.remote.set connection answer
              awaiting := ensured.awaiting.filter fun other => decide (other ≠ connection) }
          else ensured

def negotiationStep (negotiation : Negotiation) : NegotiationEvent → Negotiation
  | .mobile event => mobileEvent options negotiation event
  | .offerCreated index ok sent => offerCreated negotiation index ok sent
  | .offerArrives index again outcome => offerArrives negotiation index again outcome
  | .answerArrives index again ok => answerArrives negotiation index again ok
  | .offerLost index => { negotiation with offers := negotiation.offers.eraseIdx index }
  | .answerLost index => { negotiation with answers := negotiation.answers.eraseIdx index }
  | .desktopDisposed => { negotiation with desktop := none }
  | .desktopAttached =>
      { negotiation with
        desktop := negotiation.desktop.map fun peer => { peer with dataChannel := true } }

end Steps

/-! ## What is to hold -/

/-- The connection of the phone has taken no answer but to an offer of its own. -/
def Matched (negotiation : Negotiation) : Prop :=
  ∀ connection answer, negotiation.channel.peer = some connection →
    negotiation.remote.get connection = some answer → answer.offer.connection = connection

/-- Every signal on its way belongs to this connection. -/
structure Belong (connection : ℕ) (negotiation : Negotiation) : Prop where
  offers : ∀ offer ∈ negotiation.offers, offer.connection = connection
  answers : ∀ answer ∈ negotiation.answers, answer.offer.connection = connection

/-- A connection that waits for an answer, or is about to, has only signals of its own on
their way. -/
def Guarded (negotiation : Negotiation) : Prop :=
  ∀ connection, negotiation.channel.peer = some connection →
    connection ∈ negotiation.awaiting ∨ connection ∈ negotiation.offering →
      Belong connection negotiation

/-- A `connect` that makes an offer finds no signals but of the connection it makes it for. -/
def Unhindered (negotiation : Negotiation) : NegotiationEvent → Prop
  | .mobile (.connect terminal closed reading) =>
      isReady negotiation.channel reading = false → ∀ connection,
        (connect negotiation.channel terminal closed reading).peer = some connection →
          Belong connection negotiation
  | _ => True

/-- Not a call of `connect`. -/
def NegotiationEvent.isConnect : NegotiationEvent → Bool
  | .mobile (.connect _ _ _) => true
  | _ => false

/-- No mistaken answer is taken before the next `connect`, whatever the network does. -/
def Secure (options : PeerOptions) (negotiation : Negotiation) : Prop :=
  ∀ later, (∀ event ∈ later, NegotiationEvent.isConnect event = false) →
    Matched (Steps.run (negotiationStep options) negotiation later)

section Negotiation

variable {options : PeerOptions} {negotiation : Negotiation} {connection : ℕ}
  {event : NegotiationEvent}

/-! ## What is known of every state -/

/-- The desktop's description, if it has made one, answers the offer it has. -/
def Answering (peer : DesktopPeer) : Prop :=
  ∀ offer answer, peer.remoteDescription = some offer → peer.localDescription = some answer →
    answer.offer = offer

structure Tracked (negotiation : Negotiation) : Prop where
  peer : ∀ connection, negotiation.channel.peer = some connection →
    connection < negotiation.channel.next
  remote : ∀ connection answer, negotiation.remote.get connection = some answer →
    connection < negotiation.channel.next
  awaiting : ∀ connection ∈ negotiation.awaiting, connection < negotiation.channel.next
  offering : ∀ connection ∈ negotiation.offering, connection < negotiation.channel.next
  desktop : ∀ peer, negotiation.desktop = some peer → Answering peer

theorem tracked_initial : Tracked .initial :=
  ⟨nofun, nofun, nofun, nofun, nofun⟩

/-- Whatever the desktop sends for an offer answers this offer. -/
structure AcceptedFor (offer : SdpOffer) (accepted : Option DesktopPeer × Option SdpAnswer) :
    Prop where
  answer : ∀ answer, accepted.2 = some answer → answer.offer = offer
  peer : ∀ peer, accepted.1 = some peer → Answering peer

variable {peer : DesktopPeer} {offer : SdpOffer} {outcome : AcceptOutcome} {number : ℕ}

/-- Without a description of its own, or with the offer it has. -/
theorem answerOffer_spec (hpeer : peer.localDescription = none) :
    AcceptedFor offer (answerOffer peer offer outcome number) := by
  have hkept : Answering peer := by
    intro other answer _ hlocal
    rw [hpeer] at hlocal
    cases hlocal
  have hdescribed : Answering { peer with remoteDescription := some offer } := by
    intro other answer _ hlocal
    rw [show peer.localDescription = some answer from hlocal] at hpeer
    cases hpeer
  unfold answerOffer
  dsimp only
  split
  · split
    · refine ⟨fun answer hsent => ?_, fun after hafter => ?_⟩
      · split at hsent
        · cases hsent
          rfl
        · cases hsent
      · cases hafter
        intro other answer hother hanswer
        cases hother
        cases hanswer
        rfl
    · refine ⟨fun answer hsent => (by cases hsent), fun after hafter => ?_⟩
      cases hafter
      exact hdescribed
  · refine ⟨fun answer hsent => (by cases hsent), fun after hafter => ?_⟩
    cases hafter
    exact hkept

theorem answerAnew_spec : AcceptedFor offer (answerAnew offer outcome number) := by
  unfold answerAnew
  split
  · exact answerOffer_spec rfl
  · exact ⟨fun answer hsent => (by cases hsent), fun after hafter => (by cases hafter)⟩

theorem acceptOffer_spec {existing : Option DesktopPeer}
    (hexisting : ∀ peer, existing = some peer → Answering peer) :
    AcceptedFor offer (acceptOffer existing offer outcome number) := by
  cases existing with
  | none => exact answerAnew_spec
  | some peer =>
      unfold acceptOffer
      dsimp only
      split
      next hsame =>
        cases hlocal : peer.localDescription with
        | none => exact answerOffer_spec hlocal
        | some answer =>
            -- A description of the desktop is sent again for the very offer it was made for.
            have hanswering := hexisting peer rfl
            refine ⟨fun other hsent => ?_, fun after hafter => ?_⟩
            · dsimp only at hsent
              split at hsent
              · cases hsent
                exact hanswering offer answer hsame hlocal
              · cases hsent
            · cases hafter
              exact hanswering
      next hother =>
        split
        · exact answerAnew_spec
        next hfresh =>
          rw [not_or, not_or, Option.not_isSome_iff_eq_none,
            Option.not_isSome_iff_eq_none] at hfresh
          exact answerOffer_spec hfresh.2.1

/-- A desktop that gets through answers. -/
theorem exists_answer (existing : Option DesktopPeer) (offer : SdpOffer) (number : ℕ) :
    ∃ answer, (acceptOffer existing offer ⟨true, true, true, true⟩ number).2 = some answer := by
  have hanswered (peer : DesktopPeer) : ∃ answer,
      (answerOffer peer offer ⟨true, true, true, true⟩ number).2 = some answer :=
    ⟨⟨offer, number⟩, by simp [answerOffer]⟩
  have hanew : ∃ answer,
      (answerAnew offer ⟨true, true, true, true⟩ number).2 = some answer := hanswered .created
  cases existing with
  | none => exact hanew
  | some peer =>
      unfold acceptOffer
      dsimp only
      split
      · split
        next answer hlocal => exact ⟨answer, rfl⟩
        · exact hanswered peer
      · split
        · exact hanew
        · exact hanswered peer

/-! ## Every step -/

theorem mem_of_mem_remaining {α : Type} {signals : List α} {index : ℕ} {again : Bool} {signal : α}
    (hmem : signal ∈ remaining signals index again) : signal ∈ signals := by
  unfold remaining at hmem
  split at hmem
  · exact hmem
  · exact List.mem_of_mem_eraseIdx hmem

/-- What a step does to the two ends and to the signals. -/
structure Stepped (connecting : Bool) (before after : Negotiation) : Prop where
  channel : Moved before.channel after.channel
  remote : ∀ connection answer, after.remote.get connection = some answer →
    before.remote.get connection = some answer ∨
      before.channel.peer = some connection ∧ connection ∈ before.awaiting ∧
        answer ∈ before.answers
  awaiting : ∀ connection ∈ after.awaiting,
    connection ∈ before.awaiting ∨ connection ∈ before.offering
  offering : ∀ connection ∈ after.offering, connection ∈ before.offering ∨
    connecting = true ∧ after.channel.peer = some connection
  offers : ∀ offer ∈ after.offers, offer ∈ before.offers ∨
    before.channel.peer = some offer.connection ∧ offer.connection ∈ before.offering
  answers : ∀ answer ∈ after.answers, answer ∈ before.answers ∨ answer.offer ∈ before.offers
  desktop : ∀ peer, after.desktop = some peer → Answering peer

section Stepped

variable {connecting : Bool} (htracked : Tracked negotiation)
include htracked

theorem stepped_channel {channel : PeerChannel} (hmoved : Moved negotiation.channel channel) :
    Stepped connecting negotiation { negotiation with channel } :=
  ⟨hmoved, fun _ _ => Or.inl, fun _ => Or.inl, fun _ => Or.inl, fun _ => Or.inl, fun _ => Or.inl,
    htracked.desktop⟩

theorem stepped_refl : Stepped connecting negotiation negotiation :=
  stepped_channel htracked (.refl _)

theorem stepped_mobileEvent (peerEvent : PeerEvent) :
    Stepped (NegotiationEvent.mobile peerEvent).isConnect negotiation
      (mobileEvent options negotiation peerEvent) := by
  have hstep : Moved negotiation.channel (peerStep options negotiation.channel peerEvent) :=
    moved_peerStep peerEvent
  cases peerEvent with
  | connect terminal closed reading =>
      have hmoved : Stepped true negotiation { negotiation with
          channel := connect negotiation.channel terminal closed reading } :=
        stepped_channel htracked hstep
      refine { hmoved with offering := ?_ }
      intro connection hmem
      dsimp only [mobileEvent] at hmem
      split at hmem
      · exact Or.inl hmem
      · obtain hold | hnew := List.mem_append.mp hmem
        · exact Or.inl hold
        · exact Or.inr ⟨rfl, Option.mem_toList.mp hnew⟩
  | offer offer => exact stepped_refl htracked
  | signal => exact stepped_channel htracked hstep
  | incomingChannel => exact stepped_channel htracked hstep
  | opened dataChannel reading => exact stepped_channel htracked hstep
  | closed dataChannel => exact stepped_channel htracked hstep
  | errored dataChannel => exact stepped_channel htracked hstep
  | message dataChannel data => exact stepped_channel htracked hstep
  | connectionState connection state => exact stepped_channel htracked hstep
  | iceFailed connection => exact stepped_channel htracked hstep
  | close => exact stepped_channel htracked hstep
  | resume index signed reading => exact stepped_channel htracked hstep

theorem stepped_offerCreated (index : ℕ) (ok sent : Bool) :
    Stepped false negotiation (offerCreated negotiation index ok sent) := by
  unfold offerCreated
  cases hcall : negotiation.offering[index]? with
  | none => exact stepped_refl htracked
  | some called =>
      have hoffering : called ∈ negotiation.offering := List.mem_of_getElem? hcall
      have hrefl : Stepped false negotiation negotiation := stepped_refl htracked
      have herased : ∀ connection ∈ negotiation.offering.eraseIdx index,
          connection ∈ negotiation.offering ∨
            false = true ∧ negotiation.channel.peer = some connection :=
        fun connection hmem => Or.inl (List.mem_of_mem_eraseIdx hmem)
      dsimp only
      split
      next hmade =>
        refine { hrefl with offering := herased, awaiting := ?_, offers := ?_ }
        · intro connection hmem
          obtain rfl | hold := List.mem_cons.mp hmem
          · exact Or.inr hoffering
          · exact Or.inl hold
        · intro offer hmem
          dsimp only at hmem
          split at hmem
          · obtain hold | hnew := List.mem_append.mp hmem
            · exact Or.inl hold
            · rw [List.mem_singleton.mp hnew]
              exact Or.inr ⟨hmade.1, hoffering⟩
          · exact Or.inl hmem
      · exact { hrefl with offering := herased }

theorem stepped_offerArrives (index : ℕ) (again : Bool) (outcome : AcceptOutcome) :
    Stepped false negotiation (offerArrives negotiation index again outcome) := by
  unfold offerArrives
  cases hoffer : negotiation.offers[index]? with
  | none => exact stepped_refl htracked
  | some offer =>
      have haccepted : AcceptedFor offer
          (acceptOffer negotiation.desktop offer outcome negotiation.number) :=
        acceptOffer_spec htracked.desktop
      have hrefl : Stepped false negotiation negotiation := stepped_refl htracked
      refine { hrefl with
        offers := fun offer hmem => Or.inl (mem_of_mem_remaining hmem)
        answers := ?_, desktop := haccepted.peer }
      intro answer hmem
      obtain hold | hnew := List.mem_append.mp hmem
      · exact Or.inl hold
      · rw [haccepted.answer answer (Option.mem_toList.mp hnew)]
        exact Or.inr (List.mem_of_getElem? hoffer)

theorem stepped_answerArrives (index : ℕ) (again ok : Bool) :
    Stepped false negotiation (answerArrives negotiation index again ok) := by
  unfold answerArrives
  cases hanswer : negotiation.answers[index]? with
  | none => exact stepped_refl htracked
  | some answer =>
      have hmoved : Moved negotiation.channel (ensurePeer negotiation.channel false) :=
        moved_ensurePeer false
      have hensured : Stepped false negotiation { negotiation with
          answers := remaining negotiation.answers index again
          channel := ensurePeer negotiation.channel false } :=
        { stepped_channel htracked hmoved with
          answers := fun other hmem => Or.inl (mem_of_mem_remaining hmem) }
      dsimp only
      cases hpeer : (ensurePeer negotiation.channel false).peer with
      | none => exact hensured
      | some connection =>
          dsimp only
          split
          next htaken =>
            have hsame : negotiation.channel.peer = some connection := by
              obtain hbefore | hnew := hmoved.peer connection hpeer
              · exact hbefore
              · have hlt := htracked.awaiting connection htaken.1
                omega
            refine { hensured with remote := ?_, awaiting := ?_ }
            · intro other taken hget
              obtain ⟨rfl, rfl⟩ | ⟨hne, hget⟩ := OrderedMap.of_get_set hget
              · exact Or.inr ⟨hsame, htaken.1, List.mem_of_getElem? hanswer⟩
              · exact Or.inl hget
            · exact fun other hmem => Or.inl (List.mem_of_mem_filter hmem)
          · exact hensured

theorem stepped_negotiationStep (event : NegotiationEvent) :
    Stepped event.isConnect negotiation (negotiationStep options negotiation event) := by
  cases event with
  | mobile peerEvent => exact stepped_mobileEvent htracked peerEvent
  | offerCreated index ok sent => exact stepped_offerCreated htracked index ok sent
  | offerArrives index again outcome => exact stepped_offerArrives htracked index again outcome
  | answerArrives index again ok => exact stepped_answerArrives htracked index again ok
  | offerLost index =>
      have hrefl : Stepped false negotiation negotiation := stepped_refl htracked
      exact { hrefl with offers := fun offer hmem => Or.inl (List.mem_of_mem_eraseIdx hmem) }
  | answerLost index =>
      have hrefl : Stepped false negotiation negotiation := stepped_refl htracked
      exact { hrefl with answers := fun answer hmem => Or.inl (List.mem_of_mem_eraseIdx hmem) }
  | desktopDisposed =>
      have hrefl : Stepped false negotiation negotiation := stepped_refl htracked
      exact { hrefl with desktop := fun peer hpeer => (by cases hpeer) }
  | desktopAttached =>
      have hrefl : Stepped false negotiation negotiation := stepped_refl htracked
      refine { hrefl with desktop := fun peer hpeer => ?_ }
      obtain ⟨before, hbefore, rfl⟩ := Option.map_eq_some_iff.mp hpeer
      exact htracked.desktop before hbefore

end Stepped

theorem Stepped.tracked {connecting : Bool} {after : Negotiation} (htracked : Tracked negotiation)
    (hstepped : Stepped connecting negotiation after) : Tracked after := by
  have hnext := hstepped.channel.next
  have hpeer : ∀ connection, after.channel.peer = some connection →
      connection < after.channel.next := by
    intro connection hsome
    obtain hbefore | hnew := hstepped.channel.peer connection hsome
    · exact (htracked.peer connection hbefore).trans_le hnext
    · exact hnew.2
  refine ⟨hpeer, fun connection answer hget => ?_, fun connection hmem => ?_,
    fun connection hmem => ?_, hstepped.desktop⟩
  · obtain hbefore | htaken := hstepped.remote connection answer hget
    · exact (htracked.remote connection answer hbefore).trans_le hnext
    · exact (htracked.peer connection htaken.1).trans_le hnext
  · obtain hbefore | hcalled := hstepped.awaiting connection hmem
    · exact (htracked.awaiting connection hbefore).trans_le hnext
    · exact (htracked.offering connection hcalled).trans_le hnext
  · obtain hbefore | hnew := hstepped.offering connection hmem
    · exact (htracked.offering connection hbefore).trans_le hnext
    · exact hpeer connection hnew.2

theorem tracked_step (htracked : Tracked negotiation) :
    Tracked (negotiationStep options negotiation event) :=
  (stepped_negotiationStep htracked event).tracked htracked

/-- An answer is taken by the connection it is for. -/
theorem Stepped.matched {connecting : Bool} {after : Negotiation} (htracked : Tracked negotiation)
    (hmatched : Matched negotiation) (hguarded : Guarded negotiation)
    (hstepped : Stepped connecting negotiation after) : Matched after := by
  intro connection answer hpeer hget
  obtain hbefore | ⟨hcurrent, hawaiting, htaken⟩ := hstepped.remote connection answer hget
  · have hlt := htracked.remote connection answer hbefore
    obtain hsame | hnew := hstepped.channel.peer connection hpeer
    · exact hmatched connection answer hsame hbefore
    · omega
  · exact (hguarded connection hcurrent (Or.inl hawaiting)).answers answer htaken

theorem Stepped.guarded {after : Negotiation} (htracked : Tracked negotiation)
    (hguarded : Guarded negotiation) (hstepped : Stepped false negotiation after) :
    Guarded after := by
  intro connection hpeer hwaiting
  have hbefore : connection ∈ negotiation.awaiting ∨ connection ∈ negotiation.offering := by
    obtain hawaiting | hoffering := hwaiting
    · exact hstepped.awaiting connection hawaiting
    · obtain hold | hnew := hstepped.offering connection hoffering
      · exact Or.inr hold
      · cases hnew.1
  have hlt : connection < negotiation.channel.next := by
    obtain hawaiting | hoffering := hbefore
    · exact htracked.awaiting connection hawaiting
    · exact htracked.offering connection hoffering
  have hcurrent : negotiation.channel.peer = some connection := by
    obtain hsame | hnew := hstepped.channel.peer connection hpeer
    · exact hsame
    · omega
  have hbelong := hguarded connection hcurrent hbefore
  refine ⟨fun offer hmem => ?_, fun answer hmem => ?_⟩
  · obtain hold | hnew := hstepped.offers offer hmem
    · exact hbelong.offers offer hold
    · exact Option.some_inj.mp (hnew.1.symm.trans hcurrent)
  · obtain hold | hoffer := hstepped.answers answer hmem
    · exact hbelong.answers answer hold
    · exact hbelong.offers answer.offer hoffer

/-! ## A call of `connect` -/

/-- The connection a `connect` makes its offer for is guarded when no older signals are there. -/
theorem guarded_connect (htracked : Tracked negotiation) (hguarded : Guarded negotiation)
    (terminal closed : Bool) (reading : Reading) :
    Guarded (negotiationStep options negotiation (.mobile (.connect terminal closed reading))) ↔
      Unhindered negotiation (.mobile (.connect terminal closed reading)) := by
  let connected := negotiationStep options negotiation (.mobile (.connect terminal closed reading))
  have hstepped : Stepped true negotiation connected :=
    stepped_negotiationStep htracked (.mobile (.connect terminal closed reading))
  obtain ⟨hready, hpeer⟩ | ⟨hready, made, hmade⟩ :=
    connect_spec negotiation.channel terminal closed reading
  · have hoffering : connected.offering = negotiation.offering := if_pos hready
    have hkept : Guarded connected := by
      intro connection hcurrent hwaiting
      have hbelong := hguarded connection (hpeer.symm.trans hcurrent) (hoffering ▸ hwaiting)
      exact ⟨hbelong.offers, hbelong.answers⟩
    refine iff_of_true hkept fun hother => ?_
    rw [hready] at hother
    cases hother
  · have hoffering : connected.offering = negotiation.offering ++ [made] := by
      have hnot : ¬isReady negotiation.channel reading = true := by
        rw [hready]
        exact Bool.false_ne_true
      refine (if_neg hnot).trans ?_
      rw [hmade]
      rfl
    constructor
    · intro hafter _ connection hcurrent
      have hsame : made = connection := Option.some_inj.mp (hmade.symm.trans hcurrent)
      have hwaiting : connection ∈ connected.offering := by
        rw [hoffering, hsame]
        exact List.mem_concat_self
      have hbelong := hafter connection hcurrent (Or.inr hwaiting)
      exact ⟨hbelong.offers, hbelong.answers⟩
    · intro hunhindered connection hcurrent _
      have hbelong := hunhindered hready connection hcurrent
      exact ⟨hbelong.offers, hbelong.answers⟩

/-! ## What goes wrong otherwise -/

theorem mismatch_of_answer {answer : SdpAnswer}
    (hpeer : negotiation.channel.peer = some connection)
    (hawaiting : connection ∈ negotiation.awaiting) (hanswer : answer ∈ negotiation.answers)
    (hother : answer.offer.connection ≠ connection) :
    ∃ index, ¬Matched (answerArrives negotiation index false true) := by
  obtain ⟨index, hindex⟩ := List.mem_iff_getElem?.mp hanswer
  refine ⟨index, fun hmatched => hother ?_⟩
  have hensured := ensurePeer_of_peer hpeer
  apply hmatched connection answer
  · unfold answerArrives
    simp [hindex, hensured, hpeer, hawaiting]
  · unfold answerArrives
    simp [hindex, hensured, hpeer, hawaiting]

/-- A desktop that answers an old offer, and a phone that waits for an answer. -/
theorem mismatch_of_offer {offer : SdpOffer} (htracked : Tracked negotiation)
    (hpeer : negotiation.channel.peer = some connection)
    (hawaiting : connection ∈ negotiation.awaiting) (hoffer : offer ∈ negotiation.offers)
    (hother : offer.connection ≠ connection) :
    ∃ index, ∃ later, ¬Matched (answerArrives
      (offerArrives negotiation later false ⟨true, true, true, true⟩) index false true) := by
  obtain ⟨later, hlater⟩ := List.mem_iff_getElem?.mp hoffer
  obtain ⟨answer, hanswer⟩ := exists_answer negotiation.desktop offer negotiation.number
  have hoffers : answer.offer = offer :=
    (acceptOffer_spec htracked.desktop).answer answer hanswer
  have hsent : answer ∈
      (offerArrives negotiation later false ⟨true, true, true, true⟩).answers := by
    unfold offerArrives
    simp [hlater, hanswer]
  have hkept : (offerArrives negotiation later false ⟨true, true, true, true⟩).channel
      = negotiation.channel := by
    unfold offerArrives
    simp [hlater]
  have hwaits : connection ∈
      (offerArrives negotiation later false ⟨true, true, true, true⟩).awaiting := by
    unfold offerArrives
    simp [hlater, hawaiting]
  obtain ⟨index, hindex⟩ := mismatch_of_answer (hkept ▸ hpeer) hwaits hsent (hoffers ▸ hother)
  exact ⟨index, later, hindex⟩

theorem Secure.step (hsecure : Secure options negotiation) (hevent : event.isConnect = false) :
    Secure options (negotiationStep options negotiation event) := by
  intro later hlater
  apply hsecure (event :: later)
  rw [List.forall_mem_cons]
  exact ⟨hevent, hlater⟩

theorem Secure.matched_step (hsecure : Secure options negotiation)
    (hevent : event.isConnect = false) : Matched (negotiationStep options negotiation event) :=
  hsecure.step hevent [] (List.forall_mem_nil _)

theorem belong_of_secure (htracked : Tracked negotiation) (hsecure : Secure options negotiation)
    (hpeer : negotiation.channel.peer = some connection)
    (hawaiting : connection ∈ negotiation.awaiting) : Belong connection negotiation := by
  refine ⟨fun offer hoffer => ?_, fun answer hanswer => ?_⟩
  · by_contra hother
    obtain ⟨index, later, hmismatch⟩ :=
      mismatch_of_offer htracked hpeer hawaiting hoffer hother
    have hanswered : Secure options (negotiationStep options negotiation
        (.offerArrives later false ⟨true, true, true, true⟩)) := hsecure.step rfl
    have hnext : NegotiationEvent.isConnect (.answerArrives index false true) = false := rfl
    exact hmismatch (hanswered.matched_step hnext)
  · by_contra hother
    obtain ⟨index, hmismatch⟩ := mismatch_of_answer hpeer hawaiting hanswer hother
    have hnext : NegotiationEvent.isConnect (.answerArrives index false true) = false := rfl
    exact hmismatch (hsecure.matched_step hnext)

theorem guarded_of_secure (htracked : Tracked negotiation) (hsecure : Secure options negotiation) :
    Guarded negotiation := by
  intro connection hpeer hwaiting
  obtain hawaiting | hoffering := hwaiting
  · exact belong_of_secure htracked hsecure hpeer hawaiting
  · -- The offer comes about, and is not sent.
    obtain ⟨index, hindex⟩ := List.mem_iff_getElem?.mp hoffering
    let made := negotiationStep options negotiation (.offerCreated index true false)
    have hmade : made = { negotiation with
        offering := negotiation.offering.eraseIdx index
        awaiting := connection :: negotiation.awaiting
        number := negotiation.number + 1 } := by
      show offerCreated negotiation index true false = _
      unfold offerCreated
      simp [hindex, hpeer]
    have htracked' : Tracked made := tracked_step htracked
    have hsecure' : Secure options made := hsecure.step rfl
    have hbelong : Belong connection made := by
      apply belong_of_secure htracked' hsecure'
      · rw [hmade]
        exact hpeer
      · rw [hmade]
        exact List.mem_cons_self
    rw [hmade] at hbelong
    exact ⟨hbelong.offers, hbelong.answers⟩

theorem secure_iff (htracked : Tracked negotiation) :
    Secure options negotiation ↔ Matched negotiation ∧ Guarded negotiation := by
  constructor
  · intro hsecure
    exact ⟨hsecure [] (List.forall_mem_nil _), guarded_of_secure htracked hsecure⟩
  · rintro ⟨hmatched, hguarded⟩ later hlater
    induction later generalizing negotiation with
    | nil => exact hmatched
    | cons event later ih =>
        rw [List.forall_mem_cons] at hlater
        have hstepped : Stepped event.isConnect negotiation
            (negotiationStep options negotiation event) := stepped_negotiationStep htracked event
        rw [hlater.1] at hstepped
        exact ih (hstepped.tracked htracked) (hstepped.matched htracked hmatched hguarded)
          (hstepped.guarded htracked hguarded) hlater.2

/-- What `connect` finds decides, and nothing else. -/
theorem secure_step_iff (htracked : Tracked negotiation) (hsecure : Secure options negotiation) :
    Secure options (negotiationStep options negotiation event) ↔ Unhindered negotiation event := by
  cases hconnect : event.isConnect with
  | false =>
      refine iff_of_true (hsecure.step hconnect) ?_
      unfold Unhindered
      split
      · cases hconnect
      · trivial
  | true =>
      have hstepped : Stepped event.isConnect negotiation
          (negotiationStep options negotiation event) := stepped_negotiationStep htracked event
      obtain ⟨hmatched, hguarded⟩ := (secure_iff htracked).mp hsecure
      rw [secure_iff (hstepped.tracked htracked)]
      rw [and_iff_right (hstepped.matched htracked hmatched hguarded)]
      unfold NegotiationEvent.isConnect at hconnect
      split at hconnect
      · exact guarded_connect htracked hguarded _ _ _
      · cases hconnect

end Negotiation

/-- **The phone takes only answers to its own offers**, however the server delays, loses,
doubles or reorders the signals, exactly when no call of `connect` makes an offer while signals
of a former connection are on their way. -/
theorem answers_matched_iff (options : PeerOptions) (events : List NegotiationEvent) :
    (∀ reached, reached <+: events →
        Secure options (Steps.run (negotiationStep options) .initial reached)) ↔
      Steps.Along (negotiationStep options) Unhindered .initial events := by
  have hinitial : Secure options .initial := by
    apply (secure_iff tracked_initial).mpr
    exact ⟨fun connection answer hpeer => (by cases hpeer),
      fun connection hpeer => (by cases hpeer)⟩
  have hallowed : Steps.Along (negotiationStep options) (fun _ _ => True) .initial events :=
    Steps.along_of_forall fun _ _ _ => trivial
  exact Steps.forall_prefix_iff_along_of_sound (fun _ _ htracked _ => tracked_step htracked)
    (fun _ _ htracked hsecure _ => secure_step_iff htracked hsecure) tracked_initial hinitial
    hallowed

end OpenClaw.Peer

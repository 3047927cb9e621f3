import OpenClaw.Desktop.Inbox

/-!
# Revocations by a mobile

A mobile that leaves its channel says so with `app.openclaw.channel.revoke`.  The desktop
closes a connection and removes channels for it, by the ids that the message gives; only
for a message without a binding it falls back on the binding that the message came over.
It stays with the channels of its sender exactly if the message gives no ids of others.

Beside the channels, the state here has the connections of the desktop and what each
channel shows of its own.
-/

namespace OpenClaw.Desktop

open OpenClaw.Runtime

/-! ## Connections -/

/-- A connection, under its binding. -/
structure DesktopPeer where
  mobileId : String

/-- The fields `peer_state` and `peer_detail` of a channel. -/
structure PeerView where
  peerState : String
  peerDetail : String

/-- The channels with what they show of their connections, the connections by binding, and
those that were closed. -/
structure Linked where
  channels : Channels
  views : ℕ → PeerView
  peers : OrderedMap String DesktopPeer
  closed : List (String × DesktopPeer)

/-- The view of the first channel of the binding. -/
def setView (linked : Linked) (bindingId : String) (view : PeerView) : ℕ → PeerView :=
  match linked.channels.find? fun channel => decide (channel.bindingId = bindingId) with
  | some slot => fun other => if other = slot then view else linked.views other
  | none => linked.views

def disposePeer (linked : Linked) (bindingId detail stateName : String) : Linked :=
  { linked with
    peers := linked.peers.erase bindingId
    closed :=
      linked.closed ++ ((linked.peers.get bindingId).map fun peer => (bindingId, peer)).toList
    views := setView linked bindingId ⟨stateName, detail⟩ }

/-! ## The message -/

/-- The ids of a revocation. -/
structure RevokedIds where
  bindingForLookup : String
  sessionId : String
  channelId : String

def readRevocation (bindingId : String) (payload : Json) : RevokedIds where
  bindingForLookup :=
    if readJsonString payload ["bindingId"] = "" then unicodeTrim bindingId
    else readJsonString payload ["bindingId"]
  sessionId := readJsonString payload ["sessionId"]
  channelId := readJsonString payload ["channelId"]

/-- The revocation branch of `process_mobile_app_message`. -/
def revokeByMobile (linked : Linked) (bindingId mobileId : String) (payload : Json) : Linked :=
  let ids := readRevocation bindingId payload
  let disposed :=
    if ids.bindingForLookup ≠ "" then
      disposePeer linked ids.bindingForLookup "channel revoked by mobile" "disconnected"
    else linked
  { disposed with
    channels := disposed.channels.retain fun channel =>
      !revokedByMobile ids.bindingForLookup ids.sessionId ids.channelId mobileId channel }

/-- `process_mobile_app_message`: no other branch closes a connection. -/
def processLinked (env : Env) (app : Bool) (linked : Linked) (bindingId mobileId : String)
    (payload : Json) : Linked :=
  if messageType payload = openclawChannelRevokeType then
    revokeByMobile linked bindingId mobileId payload
  else
    { linked with
      channels :=
        (processMobileAppMessage env app linked.channels bindingId mobileId payload).1 }

/-! ## What is confined -/

/-- Nothing happens but to channels and connections with this binding or this mobile, and
nothing is added. -/
structure Confined (bindingId mobileId : String) (before after : Linked) : Prop where
  channels : ∀ slot channel, before.channels.get slot = some channel →
    channel.bindingId ≠ bindingId → channel.mobileId ≠ mobileId →
      after.channels.get slot = some channel ∧ after.views slot = before.views slot
  peers : ∀ binding peer, before.peers.get binding = some peer → binding ≠ bindingId →
    peer.mobileId ≠ mobileId → after.peers.get binding = some peer
  closed : ∀ entry ∈ after.closed, entry ∈ before.closed ∨ entry.1 = bindingId ∨
    entry.2.mobileId = mobileId
  noneAdded : ∀ slot channel, after.channels.get slot = some channel →
    before.channels.get slot = some channel

/-- The message gives no binding, session or channel of others, and neither do the ids that
it came with, once they are trimmed. -/
structure NamesOwn (linked : Linked) (bindingId mobileId : String) (payload : Json) : Prop where
  channels : ∀ slot channel, linked.channels.get slot = some channel →
    channel.bindingId ≠ bindingId → channel.mobileId ≠ mobileId →
      revokedByMobile (readRevocation bindingId payload).bindingForLookup
        (readRevocation bindingId payload).sessionId (readRevocation bindingId payload).channelId
        mobileId channel = false
  peer : (readRevocation bindingId payload).bindingForLookup ≠ "" → ∀ peer,
    linked.peers.get (readRevocation bindingId payload).bindingForLookup = some peer →
      (readRevocation bindingId payload).bindingForLookup = bindingId ∨ peer.mobileId = mobileId

section Confinement

variable {env : Env} {app : Bool} {linked : Linked} {bindingId mobileId : String} {payload : Json}

theorem get_channels_revokeByMobile (slot : ℕ) :
    (revokeByMobile linked bindingId mobileId payload).channels.get slot =
      (linked.channels.get slot).filter fun channel =>
        !revokedByMobile (readRevocation bindingId payload).bindingForLookup
          (readRevocation bindingId payload).sessionId
          (readRevocation bindingId payload).channelId mobileId channel := by
  unfold revokeByMobile
  dsimp only
  split
  · exact Roster.get_retain
  · exact Roster.get_retain

theorem get_peers_revokeByMobile (binding : String) :
    (revokeByMobile linked bindingId mobileId payload).peers.get binding =
      if binding = (readRevocation bindingId payload).bindingForLookup ∧ binding ≠ "" then none
      else linked.peers.get binding := by
  unfold revokeByMobile
  dsimp only
  split
  · next hlookup =>
      show (linked.peers.erase _).get binding = _
      rw [OrderedMap.get_erase]
      by_cases heq : binding = (readRevocation bindingId payload).bindingForLookup
      · rw [if_pos heq, if_pos ⟨heq, heq ▸ hlookup⟩]
      · rw [if_neg heq, if_neg fun hboth => heq hboth.1]
  · next hlookup =>
      rw [if_neg]
      rintro ⟨rfl, hne⟩
      exact hlookup hne

/-- A connection that is closed is the one of the binding that is looked up. -/
theorem mem_closed_revokeByMobile {entry : String × DesktopPeer}
    (hmem : entry ∈ (revokeByMobile linked bindingId mobileId payload).closed) :
    entry ∈ linked.closed ∨
      entry.1 = (readRevocation bindingId payload).bindingForLookup ∧
        (readRevocation bindingId payload).bindingForLookup ≠ "" ∧
          linked.peers.get entry.1 = some entry.2 := by
  unfold revokeByMobile at hmem
  dsimp only at hmem
  split at hmem
  · next hlookup =>
      rcases List.mem_append.mp hmem with hold | hnew
      · exact Or.inl hold
      · rw [Option.mem_toList, Option.map_eq_some_iff] at hnew
        obtain ⟨peer, hget, rfl⟩ := hnew
        exact Or.inr ⟨rfl, hlookup, hget⟩
  · exact Or.inl hmem

/-- The view of a channel with another binding stays. -/
theorem setView_of_ne {view : PeerView} {slot : ℕ} {channel : PairBackendChannel}
    (hget : linked.channels.get slot = some channel) (hne : channel.bindingId ≠ bindingId) :
    setView linked bindingId view slot = linked.views slot := by
  unfold setView
  cases hfound : linked.channels.find? fun channel => decide (channel.bindingId = bindingId) with
  | none => rfl
  | some found =>
      apply if_neg
      rintro rfl
      obtain ⟨value, hvalue, hbinding⟩ := Roster.exists_of_find? hfound
      rw [hget] at hvalue
      obtain rfl := Option.some.inj hvalue
      exact hne (of_decide_eq_true hbinding)

/-- A view changes only for a channel of the binding that is looked up, which is removed. -/
theorem views_revokeByMobile {slot : ℕ} {channel : PairBackendChannel}
    (hget : linked.channels.get slot = some channel)
    (hkept : revokedByMobile (readRevocation bindingId payload).bindingForLookup
      (readRevocation bindingId payload).sessionId (readRevocation bindingId payload).channelId
      mobileId channel = false) :
    (revokeByMobile linked bindingId mobileId payload).views slot = linked.views slot := by
  unfold revokeByMobile
  dsimp only
  split
  · next hlookup =>
      apply setView_of_ne hget
      intro hbinding
      rw [revokedByMobile, decide_eq_false_iff_not] at hkept
      exact hkept (Or.inl ⟨hlookup, hbinding⟩)
  · rfl

/-- **A revocation is confined to its sender** exactly if it names no others. -/
theorem revocation_confined_iff (htype : messageType payload = openclawChannelRevokeType) :
    Confined bindingId mobileId linked
        (processLinked env app linked bindingId mobileId payload) ↔
      NamesOwn linked bindingId mobileId payload := by
  have hprocess : processLinked env app linked bindingId mobileId payload =
      revokeByMobile linked bindingId mobileId payload := if_pos htype
  rw [hprocess]
  constructor
  · intro hconfined
    constructor
    · intro slot channel hget hbinding hmobile
      obtain ⟨hafter, -⟩ := hconfined.channels slot channel hget hbinding hmobile
      rw [get_channels_revokeByMobile, hget, Option.filter_eq_some_iff] at hafter
      exact Bool.not_eq_true' _ ▸ hafter.2
    · intro hlookup peer hget
      by_contra hother
      obtain ⟨hbinding, hmobile⟩ := not_or.mp hother
      have hafter := hconfined.peers _ peer hget hbinding hmobile
      rw [get_peers_revokeByMobile, if_pos ⟨rfl, hlookup⟩] at hafter
      cases hafter
  · intro hown
    constructor
    · intro slot channel hget hbinding hmobile
      have hkept := hown.channels slot channel hget hbinding hmobile
      refine ⟨?_, views_revokeByMobile hget hkept⟩
      rw [get_channels_revokeByMobile, hget, Option.filter_some, hkept]
      rfl
    · intro binding peer hget hbinding hmobile
      rw [get_peers_revokeByMobile, if_neg]
      · exact hget
      · rintro ⟨rfl, hlookup⟩
        exact (hown.peer hlookup peer hget).elim hbinding hmobile
    · intro entry hmem
      rcases mem_closed_revokeByMobile hmem with hold | ⟨hkey, hlookup, hget⟩
      · exact Or.inl hold
      · rw [hkey] at hget
        have hpeer := hown.peer hlookup entry.2 hget
        rw [← hkey] at hpeer
        exact Or.inr hpeer
    · intro slot channel hafter
      rw [get_channels_revokeByMobile, Option.filter_eq_some_iff] at hafter
      exact hafter.1

end Confinement

/-! ### A message that names the channel of another mobile -/

def pairedChannel (bindingId mobileId : String) : PairBackendChannel :=
  newChannel "" ("session-" ++ bindingId) bindingId mobileId 1

/-- Two mobiles are connected. -/
def twoLinked : Linked where
  channels := (Roster.empty.push (pairedChannel "b1" "m1")).push (pairedChannel "b2" "m2")
  views := fun _ => ⟨"connected", ""⟩
  peers := OrderedMap.ofList [("b1", ⟨"m1"⟩), ("b2", ⟨"m2"⟩)]
  closed := []

def revocationOf (bindingId : String) : Json :=
  .obj [("type", .str openclawChannelRevokeType), ("bindingId", .str bindingId)]

def quietEnv : Env := ⟨1, fun kind => kind, .plain⟩

/-- The first mobile revokes the binding of the second: the channel and the connection of
the second are gone. -/
theorem revokes_another :
    messageType (revocationOf "b2") = openclawChannelRevokeType ∧
      ¬Confined "b1" "m1" twoLinked
        (processLinked quietEnv true twoLinked "b1" "m1" (revocationOf "b2")) := by
  have htype : messageType (revocationOf "b2") = openclawChannelRevokeType := by decide
  refine ⟨htype, fun hconfined => ?_⟩
  have hgone : (processLinked quietEnv true twoLinked "b1" "m1" (revocationOf "b2")).peers.get
      "b2" = none := by rfl
  have hkept := hconfined.peers "b2" ⟨"m2"⟩ rfl (by decide) (by decide)
  rw [hgone] at hkept
  cases hkept

theorem revocation_confined_own :
    Confined "b1" "m1" twoLinked
      (processLinked quietEnv true twoLinked "b1" "m1" (revocationOf "b1")) := by
  have hids : readRevocation "b1" (revocationOf "b1") = ⟨"b1", "", ""⟩ := by rfl
  refine (revocation_confined_iff (by decide)).mpr ⟨?_, ?_⟩
  · intro slot channel hget hbinding hmobile
    have hmem := Roster.mem_values_iff.mpr ⟨slot, hget⟩
    have hall : ∀ channel ∈ twoLinked.channels.values,
        channel = pairedChannel "b1" "m1" ∨ channel = pairedChannel "b2" "m2" := by
      intro channel hchannel
      simpa [twoLinked, Roster.values, Roster.push, Roster.empty] using hchannel
    rcases hall channel hmem with rfl | rfl
    · exact absurd rfl hbinding
    · rfl
  · intro _ peer _
    exact Or.inl (by rw [hids])

end OpenClaw.Desktop

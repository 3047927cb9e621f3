import OpenClaw.Desktop.Confinement
import OpenClaw.Wire.Envelope

/-!
# Revocations between the two ends

Either end can give up a channel and tells the other with `app.openclaw.channel.revoke`.
The mobile puts the ids into the payload of the message and looks for them there; the
desktop puts them beside the type and looks for them there.  So neither end finds the ids
that the other has written: the mobile reads three blanks, and the desktop reads only the
binding, which it takes from the connection (`revoke_roundTrip_iff`).

A chat message has its fields in the payload on both ends (`Wire.ChatFormat`).
-/

namespace OpenClaw.Wire

open OpenClaw.Runtime OpenClaw.Desktop OpenClaw.Peer

/-- The ids a revocation is about. -/
structure ChannelIds where
  channelId : String
  bindingId : String
  sessionId : String
deriving DecidableEq

/-! ## The mobile -/

/-- `OpenClawPairChannelRevoke` -/
structure ChannelRevoke where
  ids : ChannelIds
  revokedBy : EntityType
  revokedAt : JsNumber

/-- `buildOpenClawPairChannelRevokePayload` -/
def buildChannelRevokePayload (ids : ChannelIds) (revokedBy : EntityType) (revokedAt : ℕ) :
    Json :=
  .obj [("channelId", .str (jsTrim ids.channelId)), ("bindingId", .str (jsTrim ids.bindingId)),
    ("sessionId", .str (jsTrim ids.sessionId)), ("revokedBy", .str revokedBy.name),
    ("revokedAt", .num (.finite revokedAt))]

/-- `parseOpenClawPairChannelRevoke` -/
def parseChannelRevoke (reader : Reader) (message : Json) : Option ChannelRevoke :=
  if reader.trimmed message "type" ≠ openclawChannelRevokeType then none
  else
    some
      { ids :=
          { channelId := reader.trimmed (payloadOf message) "channelId"
            bindingId := reader.trimmed (payloadOf message) "bindingId"
            sessionId := reader.trimmed (payloadOf message) "sessionId" }
        revokedBy := senderOf message
        revokedAt :=
          (reader.coercion.number ((payloadOf message).field "revokedAt")
            (reader.tsOf message)).whole }

/-- What `sendChannelRevoke` reads of a session. -/
structure RevokedSession where
  id : String
  bindingId : String
  pairSessionId : String
  deviceId : String

def RevokedSession.ids (session : RevokedSession) : ChannelIds :=
  ⟨jsTrim session.id, jsTrim session.bindingId, jsTrim session.pairSessionId⟩

/-- The message of `sendChannelRevoke`. -/
def sendChannelRevoke (reader : Reader) (session : RevokedSession) : Option Json :=
  if jsTrim session.deviceId = "" then none
  else
    some (appMessage openclawChannelRevokeType
      (buildChannelRevokePayload ⟨session.id, session.bindingId, session.pairSessionId⟩ .mobile
        reader.now)
      (.num (.finite reader.now)) "mobile")

/-! ## The desktop -/

def desktopIds (channel : PairBackendChannel) : ChannelIds :=
  ⟨channel.channelId, unicodeTrim channel.bindingId, unicodeTrim channel.sessionId⟩

/-- The message that `revoke_channel` sends; without a binding or a mobile there is none. -/
def revokeEnvelope (channel : PairBackendChannel) (now : ℕ) : Option Json :=
  if unicodeTrim channel.bindingId ≠ "" ∧ unicodeTrim channel.mobileId ≠ "" then
    some (.obj [("type", .str openclawChannelRevokeType),
      ("channelId", .str (desktopIds channel).channelId),
      ("bindingId", .str (desktopIds channel).bindingId),
      ("sessionId", .str (desktopIds channel).sessionId),
      ("revokedAt", .num (.finite now))])
  else none

/-- The ids in the revocation branch of `process_mobile_app_message`, of a message that
came over a binding. -/
def handledIds (bindingId : String) (payload : Json) : ChannelIds :=
  ⟨(readRevocation bindingId payload).channelId,
    (readRevocation bindingId payload).bindingForLookup,
    (readRevocation bindingId payload).sessionId⟩

/-! ## Round trips -/

/-- What the desktop sends is read by the mobile as it was written. -/
def DesktopRoundTrip (reader : Reader) (framing : Framing) (channel : PairBackendChannel)
    (now : ℕ) : Prop :=
  ∀ envelope ∈ revokeEnvelope channel now, ∃ message ∈ framing.toMobile reader envelope,
    (parseChannelRevoke reader message).map ChannelRevoke.ids = some (desktopIds channel)

/-- What the mobile sends is read by the desktop as it was written. -/
def MobileRoundTrip (reader : Reader) (framing : Framing) (session : RevokedSession)
    (bindingId : String) : Prop :=
  ∀ message ∈ sendChannelRevoke reader session, ∃ payload ∈ framing.toDesktop reader message,
    messageType payload = openclawChannelRevokeType ∧ handledIds bindingId payload = session.ids

variable {reader : Reader} {framing : Framing} {channel : PairBackendChannel} {now : ℕ}
  {session : RevokedSession} {bindingId : String}

/-! ## From the desktop to the mobile -/

/-- Whatever has no payload is read without ids. -/
theorem ids_parseChannelRevoke {message : Json} {revoke : ChannelRevoke}
    (hpayload : payloadOf message = .obj [])
    (hparse : parseChannelRevoke reader message = some revoke) : revoke.ids = ⟨"", "", ""⟩ := by
  unfold parseChannelRevoke at hparse
  split at hparse
  · cases hparse
  · obtain rfl := Option.some.inj hparse
    have hblank : ∀ key, reader.trimmed (.obj []) key = "" := fun key => trim_empty
    dsimp only
    rw [hpayload, hblank, hblank, hblank]

/-- The ids are beside the payload that the mobile reads. -/
theorem payloadOf_revokeEnvelope {envelope : Json}
    (hsent : revokeEnvelope channel now = some envelope) : payloadOf envelope.parse = .obj [] := by
  unfold revokeEnvelope at hsent
  split at hsent
  · obtain rfl := Option.some.inj hsent
    rw [payloadOf, Json.parse, Json.field_mapNumbers_obj]
    rfl
  · cases hsent

theorem desktopRoundTrip_iff : DesktopRoundTrip reader framing channel now ↔
    unicodeTrim channel.bindingId = "" ∨ unicodeTrim channel.mobileId = "" := by
  constructor
  · intro hround
    by_contra hsent
    rw [not_or] at hsent
    have henvelope : revokeEnvelope channel now = some _ := if_pos hsent
    obtain ⟨message, hreceived, hids⟩ := hround _ henvelope
    obtain ⟨revoke, hparse, hrevoke⟩ := Option.map_eq_some_iff.mp hids
    have hpayload : payloadOf message = .obj [] :=
      (payloadOf_toMobile hreceived).trans (payloadOf_revokeEnvelope henvelope)
    rw [ids_parseChannelRevoke hpayload hparse] at hrevoke
    exact hsent.1 (congrArg ChannelIds.bindingId hrevoke).symm
  · intro hnone envelope henvelope
    have hunsent : ¬(unicodeTrim channel.bindingId ≠ "" ∧ unicodeTrim channel.mobileId ≠ "") :=
      fun hboth => hnone.elim hboth.1 hboth.2
    have hnothing : revokeEnvelope channel now = none := if_neg hunsent
    rw [Option.mem_def, hnothing] at henvelope
    cases henvelope

/-! ## From the mobile to the desktop -/

/-- The message reaches the desktop, with its ids below the payload only. -/
theorem toDesktop_sendChannelRevoke {message : Json}
    (hsent : sendChannelRevoke reader session = some message) :
    ∃ payload, framing.toDesktop reader message = some payload ∧
      messageType payload = openclawChannelRevokeType ∧ payload.field "channelId" = none ∧
      payload.field "bindingId" = none ∧ payload.field "sessionId" = none := by
  unfold sendChannelRevoke at hsent
  split at hsent
  · cases hsent
  obtain rfl := Option.some.inj hsent
  have htrim : jsTrim openclawChannelRevokeType = openclawChannelRevokeType := by decide
  obtain ⟨payload, ts, sender, hpayload⟩ := @toDesktop_appMessage reader framing
    (buildChannelRevokePayload ⟨session.id, session.bindingId, session.pairSessionId⟩ .mobile
      reader.now) (.num (.finite reader.now)) _ "mobile" htrim (by decide)
  refine ⟨_, hpayload, messageType_stringify (by decide), ?_, ?_, ?_⟩
  all_goals
    rw [stringify, field_mapNumbers_appMessage]
    rfl

/-- The desktop falls back on the binding of the connection, and finds nothing else. -/
theorem handledIds_of_fields {payload : Json} (hchannel : payload.field "channelId" = none)
    (hbinding : payload.field "bindingId" = none) (hsession : payload.field "sessionId" = none) :
    handledIds bindingId payload = ⟨"", unicodeTrim bindingId, ""⟩ := by
  have hread : ∀ key, payload.field key = none → readJsonString payload [key] = "" := by
    intro key hfield
    rw [readJsonString, List.findSome?_cons, hfield]
    rfl
  rw [handledIds, readRevocation]
  dsimp only
  rw [hread _ hchannel, hread _ hbinding, hread _ hsession, if_pos rfl]

theorem mobileRoundTrip_iff : MobileRoundTrip reader framing session bindingId ↔
    jsTrim session.deviceId = "" ∨ jsTrim session.id = "" ∧ jsTrim session.pairSessionId = "" ∧
      jsTrim session.bindingId = unicodeTrim bindingId := by
  by_cases hdevice : jsTrim session.deviceId = ""
  · have hnothing : sendChannelRevoke reader session = none := if_pos hdevice
    refine iff_of_true (fun message hsent => ?_) (Or.inl hdevice)
    rw [Option.mem_def, hnothing] at hsent
    cases hsent
  have hsent : sendChannelRevoke reader session = some _ := if_neg hdevice
  obtain ⟨payload, hpayload, htype, hchannel, hbinding, hpair⟩ :=
    @toDesktop_sendChannelRevoke reader framing session _ hsent
  have hids : handledIds bindingId payload = ⟨"", unicodeTrim bindingId, ""⟩ :=
    handledIds_of_fields hchannel hbinding hpair
  constructor
  · intro hround
    obtain ⟨other, hother, -, hsame⟩ := hround _ hsent
    obtain rfl := Option.some.inj (hpayload.symm.trans hother)
    rw [hids, RevokedSession.ids, ChannelIds.mk.injEq] at hsame
    exact Or.inr ⟨hsame.1.symm, hsame.2.2.symm, hsame.2.1.symm⟩
  · rintro (hblank | ⟨hid, hsession, hsame⟩)
    · exact absurd hblank hdevice
    · intro message hmessage
      obtain rfl := Option.some.inj (hsent.symm.trans hmessage)
      refine ⟨payload, hpayload, htype, ?_⟩
      rw [hids, RevokedSession.ids, hid, hsession, hsame]

/-! ## Both -/

/-- **No revocation with an id in it is read as it was written.**  `there` and `back` are the
two ways, and the second message comes over the binding `bindingId`. -/
theorem revoke_roundTrip_iff {there back : Framing} :
    DesktopRoundTrip reader there channel now ∧ MobileRoundTrip reader back session bindingId ↔
      (unicodeTrim channel.bindingId = "" ∨ unicodeTrim channel.mobileId = "") ∧
        (jsTrim session.deviceId = "" ∨
          jsTrim session.id = "" ∧ jsTrim session.pairSessionId = "" ∧
            jsTrim session.bindingId = unicodeTrim bindingId) :=
  and_congr desktopRoundTrip_iff mobileRoundTrip_iff

/-- A channel with its binding, and the session of the mobile. -/
def boundChannel : PairBackendChannel :=
  { newChannel "" "session" "binding" "mobile" 0 with trustState := "active" }

def boundSession : RevokedSession := ⟨"session", "binding", "session", "device"⟩

/-- **A revocation is lost either way.** -/
theorem not_revoke_roundTrip :
    ¬DesktopRoundTrip plainReader (.relay "binding" "mobile") boundChannel 0 ∧
      ¬MobileRoundTrip plainReader (.relay "binding" "device") boundSession "binding" := by
  rw [desktopRoundTrip_iff, mobileRoundTrip_iff]
  decide

end OpenClaw.Wire

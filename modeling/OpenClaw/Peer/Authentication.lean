import OpenClaw.Peer.Channel

/-!
# Authentication of a connection

Every connection is to be authenticated on its own: what a peer channel passes on
must have come after a valid hello over the same connection.  The one thing that
breaks this is the check of a signature.  It sets `remoteVerified` when it is done,
for whatever connection the channel has by then.

`Fresh` says of a step that it does not do that on a connection without a hello.
`authenticated_iff` shows that it is exactly what is needed, if the network may do
what it likes.
-/

namespace OpenClaw.Peer

open OpenClaw.Runtime Steps

variable {options : PeerOptions} {fresh : Prop} {channel : PeerChannel} {reading : Reading}
  {dataChannel : DataChannel} {event : PeerEvent} {task : Task}

/-- What is passed on is authenticated, and so is a channel that is ready. -/
structure Authenticated (channel : PeerChannel) : Prop where
  calls : ∀ callback ∈ channel.calls, callback.authenticated = true
  ready : ∀ reading, isReady channel reading = true → heardHere channel = true

/-- No check of a valid hello is done while the channel has a connection over which
none came. -/
def Fresh (channel : PeerChannel) : PeerEvent → Prop
  | .resume index _ _ => ∀ connection, channel.tasks[index]? = some (.verify connection true) →
      ∀ current, channel.peer = some current → current ∈ channel.heard
  | _ => True

/-- The invariant: what it says of the flag and of the calls holds as long as the
steps are fresh. -/
structure Sound (fresh : Prop) (channel : PeerChannel) : Prop where
  attached : ∀ dataChannel, channel.dataChannel = some dataChannel →
    channel.peer = some dataChannel.owner
  checked : ∀ connection, Task.verify connection true ∈ channel.tasks → connection ∈ channel.heard
  verified : fresh → channel.remoteVerified = true →
    ∀ connection, channel.peer = some connection → connection ∈ channel.heard
  calls : fresh → ∀ callback ∈ channel.calls, callback.authenticated = true

theorem sound_initial : Sound fresh .initial where
  attached := fun _ h => nomatch h
  checked := fun _ h => nomatch h
  verified := fun _ h => nomatch h
  calls := fun _ _ h => nomatch h

theorem heardHere_iff : heardHere channel = true ↔
    ∃ connection, channel.peer = some connection ∧ connection ∈ channel.heard := by
  rw [heardHere, Option.any_eq_true]
  exact exists_congr fun connection => and_congr_right fun _ => decide_eq_true_iff

namespace Sound

variable (hsound : Sound fresh channel)

include hsound

theorem setState (state : PeerState) : Sound fresh (setState channel state) :=
  ⟨hsound.attached, hsound.checked, hsound.verified, hsound.calls⟩

theorem closedByUser (closedByUser : Bool) : Sound fresh { channel with closedByUser } :=
  ⟨hsound.attached, hsound.checked, hsound.verified, hsound.calls⟩

theorem detach : Sound fresh { channel with dataChannel := none } :=
  ⟨fun _ h => (nomatch h), hsound.checked, hsound.verified, hsound.calls⟩

/-- Without a connection there is nothing to verify. -/
theorem disposePeer (state : PeerState) : Sound fresh (disposePeer channel state) :=
  ⟨fun _ h => (nomatch h), hsound.checked, fun _ h => (nomatch h), hsound.calls⟩

/-- A new connection is not verified. -/
theorem ensurePeer (forceRecreate : Bool) : Sound fresh (ensurePeer channel forceRecreate) := by
  have hkept : Sound fresh (if forceRecreate then Peer.disposePeer channel .connecting
      else channel) := by
    split
    · exact hsound.disposePeer .connecting
    · exact hsound
  unfold Peer.ensurePeer
  dsimp only
  generalize (if forceRecreate then Peer.disposePeer channel .connecting else channel) = kept
    at hkept
  cases hpeer : kept.peer with
  | some connection => exact hkept
  | none =>
      refine ⟨fun dataChannel hattached => ?_, hkept.checked, fun _ h => (nomatch h), hkept.calls⟩
      have hnone := hkept.attached dataChannel hattached
      rw [hpeer] at hnone
      cases hnone

theorem attachDataChannel : Sound fresh (attachDataChannel channel) := by
  unfold Peer.attachDataChannel
  split
  · next owner hpeer =>
    refine ⟨fun dataChannel hattached => ?_, hsound.checked, hsound.verified, hsound.calls⟩
    rw [← Option.some.inj hattached]
    exact hpeer
  · exact hsound

theorem addTask (htask : ∀ connection, task = .verify connection true →
    connection ∈ channel.heard) :
    Sound fresh { channel with tasks := channel.tasks ++ [task] } := by
  refine ⟨hsound.attached, fun connection hmem => ?_, hsound.verified, hsound.calls⟩
  rcases List.mem_append.mp hmem with hold | hnew
  · exact hsound.checked connection hold
  · exact htask connection (List.mem_singleton.mp hnew).symm

theorem eraseTask (index : ℕ) :
    Sound fresh { channel with tasks := channel.tasks.eraseIdx index } :=
  ⟨hsound.attached, fun connection hmem => hsound.checked connection
    ((List.eraseIdx_sublist _ _).subset hmem), hsound.verified, hsound.calls⟩

theorem sendHello (fromOpen : Bool) : Sound fresh (sendHello channel reading fromOpen).1 := by
  unfold Peer.sendHello
  split
  · exact hsound
  · exact hsound.addTask fun _ h => (nomatch h)

theorem sendCapabilitiesIfReady : Sound fresh (sendCapabilitiesIfReady channel reading).1 := by
  unfold Peer.sendCapabilitiesIfReady
  split
  · exact hsound
  · exact ⟨hsound.attached, hsound.checked, hsound.verified, hsound.calls⟩

theorem helloSigned : Sound fresh (helloSigned channel reading).1 := by
  have hsent : Sound fresh { channel with helloSent := true } :=
    ⟨hsound.attached, hsound.checked, hsound.verified, hsound.calls⟩
  unfold Peer.helloSigned
  dsimp only
  split
  · exact hsent
  · split
    · exact (hsent.setState .connected).sendCapabilitiesIfReady
    · exact hsent.setState .verifying

theorem connect (terminal closed : Bool) :
    Sound fresh (connect channel terminal closed reading) := by
  unfold Peer.connect
  dsimp only
  split
  · exact hsound.closedByUser false
  · have hensured := (hsound.closedByUser false).ensurePeer
      (channel.peer.isSome && (terminal || channel.dataChannel.isSome && closed))
    split
    · exact hensured.attachDataChannel.setState .connecting
    · exact hensured.setState .connecting

theorem handleOffer (offer : Option Offer) : Sound fresh (handleOffer channel offer) := by
  cases offer with
  | none => exact hsound.closedByUser false
  | some offer => exact ((hsound.closedByUser false).ensurePeer _).setState .connecting

/-- A call over a verified connection is authenticated. -/
theorem call (hcurrent : channel.peer.isSome = true) (hverified : channel.remoteVerified = true) :
    Sound fresh (call channel) := by
  refine ⟨hsound.attached, hsound.checked, hsound.verified, fun hfresh callback hmem => ?_⟩
  rcases List.mem_append.mp hmem with hold | hnew
  · exact hsound.calls hfresh callback hold
  · obtain ⟨connection, hpeer⟩ := Option.isSome_iff_exists.mp hcurrent
    rw [List.mem_singleton.mp hnew]
    exact heardHere_iff.mpr ⟨connection, hpeer, hsound.verified hfresh hverified connection hpeer⟩

theorem hear (dataChannel : DataChannel) (hello : Hello) :
    Sound fresh (hear options channel dataChannel hello) := by
  unfold Peer.hear
  split
  · refine ⟨hsound.attached, fun connection hmem => ?_, fun hfresh hflag connection hown => ?_,
      hsound.calls⟩
    · exact List.mem_cons_of_mem _ (hsound.checked connection hmem)
    · exact List.mem_cons_of_mem _ (hsound.verified hfresh hflag connection hown)
  · exact hsound

theorem handleDataMessage (hcurrent : isCurrentDataChannel channel dataChannel = true)
    (data : DataMessage) : Sound fresh (handleDataMessage options channel dataChannel data) := by
  have hpeer : channel.peer.isSome = true := by
    rw [(of_decide_eq_true hcurrent).2, Option.isSome_some]
  cases data with
  | hello hello =>
      have hheard : Sound fresh (Peer.hear options channel dataChannel hello) :=
        hsound.hear dataChannel hello
      unfold Peer.handleDataMessage
      dsimp only
      split
      · next hmatches =>
        -- the hello counts as heard before its check is done
        refine hheard.addTask fun connection htask => ?_
        rw [Task.verify.injEq] at htask
        rw [Peer.hear, if_pos (validHello_iff.mpr ⟨hmatches, htask.2⟩), htask.1]
        exact List.mem_cons_self
      · exact hheard
  | capabilities supportedMessages =>
      unfold Peer.handleDataMessage
      dsimp only
      split
      · next hverified =>
        have hsame : Sound fresh { channel with
            remoteCapabilities := some (normalizeCapabilities supportedMessages) } :=
          ⟨hsound.attached, hsound.checked, hsound.verified, hsound.calls⟩
        exact hsame.call hpeer hverified
      · exact hsound
  | app =>
      unfold Peer.handleDataMessage
      dsimp only
      split
      · next hverified => exact hsound.call hpeer hverified
      · exact hsound
  | other => exact hsound

/-- The check is done: that is where the flag is set. -/
theorem helloVerified (hheard : fresh → ∀ current, channel.peer = some current →
    current ∈ channel.heard) : Sound fresh (helloVerified channel reading) := by
  have hverified : Sound fresh { channel with remoteVerified := true } :=
    ⟨hsound.attached, hsound.checked, fun hfresh _ => hheard hfresh, hsound.calls⟩
  unfold Peer.helloVerified
  dsimp only
  split
  · exact (hverified.setState .connected).sendCapabilitiesIfReady
  · split
    · exact hverified.sendHello false
    · exact (hverified.sendHello false).addTask fun _ h => (nomatch h)

theorem resumeSign (fromOpen signed : Bool) :
    Sound fresh (resumeSign channel fromOpen signed reading) := by
  have hsent : Sound fresh (if signed then Peer.helloSigned channel reading
      else (channel, false)).1 := by
    split
    · exact hsound.helloSigned
    · exact hsound
  unfold Peer.resumeSign
  dsimp only
  generalize (if signed then Peer.helloSigned channel reading else (channel, false)) = sent
    at hsent
  split
  · split
    · exact hsent
    · exact hsent.setState .failed
  · split
    · exact hsent.addTask fun _ h => (nomatch h)
    · exact hsent

theorem changeConnection (state : ConnectionState) :
    Sound fresh (changeConnection channel state) := by
  cases state with
  | failed => exact hsound.disposePeer .failed
  | closed => exact hsound.disposePeer .disconnected
  | disconnected => exact hsound.setState .disconnected
  | other => exact hsound

/-- **A fresh step keeps the invariant.** -/
theorem step (hstep : fresh → Fresh channel event) :
    Sound fresh (peerStep options channel event) := by
  cases event with
  | connect terminal closed reading => exact hsound.connect terminal closed
  | offer offer => exact hsound.handleOffer offer
  | signal => exact hsound.ensurePeer false
  | incomingChannel => exact hsound.attachDataChannel
  | opened dataChannel reading =>
      rw [peerStep, opened]
      split
      · exact (hsound.setState .channelOpen).sendHello true
      · exact hsound
  | closed dataChannel =>
      rw [peerStep, closed]
      split
      · split
        · exact hsound.detach
        · exact hsound.detach.disposePeer .disconnected
      · exact hsound
  | errored dataChannel =>
      rw [peerStep, errored]
      split
      · exact hsound.detach.disposePeer .failed
      · exact hsound
  | message dataChannel data =>
      rw [peerStep]
      split
      · next hcurrent => exact hsound.handleDataMessage hcurrent data
      · exact hsound
  | connectionState connection state =>
      rw [peerStep]
      split
      · exact hsound.changeConnection state
      · exact hsound
  | iceFailed connection =>
      rw [peerStep]
      split
      · exact hsound.disposePeer .failed
      · exact hsound
  | close => exact (hsound.closedByUser true).disposePeer .disconnected
  | resume index signed reading =>
      rw [peerStep]
      cases htask : channel.tasks[index]? with
      | none => exact hsound
      | some task =>
          have herased := hsound.eraseTask index
          cases task with
          | verify connection valid =>
              unfold resume
              dsimp only
              split
              · next hvalid =>
                refine herased.helloVerified fun hfresh current hpeer => ?_
                exact hstep hfresh connection (by rw [htask, hvalid]) current hpeer
              · exact herased
          | sign fromOpen => exact herased.resumeSign fromOpen signed
          | verified => exact (herased.setState .connected).sendCapabilitiesIfReady

end Sound

theorem Sound.authenticated (hsound : Sound True channel) : Authenticated channel := by
  refine ⟨hsound.calls trivial, fun reading hready => heardHere_iff.mpr ?_⟩
  obtain ⟨-, hattached, -, hverified⟩ := of_decide_eq_true hready
  obtain ⟨dataChannel, hdata⟩ := Option.isSome_iff_exists.mp hattached
  have hpeer := hsound.attached dataChannel hdata
  exact ⟨_, hpeer, hsound.verified trivial hverified _ hpeer⟩

/-! ## What the network can do -/

/-- Nothing that waits goes on. -/
def Quiet (events : List PeerEvent) : Prop :=
  ∀ event ∈ events, ∀ index signed reading, event ≠ .resume index signed reading

theorem Sound.run_quiet {events : List PeerEvent} (hsound : Sound True channel)
    (hquiet : Quiet events) : Sound True (run (peerStep options) channel events) := by
  induction events generalizing channel with
  | nil => exact hsound
  | cons event rest ih =>
      have hfresh : Fresh channel event := by
        cases event with
        | resume index signed reading => exact absurd rfl (hquiet _ List.mem_cons_self _ _ _)
        | _ => trivial
      exact ih (hsound.step fun _ => hfresh) fun later hlater =>
        hquiet later (List.mem_cons_of_mem _ hlater)

/-- A new data channel of the connection, and an app message over it. -/
def appOverNewChannel (channel : PeerChannel) (owner : ℕ) : List PeerEvent :=
  [.incomingChannel, .message ⟨channel.next, owner⟩ .app]

/-- A verified channel whose connection had no hello lets an app message through. -/
theorem exists_unauthenticated (hverified : channel.remoteVerified = true) {current : ℕ}
    (hpeer : channel.peer = some current) (hunheard : current ∉ channel.heard) :
    ∃ events, Quiet events ∧ ¬Authenticated (run (peerStep options) channel events) := by
  refine ⟨appOverNewChannel channel current, ?_, fun hauthenticated => ?_⟩
  · intro event hmem index signed reading
    rcases List.mem_pair.mp hmem with rfl | rfl
    · exact fun h => nomatch h
    · exact fun h => nomatch h
  · have hattach : attachDataChannel channel = { channel with
        dataChannel := some ⟨channel.next, current⟩, next := channel.next + 1 } := by
      rw [attachDataChannel, hpeer]
    have hhere : heardHere (attachDataChannel channel) = false := by
      rw [hattach, heardHere, hpeer, Option.any_some]
      exact decide_eq_false hunheard
    have hcurrent : isCurrentDataChannel (attachDataChannel channel) ⟨channel.next, current⟩ =
        true := by
      rw [hattach, isCurrentDataChannel]
      exact decide_eq_true ⟨rfl, hpeer⟩
    have hflag : (attachDataChannel channel).remoteVerified = true := by
      rw [hattach]
      exact hverified
    have hrun : run (peerStep options) channel (appOverNewChannel channel current) =
        call (attachDataChannel channel) := by
      show peerStep options (attachDataChannel channel) (.message ⟨channel.next, current⟩ .app) = _
      rw [peerStep, if_pos hcurrent, handleDataMessage, if_pos hflag]
    rw [hrun] at hauthenticated
    have hcall := hauthenticated.calls ⟨heardHere (attachDataChannel channel)⟩
      (List.mem_concat_self ..)
    rw [hhere] at hcall
    cases hcall

/-- What a channel is worth is what the network can make of it. -/
theorem sound_iff_quiet (hsound : Sound False channel) :
    Sound True channel ↔
      ∀ more, Quiet more → Authenticated (run (peerStep options) channel more) := by
  constructor
  · exact fun htrue more hquiet => (htrue.run_quiet hquiet).authenticated
  · intro hall
    have hnow := hall [] fun event hmem => nomatch hmem
    refine ⟨hsound.attached, hsound.checked, fun _ hverified current hpeer => ?_,
      fun _ => hnow.calls⟩
    by_contra hunheard
    obtain ⟨events, hquiet, hnot⟩ :=
      exists_unauthenticated hverified hpeer hunheard
    exact hnot (hall events hquiet)

/-- Being done with a check sets the flag, for the connection there is. -/
theorem helloVerified_fields (channel : PeerChannel) (reading : Reading) :
    (helloVerified channel reading).peer = channel.peer ∧
      (helloVerified channel reading).heard = channel.heard ∧
      (helloVerified channel reading).remoteVerified = true := by
  unfold helloVerified sendCapabilitiesIfReady sendHello
  dsimp only
  split
  · split
    · exact ⟨rfl, rfl, rfl⟩
    · exact ⟨rfl, rfl, rfl⟩
  · split
    · exact ⟨rfl, rfl, rfl⟩
    · exact ⟨rfl, rfl, rfl⟩

/-- A step that is not fresh sets the flag for a connection without a hello. -/
theorem sound_step_iff (hsound : Sound True channel) :
    Sound True (peerStep options channel event) ↔ Fresh channel event := by
  refine ⟨fun hafter => ?_, fun hfresh => hsound.step fun _ => hfresh⟩
  cases event with
  | resume index signed reading =>
      intro connection htask current hpeer
      have hstep : peerStep options channel (.resume index signed reading) =
          helloVerified { channel with tasks := channel.tasks.eraseIdx index } reading := by
        rw [peerStep, htask]
        rfl
      have hflag := hafter.verified trivial
      rw [hstep] at hflag
      obtain ⟨hpeers, hheard, hverified⟩ := helloVerified_fields
        { channel with tasks := channel.tasks.eraseIdx index } reading
      rw [hpeers, hheard] at hflag
      exact hflag hverified current hpeer
  | _ => trivial

/-! ## Runs -/

theorem sound_false_run (options : PeerOptions) (events : List PeerEvent) :
    Sound False (run (peerStep options) .initial events) :=
  run_preserves_of_step (fun _ _ hsound => hsound.step False.elim) events sound_initial

/-- **When every connection is authenticated on its own.**  As long as the steps of a
run are fresh, everything is, whatever the network does next; after one that is not,
the network can get a message through. -/
theorem authenticated_iff (options : PeerOptions) (events : List PeerEvent) :
    (∀ before, before <+: events → ∀ more, Quiet more →
        Authenticated (run (peerStep options) .initial (before ++ more))) ↔
      Along (peerStep options) Fresh .initial events := by
  have hsound : ∀ before, Sound True (run (peerStep options) .initial before) ↔
      ∀ more, Quiet more → Authenticated (run (peerStep options) .initial (before ++ more)) := by
    intro before
    simp only [run_append]
    exact sound_iff_quiet (sound_false_run options before)
  simp only [← hsound]
  exact forall_prefix_iff_along (fun _ _ => sound_step_iff) sound_initial

def plainOptions : PeerOptions := ⟨.mobile, "desk_1", "key", "bind_1", fun _ _ _ => true⟩

def signedHello : Hello := ⟨"bind_1", "desktop", "desk_1", "key", "nonce", "signature"⟩

/-- The check of a hello is done after an offer has replaced its connection. -/
def lateCheck : List PeerEvent :=
  [.connect false false ⟨true, true⟩, .opened ⟨1, 0⟩ ⟨true, true⟩,
    .message ⟨1, 0⟩ (.hello signedHello), .offer (some ⟨false, true⟩), .incomingChannel,
    .opened ⟨3, 2⟩ ⟨true, true⟩, .resume 1 true ⟨true, true⟩, .message ⟨3, 2⟩ .app]

/-- **A connection can be taken for authenticated without a hello.** -/
theorem not_authenticated :
    ¬∀ options events, Authenticated (run (peerStep options) .initial events) := by
  intro hall
  have hcalls := (hall plainOptions lateCheck).calls ⟨false⟩
  have hmem : (⟨false⟩ : Callback) ∈
      (run (peerStep plainOptions) .initial lateCheck).calls := by decide
  cases hcalls hmem

end OpenClaw.Peer

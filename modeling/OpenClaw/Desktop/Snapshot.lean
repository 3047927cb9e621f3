import OpenClaw.Desktop.Channel
import OpenClaw.Lib.Steps

/-!
# The runtime state on disk

Whoever changes the channels calls `emit_snapshot` afterwards.  A call reads the channels under
the lock and compares their signature with the one recorded; if they differ it writes the
runtime state to disk without the lock, takes the lock again and records the signature.  Calls
run side by side, so an event is one of these steps of one call.

`serde_json` gives different texts for different runtime states and never fails on them, so a
text is represented by the runtime state it says; a signature is one with the time zero.
Beside the state of the desktop there is a count of the snapshots read for writing, which of
them the file is from, and the channels of the last one.
-/

namespace OpenClaw.Desktop

open OrderedMap (get_of_get_erase)
open StableSort

deriving instance DecidableEq for PairBackendChannel

structure PairBackendCapabilities where
  protocolVersion : String
  supportedMessages : List String
  features : List String
  appId : String
  appVersion : String
deriving DecidableEq

/-- A channel with its QR code, as a JSON text, and what is known of its peer. -/
structure LiveChannel extends PairBackendChannel where
  qrPayload : Option String
  peerState : String
  peerDetail : String
  peerCapabilities : Option PairBackendCapabilities
deriving DecidableEq

structure PairBackendRuntimeState where
  version : ℕ
  savedAt : ℕ
  channels : List LiveChannel
deriving DecidableEq

def sanitizeChannelsForPersistence (channels : List LiveChannel) : List LiveChannel :=
  channels.map fun channel =>
    { channel with
      status := if channel.trustState = "pending" then "pending" else "offline"
      peerState := "", peerDetail := "", peerCapabilities := none }

def buildRuntimeState (channels : List LiveChannel) (savedAt : ℕ) : PairBackendRuntimeState :=
  ⟨1, savedAt, sanitizeChannelsForPersistence channels⟩

/-- `reconcile_channel_messages_locked` -/
def reconcileChannel (choices : Choices) (channel : LiveChannel) : LiveChannel :=
  let reconciled := reconcileChannelMessages choices channel.messages
  { channel with
    messages := reconciled.messages, missingMessageIds := reconciled.missingMessageIds }

def sanitizeLoadedChannels (choices : Choices) (channels : List LiveChannel) : List LiveChannel :=
  sortBy (fun left right => compare left.createdAt right.createdAt)
    ((sanitizeChannelsForPersistence channels).map (reconcileChannel choices))

/-- A call of `emit_snapshot`, in front of its next step. -/
inductive EmitCall
  | read
  /-- In front of `write_runtime_state_to_disk`; `number` counts the snapshots read. -/
  | write (runtimeState signature : PairBackendRuntimeState) (number : ℕ)
  | record (signature : PairBackendRuntimeState)

structure PairRuntime where
  /-- Whether the application handle is set. -/
  app : Bool
  channels : List LiveChannel
  persistedSignature : Option PairBackendRuntimeState
  file : Option PairBackendRuntimeState
  calls : OrderedMap ℕ EmitCall
  nextCall : ℕ
  /-- The snapshots read for writing. -/
  reads : ℕ
  /-- The one the file is from; zero without a file. -/
  fileRead : ℕ
  newestChannels : List LiveChannel
  failed : Bool

/-- The desktop behind `set_app_handle`, which every command calls first, with no runtime state
on disk. -/
def PairRuntime.started : PairRuntime := ⟨true, [], none, none, ∅, 0, 0, 0, [], false⟩

/-- The same with a runtime state on disk, which is restored. -/
def PairRuntime.restored (choices : Choices) (runtimeState : PairBackendRuntimeState) :
    PairRuntime :=
  let restoredChannels := sanitizeLoadedChannels choices runtimeState.channels
  ⟨true, restoredChannels, some (buildRuntimeState restoredChannels 0), some runtimeState, ∅, 0, 0,
    0, runtimeState.channels, false⟩

/-! ## Steps -/

def callEmitSnapshot (runtime : PairRuntime) : PairRuntime :=
  { runtime with
    calls := runtime.calls.set runtime.nextCall .read, nextCall := runtime.nextCall + 1 }

/-- `emit_snapshot`, while it holds the lock. -/
def readSnapshot (runtime : PairRuntime) (call now : ℕ) : PairRuntime :=
  let signature := buildRuntimeState runtime.channels 0
  let shouldPersist := runtime.persistedSignature ≠ some signature
  if runtime.app ∧ shouldPersist then
    { runtime with
      calls := runtime.calls.set call
        (.write (buildRuntimeState runtime.channels now) signature (runtime.reads + 1))
      reads := runtime.reads + 1
      newestChannels := sanitizeChannelsForPersistence runtime.channels }
  else { runtime with calls := runtime.calls.erase call }

/-- `write_runtime_state_to_disk`, called by `emit_snapshot`. -/
def writeSnapshot (runtime : PairRuntime) (call : ℕ) (runtimeState signature :
    PairBackendRuntimeState) (number : ℕ) (ok : Bool) : PairRuntime :=
  if ok then
    { runtime with
      calls := runtime.calls.set call (.record signature)
      file := some runtimeState, fileRead := number }
  else { runtime with calls := runtime.calls.erase call, failed := true }

def recordSignature (runtime : PairRuntime) (call : ℕ) (signature : PairBackendRuntimeState) :
    PairRuntime :=
  { runtime with
    calls := runtime.calls.erase call, persistedSignature := some signature }

inductive RuntimeEvent
  /-- The channels are changed under the lock; `emit_snapshot` is called behind it. -/
  | mutate (change : List LiveChannel → List LiveChannel)
  /-- `emit_snapshot` is called without a change. -/
  | emit
  /-- A call goes on; `ok` is the outcome of a write. -/
  | go (call now : ℕ) (ok : Bool)

def stepRuntime (runtime : PairRuntime) : RuntimeEvent → PairRuntime
  | .mutate change => callEmitSnapshot { runtime with channels := change runtime.channels }
  | .emit => callEmitSnapshot runtime
  | .go call now ok =>
      match runtime.calls.get call with
      | some .read => readSnapshot runtime call now
      | some (.write runtimeState signature number) =>
          writeSnapshot runtime call runtimeState signature number ok
      | some (.record signature) => recordSignature runtime call signature
      | none => runtime

/-! ## What is on disk -/

/-- The channels a restart would find. -/
def PairRuntime.fileChannels (runtime : PairRuntime) : List LiveChannel :=
  (runtime.file.map PairBackendRuntimeState.channels).getD []

/-- A start without a runtime state on disk, or with one that is restored as it is. -/
inductive PairRuntime.Starts (choices : Choices) : PairRuntime → Prop
  | started : Starts choices .started
  | restored {runtimeState : PairBackendRuntimeState}
      (hsame : sanitizeLoadedChannels choices runtimeState.channels = runtimeState.channels) :
      Starts choices (.restored choices runtimeState)

/-- At rest, with every write done, the file has the channels. -/
def PairRuntime.Persisted (runtime : PairRuntime) : Prop :=
  runtime.calls.entries = [] → runtime.failed = false →
    runtime.fileChannels = sanitizeChannelsForPersistence runtime.channels

/-- An older snapshot is written over a newer one, or a call finds its channels recorded when
the last snapshot read for writing has other ones. -/
def Outruns (runtime : PairRuntime) : RuntimeEvent → Prop
  | .go call _ ok =>
      (ok = true ∧ ∃ runtimeState signature number,
        runtime.calls.get call = some (.write runtimeState signature number) ∧
          number < runtime.fileRead) ∨
      (runtime.calls.get call = some .read ∧
        runtime.persistedSignature = some (buildRuntimeState runtime.channels 0) ∧
          runtime.newestChannels ≠ sanitizeChannelsForPersistence runtime.channels)
  | _ => False

/-- As long as no call outruns another: the last snapshot is in the file or on its way there,
and it has the channels unless a call is still to read them. -/
structure Followed (runtime : PairRuntime) : Prop where
  app : runtime.app = true
  fresh : ∀ call phase, runtime.calls.get call = some phase → call < runtime.nextCall
  numbers : ∀ call runtimeState signature number,
    runtime.calls.get call = some (.write runtimeState signature number) →
      number ≤ runtime.reads ∧
        (number = runtime.reads → runtimeState.channels = runtime.newestChannels)
  newest : runtime.failed = false →
    (runtime.fileRead = runtime.reads ∧ runtime.fileChannels = runtime.newestChannels) ∨
      ∃ call runtimeState signature,
        runtime.calls.get call = some (.write runtimeState signature runtime.reads)
  current : (∀ call, runtime.calls.get call ≠ some .read) →
    runtime.newestChannels = sanitizeChannelsForPersistence runtime.channels

section Snapshot

variable {runtime : PairRuntime} {call now number : ℕ} {ok : Bool} {phase : EmitCall}
  {runtimeState signature : PairBackendRuntimeState} {change : List LiveChannel → List LiveChannel}

/-- At rest the last snapshot is in the file. -/
theorem Followed.persisted (hfollowed : Followed runtime) : runtime.Persisted := by
  intro hrest hdone
  have hnone : ∀ call, runtime.calls.get call = none := by
    intro call
    rw [OrderedMap.get_eq_none_iff, OrderedMap.keys, hrest]
    exact List.not_mem_nil
  have hcurrent := hfollowed.current fun call hread => by
    rw [hnone call] at hread
    cases hread
  rcases hfollowed.newest hdone with ⟨-, hfile⟩ | ⟨call, runtimeState, signature, hwrite⟩
  · rw [hfile, hcurrent]
  · rw [hnone call] at hwrite
    cases hwrite

/-- What was restored is as it would be written. -/
theorem sanitize_sanitizeLoaded (choices : Choices) (channels : List LiveChannel) :
    sanitizeChannelsForPersistence (sanitizeLoadedChannels choices channels) =
      sanitizeLoadedChannels choices channels := by
  refine (List.map_congr_left fun channel hmem => ?_).trans (List.map_id _)
  obtain ⟨sanitized, hsanitized, rfl⟩ := List.mem_map.mp (mem_sortBy.mp hmem)
  obtain ⟨stored, -, rfl⟩ := List.mem_map.mp hsanitized
  rfl

theorem followed_of_starts {choices : Choices} (hstart : runtime.Starts choices) :
    Followed runtime := by
  cases hstart with
  | started => exact ⟨rfl, nofun, nofun, fun _ => Or.inl ⟨rfl, rfl⟩, fun _ => rfl⟩
  | @restored runtimeState hsame =>
      refine ⟨rfl, nofun, nofun, fun _ => Or.inl ⟨rfl, rfl⟩, fun _ => ?_⟩
      exact hsame.symm.trans (sanitize_sanitizeLoaded choices runtimeState.channels).symm

/-- A new call is to read the channels, whatever they are. -/
theorem followed_call (hfollowed : Followed runtime)
    (change : List LiveChannel → List LiveChannel) :
    Followed (callEmitSnapshot { runtime with channels := change runtime.channels }) := by
  have hold : ∀ {call phase}, runtime.calls.get call = some phase → call ≠ runtime.nextCall :=
    fun hget => (hfollowed.fresh _ _ hget).ne
  refine
    { app := hfollowed.app
      fresh := fun call phase hget => ?_
      numbers := fun call runtimeState signature number hget => ?_
      newest := fun hdone => ?_
      current := fun hnone => ?_ }
  · show call < runtime.nextCall + 1
    by_cases hcall : call = runtime.nextCall
    · omega
    · have hlt := hfollowed.fresh call phase ((OrderedMap.get_set_of_ne _ _ hcall).symm.trans hget)
      omega
  · by_cases hcall : call = runtime.nextCall
    · rw [hcall] at hget
      cases (OrderedMap.get_set_self _ _ _).symm.trans hget
    · exact hfollowed.numbers call runtimeState signature number
        ((OrderedMap.get_set_of_ne _ _ hcall).symm.trans hget)
  · rcases hfollowed.newest hdone with hfile | ⟨call, runtimeState, signature, hwrite⟩
    · exact Or.inl hfile
    · exact Or.inr ⟨call, runtimeState, signature,
        (OrderedMap.get_set_of_ne _ _ (hold hwrite)).trans hwrite⟩
  · exact absurd (OrderedMap.get_set_self _ _ _) (hnone runtime.nextCall)

theorem followed_read (hfollowed : Followed runtime) (hread : runtime.calls.get call = some .read)
    (hkept : runtime.persistedSignature = some (buildRuntimeState runtime.channels 0) →
      runtime.newestChannels = sanitizeChannelsForPersistence runtime.channels) :
    Followed (readSnapshot runtime call now) := by
  have hwriting : ∀ {other runtimeState signature number},
      runtime.calls.get other = some (.write runtimeState signature number) → other ≠ call := by
    rintro other runtimeState signature number hwrite rfl
    rw [hread] at hwrite
    cases hwrite
  unfold readSnapshot
  dsimp only
  split
  · refine
      { app := hfollowed.app
        fresh := fun other phase hget => ?_
        numbers := fun other runtimeState signature number hget => ?_
        newest := fun _ => Or.inr ⟨call, _, _, OrderedMap.get_set_self _ _ _⟩
        current := fun _ => rfl }
    · by_cases hother : other = call
      · rw [hother]
        exact hfollowed.fresh call .read hread
      · exact hfollowed.fresh other phase ((OrderedMap.get_set_of_ne _ _ hother).symm.trans hget)
    · show number ≤ runtime.reads + 1 ∧ (number = runtime.reads + 1 → _)
      by_cases hother : other = call
      · rw [hother] at hget
        cases (OrderedMap.get_set_self _ _ _).symm.trans hget
        exact ⟨le_rfl, fun _ => rfl⟩
      · -- the snapshots read before have smaller numbers
        have hle := (hfollowed.numbers other runtimeState signature number
          ((OrderedMap.get_set_of_ne _ _ hother).symm.trans hget)).1
        exact ⟨by omega, fun heq => by omega⟩
  · next hskip =>
    have hrecorded : runtime.persistedSignature = some (buildRuntimeState runtime.channels 0) := by
      by_contra hdiffers
      exact hskip ⟨hfollowed.app, hdiffers⟩
    refine
      { app := hfollowed.app
        fresh := fun other phase hother => hfollowed.fresh other phase (get_of_get_erase hother)
        numbers := fun other runtimeState signature number hother =>
          hfollowed.numbers other runtimeState signature number (get_of_get_erase hother)
        newest := fun hdone => ?_
        current := fun _ => hkept hrecorded }
    rcases hfollowed.newest hdone with hfile | ⟨other, runtimeState, signature, hwrite⟩
    · exact Or.inl hfile
    · exact Or.inr ⟨other, runtimeState, signature,
        (OrderedMap.get_erase_of_ne _ (hwriting hwrite)).trans hwrite⟩

theorem followed_write (hfollowed : Followed runtime)
    (hwrite : runtime.calls.get call = some (.write runtimeState signature number))
    (hnewer : ok = true → runtime.fileRead ≤ number) :
    Followed (writeSnapshot runtime call runtimeState signature number ok) := by
  obtain ⟨hle, hchannels⟩ := hfollowed.numbers call runtimeState signature number hwrite
  have hreading : ∀ {other}, runtime.calls.get other = some .read → other ≠ call := by
    rintro other hread rfl
    rw [hwrite] at hread
    cases hread
  unfold writeSnapshot
  split
  · next hok =>
    refine
      { app := hfollowed.app
        fresh := fun other phase hget => ?_
        numbers := fun other runtimeState' signature' number' hget => ?_
        newest := fun hdone => ?_
        current := fun hnone => hfollowed.current fun other hread => hnone other
          ((OrderedMap.get_set_of_ne _ _ (hreading hread)).trans hread) }
    · by_cases hother : other = call
      · rw [hother]
        exact hfollowed.fresh call _ hwrite
      · exact hfollowed.fresh other phase ((OrderedMap.get_set_of_ne _ _ hother).symm.trans hget)
    · by_cases hother : other = call
      · rw [hother] at hget
        cases (OrderedMap.get_set_self _ _ _).symm.trans hget
      · exact hfollowed.numbers other runtimeState' signature' number'
          ((OrderedMap.get_set_of_ne _ _ hother).symm.trans hget)
    · show number = runtime.reads ∧ runtimeState.channels = runtime.newestChannels ∨ _
      by_cases hlast : number = runtime.reads
      · exact Or.inl ⟨hlast, hchannels hlast⟩
      -- an older snapshot: the newest one is not in the file yet, nor was it
      · rcases hfollowed.newest hdone with ⟨hfile, -⟩ | ⟨other, runtimeState', signature', hother⟩
        · have hge := hnewer hok
          omega
        · have hne : other ≠ call := by
            rintro rfl
            rw [hwrite] at hother
            cases hother
            exact hlast rfl
          exact Or.inr ⟨other, runtimeState', signature',
            (OrderedMap.get_set_of_ne _ _ hne).trans hother⟩
  · exact
      { app := hfollowed.app
        fresh := fun other phase hother => hfollowed.fresh other phase (get_of_get_erase hother)
        numbers := fun other runtimeState' signature' number' hother =>
          hfollowed.numbers other runtimeState' signature' number' (get_of_get_erase hother)
        newest := nofun
        current := fun hnone => hfollowed.current fun other hread => hnone other
          ((OrderedMap.get_erase_of_ne _ (hreading hread)).trans hread) }

theorem followed_record (hfollowed : Followed runtime)
    (hrecord : runtime.calls.get call = some (.record signature)) :
    Followed (recordSignature runtime call signature) := by
  have hothers : ∀ {other phase}, runtime.calls.get other = some phase → phase ≠ .record signature →
      (runtime.calls.erase call).get other = some phase := by
    intro other phase hother hne
    rw [OrderedMap.get_erase_of_ne]
    · exact hother
    · rintro rfl
      rw [hrecord, Option.some_inj] at hother
      exact hne hother.symm
  refine
    { app := hfollowed.app
      fresh := fun other phase hother => hfollowed.fresh other phase (get_of_get_erase hother)
      numbers := fun other runtimeState' signature' number' hother =>
        hfollowed.numbers other runtimeState' signature' number' (get_of_get_erase hother)
      newest := fun hdone => ?_
      current := fun hnone => hfollowed.current fun other hread =>
        hnone other (hothers hread nofun) }
  rcases hfollowed.newest hdone with hfile | ⟨other, runtimeState, signature', hwrite⟩
  · exact Or.inl hfile
  · exact Or.inr ⟨other, runtimeState, signature', hothers hwrite nofun⟩

theorem followed_stepRuntime {event : RuntimeEvent} (hfollowed : Followed runtime)
    (hevent : ¬Outruns runtime event) : Followed (stepRuntime runtime event) := by
  cases event with
  | mutate change => exact followed_call hfollowed change
  | emit => exact followed_call hfollowed id
  | go call now ok =>
      obtain ⟨holder, hskip⟩ := not_or.mp hevent
      show Followed (match runtime.calls.get call with
        | some .read => readSnapshot runtime call now
        | some (.write runtimeState signature number) =>
            writeSnapshot runtime call runtimeState signature number ok
        | some (.record signature) => recordSignature runtime call signature
        | none => runtime)
      cases hget : runtime.calls.get call with
      | none => exact hfollowed
      | some phase =>
          cases phase with
          | read =>
              refine followed_read hfollowed hget fun hrecorded => ?_
              by_contra hdiffers
              exact hskip ⟨hget, hrecorded, hdiffers⟩
          | write runtimeState signature number =>
              refine followed_write hfollowed hget fun hok => ?_
              by_contra hlt
              exact holder ⟨hok, runtimeState, signature, number, hget, by omega⟩
          | record signature => exact followed_record hfollowed hget

/-- **At rest the file has the channels**, in every state of a run in which no call outruns
another. -/
theorem channels_persisted {choices : Choices} {start : PairRuntime}
    (hstart : start.Starts choices) {events reached : List RuntimeEvent}
    (hevents : Steps.Along stepRuntime (fun runtime event => ¬Outruns runtime event) start
      events) (hreached : reached <+: events) :
    (Steps.run stepRuntime start reached).Persisted := by
  obtain ⟨rest, rfl⟩ := hreached
  have hbefore := (Steps.along_append.mp hevents).1
  have hfollowed : Followed (Steps.run stepRuntime start reached) :=
    Steps.run_preserves (fun _ _ hfollowed hevent => followed_stepRuntime hfollowed hevent)
      (followed_of_starts hstart) hbefore
  exact hfollowed.persisted

/-- A channel nobody claimed yet. -/
def unclaimed (sessionId : String) : LiveChannel :=
  { newChannel "" sessionId "" "" 0 with
    qrPayload := none, peerState := "idle", peerDetail := "", peerCapabilities := none }

/-- The desktop finds a channel on disk. -/
def restart : PairRuntime := .restored .plain (buildRuntimeState [unclaimed "a"] 3)

/-- One change after the other, each written before the next is made. -/
def unhurried : List RuntimeEvent :=
  [.mutate (· ++ [unclaimed "b"]), .go 0 5 true, .go 0 6 true, .go 0 7 true,
    .mutate (· ++ [unclaimed "c"]), .go 1 8 true, .go 1 9 true, .go 1 9 true]

theorem channels_persisted_unhurried :
    (Steps.run stepRuntime restart unhurried).channels.map (fun channel => channel.sessionId) =
        ["a", "b", "c"] ∧
      (Steps.run stepRuntime restart unhurried).Persisted := by
  have hstart : restart.Starts .plain := .restored (by decide)
  have halong : Steps.Along stepRuntime (fun runtime event => ¬Outruns runtime event) restart
      unhurried := by
    refine ⟨not_false, ?_, ?_, ?_, not_false, ?_, ?_, ?_, trivial⟩
    all_goals rintro (⟨-, _, _, _, hwrite, hlt⟩ | ⟨hread, hrecorded, -⟩)
    · cases hwrite
    · exact absurd hrecorded (by decide)
    · cases hwrite
      exact absurd hlt (by decide)
    · cases hread
    · cases hwrite
    · cases hread
    · cases hwrite
    · exact absurd hrecorded (by decide)
    · cases hwrite
      exact absurd hlt (by decide)
    · cases hread
    · cases hwrite
    · cases hread
  exact ⟨rfl, channels_persisted hstart halong List.prefix_rfl⟩

/-- Two channels are added.  The call behind the first is overtaken by the one behind the second,
and writes last. -/
def overtakenCall : List RuntimeEvent :=
  [.mutate (· ++ [unclaimed "a"]), .go 0 5 true, .mutate (· ++ [unclaimed "b"]), .go 1 6 true,
    .go 1 7 true, .go 1 7 true, .go 0 8 true, .go 0 9 true]

/-- **A restart would lose the second channel.** -/
theorem overtaken_call_loses : ¬∀ events, (Steps.run stepRuntime .started events).Persisted := by
  intro hall
  have hrest : (Steps.run stepRuntime .started overtakenCall).calls.entries.length = 0 ∧
      (Steps.run stepRuntime .started overtakenCall).failed = false ∧
      (Steps.run stepRuntime .started overtakenCall).fileChannels.length = 1 ∧
      (Steps.run stepRuntime .started overtakenCall).channels.length = 2 := by
    decide
  obtain ⟨hcalls, hdone, hfile, hchannels⟩ := hrest
  have hsame := hall overtakenCall (List.eq_nil_of_length_eq_zero hcalls) hdone
  have hlength := congrArg List.length hsame
  rw [hfile, sanitizeChannelsForPersistence, List.length_map, hchannels] at hlength
  cases hlength

end Snapshot

end OpenClaw.Desktop

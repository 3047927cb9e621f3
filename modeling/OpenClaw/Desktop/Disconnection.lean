import OpenClaw.Desktop.LinkTasks

/-!
# Whether a disconnect is the last word

`connect` reads the flags in one critical section and sets them in the next.  A disconnect
that comes between the two is undone, and nothing stops it: the task that calls `connect`
again after a failure has no handle.  This is the only way (`disconnect_wins_iff`): a
reconnect task, a stream or a heartbeat that goes on after the disconnect finds the flags
down, and so does a `connect` that has not read them yet.
-/

namespace OpenClaw.Desktop

/-- After a disconnect the connection is neither open nor wanted. -/
def Disconnected (link : Link) : Prop :=
  link.closed = true → link.channelOpen = false ∧ link.desiredConnected = false

/-- The second critical section of a `connect` that a disconnect has overtaken. -/
def Overtaken (link : Link) : LinkEvent → Prop
  | .go id _ => ∃ fromReconnect, link.tasks.get id = some (.takeGeneration fromReconnect true)
  | _ => False

/-- Every `connect` between its critical sections is marked by whether the connection is
closed. -/
def MarkedTasks (closed : Bool) (tasks : OrderedMap ℕ LinkTask) : Prop :=
  ∀ id fromReconnect overtaken, tasks.get id = some (.takeGeneration fromReconnect overtaken) →
    overtaken = closed

def Marked (link : Link) : Prop := MarkedTasks link.closed link.tasks

section Disconnection

variable {link : Link} {id : ℕ} {ok closed : Bool} {task : LinkTask}
  {tasks : OrderedMap ℕ LinkTask}

/-! ## The marks -/

theorem MarkedTasks.set (hmarked : MarkedTasks closed tasks)
    (htask : ∀ fromReconnect overtaken, task = .takeGeneration fromReconnect overtaken →
      overtaken = closed) : MarkedTasks closed (tasks.set id task) := by
  intro other fromReconnect overtaken hget
  by_cases hother : other = id
  · rw [hother, OrderedMap.get_set_self, Option.some_inj] at hget
    exact htask fromReconnect overtaken hget
  · rw [OrderedMap.get_set_of_ne _ _ hother] at hget
    exact hmarked other fromReconnect overtaken hget

theorem MarkedTasks.erase (hmarked : MarkedTasks closed tasks) :
    MarkedTasks closed (tasks.erase id) := by
  intro other fromReconnect overtaken hget
  by_cases hother : other = id
  · rw [hother, OrderedMap.get_erase_self] at hget
    cases hget
  · rw [OrderedMap.get_erase_of_ne _ hother] at hget
    exact hmarked other fromReconnect overtaken hget

/-- Closing and opening marks anew. -/
theorem marked_setClosed : Marked (link.setClosed closed) := by
  intro id fromReconnect overtaken hget
  have hmap : (link.setClosed closed).tasks.get id =
      (link.tasks.get id).map fun task => task.overtake closed :=
    OrderedMap.get_mapValues _ _ _
  rw [hmap, Option.map_eq_some_iff] at hget
  obtain ⟨task, -, htask⟩ := hget
  cases task with
  | takeGeneration =>
      cases htask
      rfl
  | _ => cases htask

/-- A task that is not between the two critical sections. -/
def LinkTask.Elsewhere (task : LinkTask) : Prop :=
  ∀ fromReconnect overtaken, task ≠ .takeGeneration fromReconnect overtaken

theorem MarkedTasks.goOn (hmarked : MarkedTasks closed tasks) (htask : task.Elsewhere) :
    MarkedTasks closed (tasks.set id task) :=
  hmarked.set fun fromReconnect overtaken heq => absurd heq (htask fromReconnect overtaken)

/-- A task keeps the marks: whoever reads the flags after a disconnect does not go on. -/
theorem marked_advance (hmarked : Marked link) (hdisconnected : Disconnected link)
    (task : LinkTask) : Marked (advance link id ok task) := by
  cases task with
  | readFlags fromReconnect =>
      show Marked (readFlags link id fromReconnect)
      unfold readFlags
      split
      · exact hmarked.erase
      split
      · exact hmarked.erase
      next hopen hdesired =>
        refine MarkedTasks.set hmarked fun _ overtaken heq => ?_
        cases heq
        by_contra hclosed
        have hdown := hdisconnected ((Bool.not_eq_false _).mp fun h => hclosed h.symm)
        cases fromReconnect with
        | false => exact hopen ⟨hdown.1, rfl⟩
        | true => exact hdesired ⟨hdown.2, rfl⟩
  | cancelReconnect => exact MarkedTasks.goOn hmarked nofun
  | takeGeneration fromReconnect overtaken => exact MarkedTasks.goOn hmarked nofun
  | announce generation =>
      show Marked (if ok then startTasks link id generation
        else link.goOn id (.failure generation))
      split
      · have hstream :
            MarkedTasks link.closed (link.tasks.set link.nextTask (.stream generation)) :=
          MarkedTasks.goOn hmarked nofun
        have hheartbeat : MarkedTasks link.closed ((link.tasks.set link.nextTask
            (.stream generation)).set (link.nextTask + 1) (.heartbeat generation)) :=
          hstream.goOn nofun
        exact hheartbeat.goOn nofun
      · exact MarkedTasks.goOn hmarked nofun
  | keepHandles generation sseTask heartbeatTask =>
      show Marked (keepHandles link id generation sseTask heartbeatTask)
      unfold keepHandles
      split
      · exact hmarked.erase
      · exact hmarked.erase
  | stream generation =>
      show Marked (if ok then link.finish id else link.goOn id (.failure generation))
      split
      · exact hmarked.erase
      · exact MarkedTasks.goOn hmarked nofun
  | heartbeat generation =>
      show Marked (if link.wanted generation then link.goOn id (.beat generation)
        else link.finish id)
      split
      · exact MarkedTasks.goOn hmarked nofun
      · exact hmarked.erase
  | beat generation =>
      refine MarkedTasks.goOn hmarked ?_
      split
      · exact nofun
      · exact nofun
  | failure generation =>
      show Marked (if link.wanted generation then link.goOn id (.schedule generation)
        else link.finish id)
      split
      · exact MarkedTasks.goOn hmarked nofun
      · exact hmarked.erase
  | schedule generation => exact MarkedTasks.goOn hmarked nofun
  | spawnReconnect generation =>
      have hspawned : MarkedTasks link.closed
          (link.tasks.set link.nextTask (.reconnect generation link.app)) :=
        MarkedTasks.goOn hmarked nofun
      exact hspawned.goOn nofun
  | keepReconnect reconnectTask => exact hmarked.erase
  | reconnect generation app =>
      show Marked (if app ∧ link.wanted generation then (link.finish id).spawn (.readFlags true)
        else link.finish id)
      split
      · have hfinished : MarkedTasks link.closed (link.tasks.erase id) := hmarked.erase
        exact hfinished.goOn nofun
      · exact hmarked.erase

theorem marked_linkStep {event : LinkEvent} (hmarked : Marked link)
    (hdisconnected : Disconnected link) : Marked (linkStep link event) := by
  cases event with
  | setApp => exact hmarked
  | setChannelOpen => exact @marked_setClosed link false
  | connect =>
      have hopened : MarkedTasks false (link.setClosed false).tasks := @marked_setClosed link false
      exact hopened.goOn nofun
  | reload shouldConnect => exact @marked_setClosed link (link.closed && !shouldConnect)
  | disconnect =>
      exact @marked_setClosed (((link.abort link.sseTask).abort link.heartbeatTask).abort
        link.reconnectTask) true
  | go id ok =>
      rw [linkStep]
      split
      · exact marked_advance hmarked hdisconnected _
      · exact hmarked
  | cancel id =>
      rw [linkStep]
      split
      · exact hmarked.erase
      · exact hmarked

/-! ## The flags -/

structure SameFlags (link after : Link) : Prop where
  channelOpen : after.channelOpen = link.channelOpen
  desiredConnected : after.desiredConnected = link.desiredConnected
  closed : after.closed = link.closed

theorem SameFlags.ite {condition : Prop} [Decidable condition] {yes no : Link}
    (hyes : SameFlags link yes) (hno : SameFlags link no) :
    SameFlags link (if condition then yes else no) := by
  split
  · exact hyes
  · exact hno

/-- A task outside the second critical section of `connect` leaves the flags alone. -/
theorem sameFlags_advance (htask : task.Elsewhere) : SameFlags link (advance link id ok task) := by
  cases task with
  | takeGeneration fromReconnect overtaken => exact absurd rfl (htask fromReconnect overtaken)
  | cancelReconnect => exact ⟨rfl, rfl, rfl⟩
  | readFlags fromReconnect =>
      exact SameFlags.ite ⟨rfl, rfl, rfl⟩ (SameFlags.ite ⟨rfl, rfl, rfl⟩ ⟨rfl, rfl, rfl⟩)
  | announce generation => exact SameFlags.ite ⟨rfl, rfl, rfl⟩ ⟨rfl, rfl, rfl⟩
  | keepHandles generation sseTask heartbeatTask =>
      exact SameFlags.ite ⟨rfl, rfl, rfl⟩ ⟨rfl, rfl, rfl⟩
  | stream generation => exact SameFlags.ite ⟨rfl, rfl, rfl⟩ ⟨rfl, rfl, rfl⟩
  | heartbeat generation => exact SameFlags.ite ⟨rfl, rfl, rfl⟩ ⟨rfl, rfl, rfl⟩
  | beat generation => exact ⟨rfl, rfl, rfl⟩
  | failure generation => exact SameFlags.ite ⟨rfl, rfl, rfl⟩ ⟨rfl, rfl, rfl⟩
  | schedule generation => exact ⟨rfl, rfl, rfl⟩
  | spawnReconnect generation => exact ⟨rfl, rfl, rfl⟩
  | keepReconnect reconnectTask => exact ⟨rfl, rfl, rfl⟩
  | reconnect generation app => exact SameFlags.ite ⟨rfl, rfl, rfl⟩ ⟨rfl, rfl, rfl⟩

/-- **One step**: the flags stay down exactly if no overtaken `connect` goes on. -/
theorem disconnected_linkStep_iff {event : LinkEvent} (hmarked : Marked link)
    (hdisconnected : Disconnected link) :
    Disconnected (linkStep link event) ↔ ¬Overtaken link event := by
  cases event with
  | setApp => exact iff_of_true hdisconnected not_false
  | setChannelOpen => exact iff_of_true (fun hclosed => by cases hclosed) not_false
  | connect => exact iff_of_true (fun hclosed => by cases hclosed) not_false
  | reload shouldConnect =>
      refine iff_of_true (fun hclosed => ?_) not_false
      cases shouldConnect with
      | false => exact ⟨rfl, rfl⟩
      | true =>
          have hopened : (link.closed && !true) = true := hclosed
          rw [Bool.not_true, Bool.and_false] at hopened
          cases hopened
  | disconnect => exact iff_of_true (fun _ => ⟨rfl, rfl⟩) not_false
  | cancel id =>
      refine iff_of_true ?_ not_false
      rw [linkStep]
      split
      · exact hdisconnected
      · exact hdisconnected
  | go id ok =>
      cases hget : link.tasks.get id with
      | none =>
          rw [linkStep, hget]
          refine iff_of_true hdisconnected ?_
          rintro ⟨fromReconnect, hsome⟩
          rw [hget] at hsome
          cases hsome
      | some task =>
          rw [linkStep, hget]
          dsimp only
          by_cases helsewhere : task.Elsewhere
          · obtain ⟨hopen, hdesired, hclosed⟩ := @sameFlags_advance link id ok task helsewhere
            refine iff_of_true ?_ ?_
            · unfold Disconnected
              rw [hopen, hdesired, hclosed]
              exact hdisconnected
            · rintro ⟨fromReconnect, hsome⟩
              rw [hget, Option.some_inj] at hsome
              exact helsewhere fromReconnect true hsome
          · cases task with
            | takeGeneration fromReconnect overtaken =>
                -- the flags go up, so the connection must not be closed
                have hmark : overtaken = link.closed := hmarked id fromReconnect overtaken hget
                have hflags : Disconnected (takeGeneration link id) ↔ link.closed ≠ true :=
                  ⟨fun hafter hclosed => Bool.noConfusion (hafter hclosed).1,
                    fun hopened hclosed => absurd hclosed hopened⟩
                refine hflags.trans (not_congr ?_)
                rw [← hmark]
                constructor
                · rintro rfl
                  exact ⟨fromReconnect, hget⟩
                · rintro ⟨other, hsome⟩
                  rw [hget, Option.some_inj] at hsome
                  cases hsome
                  rfl
            | _ =>
                refine absurd ?_ helsewhere
                intro other overtaken htask
                cases htask

/-! ## Runs -/

/-- **A disconnect wins exactly if no `connect` goes on that it came in between.** -/
theorem disconnect_wins_iff (events : List LinkEvent) :
    (∀ reached, reached <+: events → Disconnected (Steps.run linkStep .initial reached)) ↔
      Steps.Along linkStep (fun link event => ¬Overtaken link event) .initial events := by
  have hkept : ∀ (link : Link) (event : LinkEvent), Marked link → Disconnected link → True →
      Marked (linkStep link event) := fun _ _ hmarked hdisconnected _ =>
    marked_linkStep hmarked hdisconnected
  have hstep : ∀ (link : Link) (event : LinkEvent), Marked link → Disconnected link → True →
      (Disconnected (linkStep link event) ↔ ¬Overtaken link event) :=
    fun _ _ hmarked hdisconnected _ => disconnected_linkStep_iff hmarked hdisconnected
  have hstart : Marked .initial := fun id fromReconnect overtaken hget => by cases hget
  have hclosed : Disconnected .initial := fun hclosed => by cases hclosed
  have hfree : Steps.Along linkStep (fun _ _ => True) .initial events :=
    Steps.along_of_forall fun _ _ _ => trivial
  exact Steps.forall_prefix_iff_along_of_kept hkept hstep hstart hclosed hfree

end Disconnection

/-- The user opens the connection; the server cannot be reached, and the reconnect task calls
`connect`, which reads the flags.  Then the user disconnects, and the call goes on. -/
def overtakenReconnect : List LinkEvent :=
  [.setApp, .setChannelOpen, .connect, .go 0 true, .go 0 true, .go 0 true, .go 0 false,
    .go 0 true, .go 0 true, .go 0 true, .go 0 true, .go 1 true, .go 2 true, .disconnect,
    .go 2 true]

/-- **A reconnect undoes the disconnect.** -/
theorem not_disconnected : ¬∀ events, Disconnected (Steps.run linkStep .initial events) := by
  intro hall
  have hopen : (Steps.run linkStep .initial overtakenReconnect).closed = true ∧
      (Steps.run linkStep .initial overtakenReconnect).channelOpen = true := by
    decide
  have hdown := (hall overtakenReconnect hopen.1).1
  rw [hopen.2] at hdown
  cases hdown

end OpenClaw.Desktop

import OpenClaw.Lib.Steps
import OpenClaw.Runtime.Object

/-!
# The acknowledgement tracker

`AckTracker` keeps one entry per message id: the functions that settle the promise of a
`waitAck`, and its timer.  A wait is known by its number, the entry by the number of its
wait.  The callback of a timer knows the message id and its own promise, but not whether
the entry it removes is its own.
-/

namespace OpenClaw.Peer

open OpenClaw.Runtime

/-- The promise that `waitAck` returned. -/
inductive AckOutcome
  | waiting
  | resolved (payload : Json)
  | rejected (message : String)

structure AckWait where
  messageId : String
  outcome : AckOutcome

/-- A promise is settled once. -/
def AckWait.settle (outcome : AckOutcome) (wait : AckWait) : AckWait :=
  match wait.outcome with
  | .waiting => { wait with outcome }
  | _ => wait

structure AckTracker where
  /-- The wait of the entry under a message id. -/
  pending : OrderedMap String ℕ
  /-- The timers that are armed, by the number of their wait, with the message id that the
  callback captured. -/
  timers : OrderedMap ℕ String
  waits : List AckWait

/-- `new AckTracker()`. -/
def AckTracker.start : AckTracker := ⟨∅, ∅, []⟩

namespace AckTracker

variable (tracker : AckTracker)

def waitAck (messageId : String) : AckTracker where
  pending := tracker.pending.set messageId tracker.waits.length
  timers := tracker.timers.set tracker.waits.length messageId
  waits := tracker.waits ++ [⟨messageId, .waiting⟩]

/-- The entry is deleted, the timer is gone and the promise of the wait is settled. -/
def finish (messageId : String) (number : ℕ) (outcome : AckOutcome) : AckTracker where
  pending := tracker.pending.erase messageId
  timers := tracker.timers.erase number
  waits := tracker.waits.modify number (AckWait.settle outcome)

/-- The callback of a timer. -/
def fire (number : ℕ) : AckTracker :=
  match tracker.timers.get number with
  | some messageId =>
      tracker.finish messageId number (.rejected ("ACK timeout for message " ++ messageId))
  | none => tracker

def ack (messageId : String) (payload : Json) : Bool × AckTracker :=
  match tracker.pending.get messageId with
  | some number => (true, tracker.finish messageId number (.resolved payload))
  | none => (false, tracker)

/-- One turn of the loop of `clearAll`. -/
def clearEntry (reason : String) (tracker : AckTracker) (entry : String × ℕ) : AckTracker :=
  tracker.finish entry.1 entry.2 (.rejected (reason ++ ": " ++ entry.1))

def clearAll (reason : String) : AckTracker :=
  tracker.pending.entries.foldl (clearEntry reason) tracker

end AckTracker

inductive AckEvent
  | waitAck (messageId : String)
  | fire (number : ℕ)
  | ack (messageId : String) (payload : Json)
  | clearAll (reason : String)

def stepAcks (tracker : AckTracker) : AckEvent → AckTracker
  | .waitAck messageId => tracker.waitAck messageId
  | .fire number => tracker.fire number
  | .ack messageId payload => (tracker.ack messageId payload).2
  | .clearAll reason => tracker.clearAll reason

/-! ## Whose entry it is -/

/-- What may remove the entry of a wait. -/
def AckEvent.Ends (messageId : String) (number : ℕ) : AckEvent → Prop
  | .waitAck _ => False
  | .fire other => other = number
  | .ack other _ => other = messageId
  | .clearAll _ => True

/-- What a step keeps: an entry is removed by what may remove it only, and an ack resolves
every wait for its message id whose time is not up. -/
structure Belongs (tracker : AckTracker) (event : AckEvent) : Prop where
  entries : ∀ messageId number, tracker.pending.get messageId = some number →
    (stepAcks tracker event).pending.get messageId = some number ∨ event.Ends messageId number
  resolves : ∀ (messageId : String) (payload : Json) (number : ℕ), event = .ack messageId payload →
    tracker.waits[number]? = some (AckWait.mk messageId .waiting) →
      (stepAcks tracker event).waits[number]? = some (AckWait.mk messageId (.resolved payload))

/-- No wait begins while there is an entry for its message id. -/
def Alone (tracker : AckTracker) : AckEvent → Prop
  | .waitAck messageId => tracker.pending.get messageId = none
  | _ => True

/-! ## What holds in every run -/

/-- A wait is open as long as its timer is armed, and an entry belongs to an open wait. -/
structure Armed (tracker : AckTracker) : Prop where
  timer_iff : ∀ number messageId, tracker.timers.get number = some messageId ↔
    tracker.waits[number]? = some (AckWait.mk messageId .waiting)
  entry : ∀ messageId number, tracker.pending.get messageId = some number →
    tracker.timers.get number = some messageId

/-- Every open wait has its entry, too. -/
structure Held (tracker : AckTracker) : Prop extends Armed tracker where
  own : ∀ number messageId, tracker.timers.get number = some messageId →
    tracker.pending.get messageId = some number

section Steps

variable {tracker : AckTracker}

theorem armed_start : Armed .start where
  timer_iff := by
    intro number messageId
    constructor
    · intro hget
      cases hget
    · intro hget
      cases hget
  entry := by
    intro messageId number hget
    cases hget

theorem Armed.lt_length (harmed : Armed tracker) {number : ℕ} {messageId : String}
    (htimer : tracker.timers.get number = some messageId) : number < tracker.waits.length :=
  (List.getElem?_eq_some_iff.mp ((harmed.timer_iff number messageId).mp htimer)).1

theorem Armed.waitAck (harmed : Armed tracker) (messageId : String) :
    Armed (tracker.waitAck messageId) where
  timer_iff := by
    intro number other
    show (tracker.timers.set tracker.waits.length messageId).get number = some other ↔
      (tracker.waits ++ [AckWait.mk messageId .waiting])[number]? = some (AckWait.mk other .waiting)
    by_cases hlast : number = tracker.waits.length
    · rw [hlast, OrderedMap.get_set_self, List.getElem?_concat_length]
      simp
    · rw [OrderedMap.get_set_of_ne _ _ hlast, harmed.timer_iff]
      by_cases hlt : number < tracker.waits.length
      · rw [List.getElem?_append_left hlt]
      · have hout : (tracker.waits ++ [AckWait.mk messageId .waiting]).length ≤ number := by
          rw [List.length_append, List.length_singleton]
          omega
        rw [List.getElem?_eq_none hout, List.getElem?_eq_none (not_lt.mp hlt)]
  entry := by
    intro other number hentry
    show (tracker.timers.set tracker.waits.length messageId).get number = some other
    rcases OrderedMap.of_get_set hentry with ⟨hid, hnumber⟩ | ⟨-, hold⟩
    · rw [hid, hnumber, OrderedMap.get_set_self]
    · have htimer := harmed.entry other number hold
      have hlt := harmed.lt_length htimer
      rw [OrderedMap.get_set_of_ne _ _ (by omega), htimer]

/-- What `finish` does to the waits. -/
theorem waits_finish (messageId : String) {number : ℕ} (outcome : AckOutcome)
    (hopen : tracker.waits[number]? = some (AckWait.mk messageId .waiting)) :
    (tracker.finish messageId number outcome).waits[number]? =
      some (AckWait.mk messageId outcome) := by
  show (tracker.waits.modify number (AckWait.settle outcome))[number]? = _
  rw [List.getElem?_modify, hopen]
  show some (if number = number then AckWait.mk messageId outcome else _) = _
  rw [if_pos rfl]

theorem waits_finish_of_ne (messageId : String) {number other : ℕ} (outcome : AckOutcome)
    (hne : other ≠ number) :
    (tracker.finish messageId number outcome).waits[other]? = tracker.waits[other]? := by
  show (tracker.waits.modify number (AckWait.settle outcome))[other]? = _
  rw [List.getElem?_modify]
  simp only [Ne.symm hne, if_false]
  exact Option.map_id'

theorem Armed.finish (harmed : Armed tracker) {messageId : String} {number : ℕ}
    (htimer : tracker.timers.get number = some messageId) {outcome : AckOutcome}
    (houtcome : outcome ≠ .waiting) : Armed (tracker.finish messageId number outcome) where
  timer_iff := by
    intro other otherId
    show (tracker.timers.erase number).get other = some otherId ↔ _
    by_cases hsame : other = number
    · have hopen := (harmed.timer_iff number messageId).mp htimer
      rw [hsame, OrderedMap.get_erase_self, waits_finish messageId outcome hopen]
      constructor
      · intro hnone
        cases hnone
      · intro hwaiting
        exact absurd (AckWait.mk.inj (Option.some.inj hwaiting)).2 houtcome
    · rw [OrderedMap.get_erase_of_ne _ hsame, waits_finish_of_ne messageId outcome hsame]
      exact harmed.timer_iff other otherId
  entry := by
    intro otherId other hentry
    show (tracker.timers.erase number).get other = some otherId
    obtain ⟨hne, hold⟩ := OrderedMap.of_get_erase hentry
    have hother := harmed.entry otherId other hold
    rw [OrderedMap.get_erase_of_ne, hother]
    intro hsame
    rw [hsame, htimer] at hother
    exact hne (Option.some.inj hother).symm

/-- A wait with its entry is finished; the others keep theirs. -/
theorem Held.finish (hheld : Held tracker) {messageId : String} {number : ℕ}
    (htimer : tracker.timers.get number = some messageId) {outcome : AckOutcome}
    (houtcome : outcome ≠ .waiting) : Held (tracker.finish messageId number outcome) := by
  refine ⟨hheld.toArmed.finish htimer houtcome, ?_⟩
  intro other otherId hother
  show (tracker.pending.erase messageId).get otherId = some other
  obtain ⟨hne, hold⟩ := OrderedMap.of_get_erase hother
  have hentry := hheld.own other otherId hold
  rw [OrderedMap.get_erase_of_ne, hentry]
  intro hsame
  have hown := hheld.own number messageId htimer
  rw [← hsame, hentry] at hown
  exact hne (Option.some.inj hown)

/-- Entries of the map are cleared one after the other. -/
theorem clear_preserves {inv : AckTracker → Prop} (reason : String)
    (hfinish : ∀ tracker messageId number, inv tracker →
      tracker.pending.get messageId = some number →
        inv (AckTracker.clearEntry reason tracker (messageId, number)))
    {entries : List (String × ℕ)} (hnodup : (entries.map Prod.fst).Nodup) (hinv : inv tracker)
    (hentries : ∀ entry ∈ entries, tracker.pending.get entry.1 = some entry.2) :
    inv (entries.foldl (AckTracker.clearEntry reason) tracker) := by
  induction entries generalizing tracker with
  | nil => exact hinv
  | cons entry rest ih =>
      rw [List.map_cons, List.nodup_cons] at hnodup
      rw [List.forall_mem_cons] at hentries
      apply ih hnodup.2 (hfinish tracker entry.1 entry.2 hinv hentries.1)
      intro other hother
      show (tracker.pending.erase entry.1).get other.1 = some other.2
      rw [OrderedMap.get_erase_of_ne, hentries.2 other hother]
      intro hsame
      rw [← hsame] at hnodup
      exact hnodup.1 (List.mem_map_of_mem hother)

/-- What every finished wait keeps, every step but the beginning of a wait keeps. -/
theorem finish_rule {inv : AckTracker → Prop}
    (harmed : ∀ tracker, inv tracker → Armed tracker)
    (hfinish : ∀ tracker messageId number outcome, inv tracker → outcome ≠ .waiting →
      tracker.timers.get number = some messageId → inv (tracker.finish messageId number outcome))
    (hinv : inv tracker) {event : AckEvent}
    (hwait : ∀ messageId, event = .waitAck messageId → inv (tracker.waitAck messageId)) :
    inv (stepAcks tracker event) := by
  cases event with
  | waitAck messageId => exact hwait messageId rfl
  | fire number =>
      show inv (tracker.fire number)
      unfold AckTracker.fire
      split
      · next htimer => exact hfinish _ _ _ _ hinv AckOutcome.noConfusion htimer
      · exact hinv
  | ack messageId payload =>
      show inv (tracker.ack messageId payload).2
      unfold AckTracker.ack
      split
      · next hentry =>
          exact hfinish _ _ _ _ hinv AckOutcome.noConfusion ((harmed _ hinv).entry _ _ hentry)
      · exact hinv
  | clearAll reason =>
      apply clear_preserves reason _ tracker.pending.nodup_keys hinv
      · exact fun entry hentry => OrderedMap.get_eq_some_iff.mpr hentry
      · intro tracker messageId number hinv hentry
        exact hfinish _ _ _ _ hinv AckOutcome.noConfusion ((harmed _ hinv).entry _ _ hentry)

theorem armed_step (harmed : Armed tracker) (event : AckEvent) :
    Armed (stepAcks tracker event) := by
  apply finish_rule (fun _ harmed => harmed) _ harmed fun messageId _ => harmed.waitAck messageId
  intro tracker messageId number outcome harmed houtcome htimer
  exact harmed.finish htimer houtcome

/-- A wait that nothing has settled still has its timer, so it comes to an end. -/
theorem armed_run (events : List AckEvent) : Armed (Steps.run stepAcks .start events) := by
  have hstep : ∀ tracker event, Armed tracker → Armed (stepAcks tracker event) :=
    fun _ event harmed => armed_step harmed event
  exact Steps.run_preserves_of_step hstep events armed_start

/-! ## One wait at a time -/

theorem Held.waitAck (hheld : Held tracker) {messageId : String}
    (halone : tracker.pending.get messageId = none) : Held (tracker.waitAck messageId) := by
  refine ⟨hheld.toArmed.waitAck messageId, ?_⟩
  intro number other htimer
  show (tracker.pending.set messageId tracker.waits.length).get other = some number
  rcases OrderedMap.of_get_set htimer with ⟨hnumber, hid⟩ | ⟨-, hold⟩
  · rw [hid, hnumber, OrderedMap.get_set_self]
  · have hentry := hheld.own number other hold
    rw [OrderedMap.get_set_of_ne, hentry]
    rintro rfl
    rw [halone] at hentry
    cases hentry

theorem held_step (hheld : Held tracker) {event : AckEvent} (halone : Alone tracker event) :
    Held (stepAcks tracker event) := by
  apply finish_rule (fun _ hheld => hheld.toArmed) _ hheld
  · rintro messageId rfl
    exact hheld.waitAck halone
  · intro tracker messageId number outcome hheld houtcome htimer
    exact hheld.finish htimer houtcome

/-- An entry outlives what is done to another message id. -/
theorem get_finish_of_ne {messageId other : String} {number : ℕ} {outcome : AckOutcome}
    (hne : other ≠ messageId) :
    (tracker.finish messageId number outcome).pending.get other = tracker.pending.get other :=
  OrderedMap.get_erase_of_ne _ hne

/-- A wait for a message id that has an entry takes the place of the other wait. -/
theorem not_belongs_waitAck (harmed : Armed tracker) {messageId : String} {number : ℕ}
    (hentry : tracker.pending.get messageId = some number) :
    ¬Belongs tracker (.waitAck messageId) := by
  intro hbelongs
  have hlt := harmed.lt_length (harmed.entry messageId number hentry)
  rcases hbelongs.entries messageId number hentry with hkept | hends
  · have hnew : (stepAcks tracker (.waitAck messageId)).pending.get messageId =
        some tracker.waits.length := OrderedMap.get_set_self _ _ _
    rw [hnew] at hkept
    have hsame : tracker.waits.length = number := Option.some.inj hkept
    omega
  · exact hends

theorem belongs_of_alone (hheld : Held tracker) {event : AckEvent}
    (halone : Alone tracker event) : Belongs tracker event where
  entries := by
    intro messageId number hentry
    cases event with
    | waitAck other =>
        left
        show (tracker.pending.set other tracker.waits.length).get messageId = some number
        rw [OrderedMap.get_set_of_ne, hentry]
        rintro rfl
        have hnone : tracker.pending.get messageId = none := halone
        rw [hnone] at hentry
        cases hentry
    | fire other =>
        show (tracker.fire other).pending.get messageId = some number ∨ other = number
        unfold AckTracker.fire
        split
        · next otherId htimer =>
            by_cases hsame : messageId = otherId
            · right
              have hown := hheld.own other otherId htimer
              rw [← hsame, hentry] at hown
              exact (Option.some.inj hown).symm
            · left
              rw [get_finish_of_ne hsame, hentry]
        · exact .inl hentry
    | ack other payload =>
        show (tracker.ack other payload).2.pending.get messageId = some number ∨
          other = messageId
        by_cases hsame : other = messageId
        · exact .inr hsame
        · left
          unfold AckTracker.ack
          split
          · rw [get_finish_of_ne (Ne.symm hsame), hentry]
          · exact hentry
    | clearAll reason => exact .inr trivial
  resolves := by
    rintro messageId payload number rfl hopen
    have hentry := hheld.own number messageId ((hheld.timer_iff number messageId).mpr hopen)
    show (tracker.ack messageId payload).2.waits[number]? =
      some (AckWait.mk messageId (.resolved payload))
    unfold AckTracker.ack
    rw [hentry]
    exact waits_finish messageId (.resolved payload) hopen

theorem belongs_iff (hheld : Held tracker) (event : AckEvent) :
    Belongs tracker event ↔ Alone tracker event := by
  constructor
  · intro hbelongs
    cases event with
    | waitAck messageId =>
        show tracker.pending.get messageId = none
        cases hentry : tracker.pending.get messageId with
        | none => rfl
        | some number => exact absurd hbelongs (not_belongs_waitAck hheld.toArmed hentry)
    | fire number => trivial
    | ack messageId payload => trivial
    | clearAll reason => trivial
  · exact belongs_of_alone hheld

end Steps

/-- **Entries belong to their waiter**, in every step of a run, exactly if no wait of the
run begins while there is an entry for its message id. -/
theorem belongs_along_iff (events : List AckEvent) :
    Steps.Along stepAcks Belongs .start events ↔ Steps.Along stepAcks Alone .start events := by
  have hstart : Held .start := by
    refine ⟨armed_start, ?_⟩
    intro number messageId hget
    cases hget
  have hstep : ∀ tracker event, Held tracker → Alone tracker event →
      Held (stepAcks tracker event) := fun _ _ hheld halone => held_step hheld halone
  exact Steps.along_iff_along_of_kept hstep (fun _ event hheld => belongs_iff hheld event) hstart

/-- The message is sent again while its first wait is open: the timer of the first wait
removes the entry of the second, and the ack that comes then resolves nothing. -/
theorem earlier_timer_removes_later_wait : ¬∀ events : List AckEvent,
    Steps.Along stepAcks Belongs .start events := by
  intro hall
  have hbelongs := hall [.waitAck "m1", .waitAck "m1", .fire 0, .ack "m1" .null]
  have hfire := hbelongs.2.2.1
  rcases hfire.entries "m1" 1 rfl with hkept | hends
  · cases hkept
  · exact absurd (show (0 : ℕ) = 1 from hends) (by decide)

end OpenClaw.Peer

import OpenClaw.Desktop.Inbox
import OpenClaw.Lib.Steps

/-!
# Requests to the agent's gateway

`request_openclaw_gateway` puts the sender of a oneshot channel into
`gateway_pending_requests`, under a random id, sends the request and waits.  The entry is
taken out by the response, by whoever closes the connection, or by the call itself when
sending fails or the time is up.  Every critical section and every use of a channel is an
event of its own, and a call is known by its number.

There is one way out that leaves the entry: the call finds no writer after it has put its
sender into the map.
-/

namespace OpenClaw.Desktop

open OpenClaw.Runtime

def valueOrDash (value : String) : String :=
  if unicodeTrim value = "" then "-" else unicodeTrim value

/-! ## The state -/

/-- How far a call of `request_openclaw_gateway` is. -/
inductive RequestPhase
  /-- In front of the writer's queue. -/
  | sending
  /-- The queue was closed; in front of the removal. -/
  | refused
  | waiting
  /-- The time is up; in front of the removal. -/
  | expired
  | returned (result : Except String Json)

structure GatewayCall where
  requestId : String
  method : String
  phase : RequestPhase
  /-- What is in the oneshot channel. -/
  answer : Option (Except String Json)

structure GatewayRequests where
  /-- `gateway_writer_tx` is there. -/
  writer : Bool
  generation : ℕ
  /-- The sender under a request id, by the number of its call. -/
  pending : OrderedMap String ℕ
  calls : List GatewayCall
  /-- Senders that were taken out of the map, and what they are about to send. -/
  answering : List (ℕ × Except String Json)
  /-- What was sent, and to which call. -/
  answers : List (ℕ × Except String Json)

def GatewayRequests.start : GatewayRequests := ⟨false, 0, ∅, [], [], []⟩

/-- The call has come back to its caller. -/
def GatewayCall.Returned (call : GatewayCall) : Prop := ∃ result, call.phase = .returned result

/-! ## The steps -/

namespace GatewayRequests

variable (requests : GatewayRequests)

def setPhase (number : ℕ) (phase : RequestPhase) : GatewayRequests :=
  { requests with calls := requests.calls.modify number fun call => { call with phase } }

/-- The critical section in front of the request. -/
def register (requestId method : String) : GatewayRequests :=
  let phase : RequestPhase :=
    if requests.writer then .sending else .returned (.error "OpenClaw gateway 未连接")
  { requests with
    pending := requests.pending.set requestId requests.calls.length
    calls := requests.calls ++ [⟨requestId, method, phase, none⟩] }

/-- The request goes to the writer's queue. -/
def send (number : ℕ) (ok : Bool) : GatewayRequests :=
  match requests.calls[number]?.map GatewayCall.phase with
  | some .sending => requests.setPhase number (if ok then .waiting else .refused)
  | _ => requests

/-- `timeout` gives up the receiver. -/
def expire (number : ℕ) : GatewayRequests :=
  match requests.calls[number]?.map GatewayCall.phase with
  | some .waiting => requests.setPhase number .expired
  | _ => requests

/-- The removal by the call itself. -/
def giveUp (number : ℕ) : GatewayRequests :=
  match requests.calls[number]? with
  | some call =>
      match call.phase with
      | .refused =>
          { requests.setPhase number (.returned (.error "OpenClaw gateway 发送队列不可用")) with
            pending := requests.pending.erase call.requestId }
      | .expired =>
          { requests.setPhase number
              (.returned (.error ("OpenClaw gateway 请求超时: " ++ call.method))) with
            pending := requests.pending.erase call.requestId }
      | _ => requests
  | none => requests

/-- What a response frame says. -/
def frameResult (frame : Json) : Except String Json :=
  match frame.field "ok" with
  | some (.bool true) => .ok ((frame.field "payload").getD .null)
  | _ =>
      .error ((((frame.field "error").bind fun error => error.field "message").bind asStr).getD
        "gateway request failed")

/-- The response branch of `handle_openclaw_gateway_frame`, up to the removal. -/
def respond (frame : Json) : GatewayRequests :=
  let requestId := readJsonString frame ["id"]
  if requestId = "" then requests
  else
    match requests.pending.get requestId with
    | some number =>
        { requests with
          pending := requests.pending.erase requestId
          answering := requests.answering ++ [(number, frameResult frame)] }
    | none => requests

/-- The map is emptied, and every sender in it will be used. -/
def takeAll (result : Except String Json) : GatewayRequests :=
  { requests with
    writer := false
    pending := ∅
    answering := requests.answering ++ requests.pending.values.map fun number =>
      (number, result) }

def disconnect (reason : String) : GatewayRequests :=
  { requests.takeAll (.error ("openclaw gateway disconnected: " ++ valueOrDash reason)) with
    generation := requests.generation + 1 }

def markClosed (generation : ℕ) (detail : String) : GatewayRequests :=
  if requests.generation = generation then
    requests.takeAll (.error ("openclaw gateway closed: " ++ valueOrDash detail))
  else requests

/-- A sender that was taken out of the map is used. -/
def deliver (index : ℕ) : GatewayRequests :=
  match requests.answering[index]? with
  | some (number, result) =>
      { requests with
        answering := requests.answering.eraseIdx index
        answers := (number, result) :: requests.answers
        calls := requests.calls.modify number fun call => { call with answer := some result } }
  | none => requests

/-- The sender of the call is not around any more. -/
def Dropped (number : ℕ) : Prop :=
  number ∉ requests.pending.values ∧ number ∉ requests.answering.map Prod.fst

instance (number : ℕ) : Decidable (requests.Dropped number) :=
  inferInstanceAs (Decidable (_ ∧ _))

/-- The receiver has something, or notices that nothing will come. -/
def receive (number : ℕ) : GatewayRequests :=
  match requests.calls[number]? with
  | some call =>
      match call.phase, call.answer with
      | .waiting, some result => requests.setPhase number (.returned result)
      | .waiting, none =>
          if requests.Dropped number then
            requests.setPhase number (.returned (.error "OpenClaw gateway 请求被中断"))
          else requests
      | _, _ => requests
  | none => requests

end GatewayRequests

inductive RequestEvent
  /-- `ensure_openclaw_gateway_ready` starts a new connection. -/
  | connecting
  | connected (generation : ℕ)
  | register (requestId method : String)
  | send (number : ℕ) (ok : Bool)
  | expire (number : ℕ)
  | giveUp (number : ℕ)
  | respond (frame : Json)
  | disconnect (reason : String)
  | markClosed (generation : ℕ) (detail : String)
  | deliver (index : ℕ)
  | receive (number : ℕ)

def stepRequests (requests : GatewayRequests) : RequestEvent → GatewayRequests
  | .connecting => { requests with generation := requests.generation + 1 }
  | .connected generation =>
      if requests.generation = generation then { requests with writer := true } else requests
  | .register requestId method => requests.register requestId method
  | .send number ok => requests.send number ok
  | .expire number => requests.expire number
  | .giveUp number => requests.giveUp number
  | .respond frame => requests.respond frame
  | .disconnect reason => requests.disconnect reason
  | .markClosed generation detail => requests.markClosed generation detail
  | .deliver index => requests.deliver index
  | .receive number => requests.receive number

/-! ## What is wanted -/

/-- No call that came back has its id in the map, and no call is answered twice. -/
structure NoResidue (requests : GatewayRequests) : Prop where
  cleared : ∀ call ∈ requests.calls, call.Returned → requests.pending.get call.requestId = none
  once : (requests.answers.map Prod.fst).Nodup

/-- The id of a new request is not one of an earlier one. -/
def NewRequestId (requests : GatewayRequests) : RequestEvent → Prop
  | .register requestId _ => ∀ call ∈ requests.calls, call.requestId ≠ requestId
  | _ => True

/-- A call that has registered finds the writer. -/
def FindsWriter (requests : GatewayRequests) : RequestEvent → Prop
  | .register _ _ => requests.writer = true
  | _ => True

/-! ## Every sender is somewhere -/

namespace GatewayRequests

def requestIds (requests : GatewayRequests) : List String :=
  requests.calls.map GatewayCall.requestId

/-- The calls whose sender was taken out of the map. -/
def taken (requests : GatewayRequests) : List ℕ :=
  requests.answering.map Prod.fst ++ requests.answers.map Prod.fst

/-- Under an id is the sender of its call, and no sender is in two places. -/
structure Accounted (requests : GatewayRequests) : Prop where
  distinct : requests.requestIds.Nodup
  pending : ∀ requestId number, requests.pending.get requestId = some number →
    requests.requestIds[number]? = some requestId
  free : ∀ number ∈ requests.taken, number ∉ requests.pending.values
  known : ∀ number ∈ requests.taken, number < requests.requestIds.length
  once : requests.taken.Nodup
  answered : ∀ (number : ℕ) call, requests.calls[number]? = some call → call.answer ≠ none →
    number ∈ requests.taken

section Steps

variable {requests : GatewayRequests}

theorem accounted_start : Accounted .start where
  distinct := List.nodup_nil
  pending _ _ hget := nomatch hget
  free _ hmem := nomatch hmem
  known _ hmem := nomatch hmem
  once := List.nodup_nil
  answered _ _ hget := nomatch hget

theorem getElem?_of_mem_values (haccounted : Accounted requests) {number : ℕ}
    (hmem : number ∈ requests.pending.values) :
    ∃ requestId, requests.pending.get requestId = some number ∧
      requests.requestIds[number]? = some requestId := by
  obtain ⟨requestId, hget⟩ := OrderedMap.mem_values_iff.mp hmem
  exact ⟨requestId, hget, haccounted.pending requestId number hget⟩

/-- The map has a call once. -/
theorem nodup_values (haccounted : Accounted requests) : requests.pending.values.Nodup := by
  have hentries : requests.pending.entries.Nodup :=
    List.Nodup.of_map Prod.fst requests.pending.nodup_keys
  apply hentries.map_on
  rintro ⟨requestId, number⟩ hentry ⟨other, _⟩ hother rfl
  have hid := haccounted.pending _ _ (OrderedMap.get_eq_some_iff.mpr hentry)
  have hid' := haccounted.pending _ _ (OrderedMap.get_eq_some_iff.mpr hother)
  dsimp only at hid'
  rw [hid] at hid'
  rw [Option.some.inj hid']

/-- A call may change, but for its id; what it is answered was sent. -/
theorem Accounted.modify (haccounted : Accounted requests) (number : ℕ)
    {change : GatewayCall → GatewayCall} (hid : ∀ call, (change call).requestId = call.requestId)
    (hanswer : ∀ call, (change call).answer ≠ none → call.answer ≠ none ∨ number ∈ requests.taken) :
    Accounted { requests with calls := requests.calls.modify number change } := by
  have hids : requestIds { requests with calls := requests.calls.modify number change } =
      requests.requestIds := FirstMatch.map_modify hid _ _
  constructor
  case distinct =>
    rw [hids]
    exact haccounted.distinct
  case pending =>
    rw [hids]
    exact haccounted.pending
  case free => exact haccounted.free
  case known =>
    rw [hids]
    exact haccounted.known
  case once => exact haccounted.once
  case answered =>
    intro other call hcall hsome
    dsimp only at hcall
    rw [List.getElem?_modify] at hcall
    obtain ⟨old, hold, rfl⟩ := Option.map_eq_some_iff.mp hcall
    split at hsome
    · next hsame =>
        rcases hanswer old hsome with hanswered | htaken
        · exact haccounted.answered other old hold hanswered
        · rwa [← hsame]
    · exact haccounted.answered other old hold hsome

theorem Accounted.setPhase (haccounted : Accounted requests) (number : ℕ) (phase : RequestPhase) :
    Accounted (requests.setPhase number phase) :=
  haccounted.modify number (fun _ => rfl) fun _ => .inl

/-- An entry leaves the map. -/
theorem Accounted.erase (haccounted : Accounted requests) (requestId : String) :
    Accounted { requests with pending := requests.pending.erase requestId } where
  distinct := haccounted.distinct
  pending other number hget := haccounted.pending other number (OrderedMap.get_of_get_erase hget)
  free number hmem hvalue :=
    haccounted.free number hmem (OrderedMap.mem_values_of_mem_erase hvalue)
  known := haccounted.known
  once := haccounted.once
  answered := haccounted.answered

theorem Accounted.register (haccounted : Accounted requests) {requestId : String} (method : String)
    (hnew : ∀ call ∈ requests.calls, call.requestId ≠ requestId) :
    Accounted (requests.register requestId method) := by
  have hids : (requests.register requestId method).requestIds =
      requests.requestIds ++ [requestId] := by
    unfold GatewayRequests.register requestIds
    dsimp only
    rw [List.map_append]
    rfl
  have hlength : requests.requestIds.length = requests.calls.length := List.length_map _
  constructor
  case distinct =>
    rw [hids]
    apply haccounted.distinct.append (List.nodup_singleton _)
    rw [List.disjoint_singleton]
    intro hmem
    obtain ⟨call, hcall, hsame⟩ := List.mem_map.mp hmem
    exact hnew call hcall hsame
  case pending =>
    intro other number hget
    rw [hids]
    rcases OrderedMap.of_get_set hget with ⟨rfl, rfl⟩ | ⟨-, hget⟩
    · rw [← hlength, List.getElem?_concat_length]
    · have hold := haccounted.pending other number hget
      rw [List.getElem?_append_left, hold]
      exact (List.getElem?_eq_some_iff.mp hold).1
  case free =>
    intro number hmem hvalue
    have hlt := haccounted.known number hmem
    rcases OrderedMap.eq_or_mem_of_mem_values_set hvalue with hsame | hold
    · omega
    · exact haccounted.free number hmem hold
  case known =>
    intro number hmem
    have hlt := haccounted.known number hmem
    rw [hids, List.length_append]
    omega
  case once => exact haccounted.once
  case answered =>
    intro number call hcall hsome
    unfold GatewayRequests.register at hcall
    dsimp only at hcall
    rw [List.getElem?_append] at hcall
    split at hcall
    · exact haccounted.answered number call hcall hsome
    · -- nothing was sent to the new call
      rw [List.mem_singleton.mp (List.mem_of_getElem? hcall)] at hsome
      exact absurd rfl hsome

/-- The map is emptied into the hands of whoever closes the connection. -/
theorem Accounted.takeAll (haccounted : Accounted requests) (result : Except String Json) :
    Accounted (requests.takeAll result) := by
  have hfst : (requests.pending.values.map fun number => (number, result)).map Prod.fst =
      requests.pending.values := by
    rw [List.map_map]
    exact List.map_id _
  have htaken : (requests.takeAll result).taken.Perm
      (requests.pending.values ++ requests.taken) := by
    unfold GatewayRequests.takeAll taken
    dsimp only
    rw [List.map_append, hfst, ← List.append_assoc requests.pending.values]
    exact List.perm_append_comm.append_right _
  constructor
  case distinct => exact haccounted.distinct
  case pending => exact fun requestId number hget => nomatch hget
  case free => exact fun number _ hvalue => nomatch hvalue
  case known =>
    intro number hmem
    rcases List.mem_append.mp (htaken.mem_iff.mp hmem) with hvalue | hold
    · obtain ⟨requestId, -, hid⟩ := getElem?_of_mem_values haccounted hvalue
      exact (List.getElem?_eq_some_iff.mp hid).1
    · exact haccounted.known number hold
  case once =>
    rw [htaken.nodup_iff]
    apply (nodup_values haccounted).append haccounted.once
    exact fun number hvalue hmem => haccounted.free number hmem hvalue
  case answered =>
    intro number call hcall hsome
    rw [htaken.mem_iff]
    exact List.mem_append_right _ (haccounted.answered number call hcall hsome)

/-- A sender is taken out of the map to be used. -/
theorem Accounted.takeOne (haccounted : Accounted requests) {requestId : String} {number : ℕ}
    (hget : requests.pending.get requestId = some number) (result : Except String Json) :
    Accounted { requests with
      pending := requests.pending.erase requestId
      answering := requests.answering ++ [(number, result)] } := by
  have herased := haccounted.erase requestId
  have hvalue : number ∈ requests.pending.values := OrderedMap.mem_values_of_get hget
  have hid := haccounted.pending requestId number hget
  have htaken : taken { requests with
      pending := requests.pending.erase requestId
      answering := requests.answering ++ [(number, result)] } =
        requests.answering.map Prod.fst ++ number :: requests.answers.map Prod.fst := by
    unfold taken
    dsimp only
    rw [List.map_append, List.append_assoc]
    rfl
  have hperm := @List.perm_middle _ number (requests.answering.map Prod.fst)
    (requests.answers.map Prod.fst)
  have hmem : ∀ other, other ∈ taken { requests with
      pending := requests.pending.erase requestId
      answering := requests.answering ++ [(number, result)] } →
        other = number ∨ other ∈ requests.taken := by
    intro other hother
    rw [htaken, hperm.mem_iff] at hother
    exact List.mem_cons.mp hother
  constructor
  case distinct => exact haccounted.distinct
  case pending => exact herased.pending
  case free =>
    intro other hother hvalue'
    rcases hmem other hother with rfl | hold
    · -- the map had it under one id only
      obtain ⟨other, hother⟩ := OrderedMap.mem_values_iff.mp hvalue'
      have hid' := herased.pending other _ hother
      have hsame : other = requestId := Option.some.inj (hid'.symm.trans hid)
      rw [hsame, OrderedMap.get_erase_self] at hother
      cases hother
    · exact herased.free other hold hvalue'
  case known =>
    intro other hother
    rcases hmem other hother with rfl | hold
    · exact (List.getElem?_eq_some_iff.mp hid).1
    · exact haccounted.known other hold
  case once =>
    rw [htaken, hperm.nodup_iff]
    exact List.nodup_cons.mpr ⟨fun hold => haccounted.free number hold hvalue, haccounted.once⟩
  case answered =>
    intro other call hcall hsome
    rw [htaken, hperm.mem_iff]
    exact List.mem_cons_of_mem _ (haccounted.answered other call hcall hsome)

theorem Accounted.deliver (haccounted : Accounted requests) (index : ℕ) :
    Accounted (requests.deliver index) := by
  unfold GatewayRequests.deliver
  cases hsender : requests.answering[index]? with
  | none => exact haccounted
  | some sender =>
      obtain ⟨number, result⟩ := sender
      obtain ⟨hlt, hat⟩ := List.getElem?_eq_some_iff.mp hsender
      have htaken : (taken { requests with
          answering := requests.answering.eraseIdx index
          answers := (number, result) :: requests.answers }).Perm requests.taken := by
        have hmoved := (List.getElem_cons_eraseIdx_perm hlt).map Prod.fst
        rw [hat] at hmoved
        exact List.perm_middle.trans (hmoved.append_right (requests.answers.map Prod.fst))
      have hmoved : Accounted { requests with
          answering := requests.answering.eraseIdx index
          answers := (number, result) :: requests.answers } := by
        constructor
        case distinct => exact haccounted.distinct
        case pending => exact haccounted.pending
        case free => exact fun other hmem => haccounted.free other (htaken.mem_iff.mp hmem)
        case known => exact fun other hmem => haccounted.known other (htaken.mem_iff.mp hmem)
        case once => exact htaken.nodup_iff.mpr haccounted.once
        case answered =>
          intro other call hcall hsome
          exact htaken.mem_iff.mpr (haccounted.answered other call hcall hsome)
      refine hmoved.modify number (fun _ => rfl) fun call _ => .inr ?_
      exact List.mem_append_right _ List.mem_cons_self

theorem Accounted.giveUp (haccounted : Accounted requests) (number : ℕ) :
    Accounted (requests.giveUp number) := by
  unfold GatewayRequests.giveUp
  split
  · split
    · exact (haccounted.setPhase number _).erase _
    · exact (haccounted.setPhase number _).erase _
    · exact haccounted
  · exact haccounted

theorem Accounted.receive (haccounted : Accounted requests) (number : ℕ) :
    Accounted (requests.receive number) := by
  unfold GatewayRequests.receive
  split
  · split
    · exact haccounted.setPhase number _
    · split
      · exact haccounted.setPhase number _
      · exact haccounted
    · exact haccounted
  · exact haccounted

/-- The connection does not matter. -/
theorem Accounted.withConnection (haccounted : Accounted requests) (writer : Bool)
    (generation : ℕ) : Accounted { requests with writer, generation } :=
  ⟨haccounted.distinct, haccounted.pending, haccounted.free, haccounted.known, haccounted.once,
    haccounted.answered⟩

theorem accounted_step {event : RequestEvent} (haccounted : Accounted requests)
    (hnew : NewRequestId requests event) : Accounted (stepRequests requests event) := by
  cases event with
  | connecting => exact haccounted.withConnection _ _
  | connected generation =>
      unfold stepRequests
      dsimp only
      split
      · exact haccounted.withConnection _ _
      · exact haccounted
  | register requestId method => exact haccounted.register method hnew
  | send number ok =>
      show Accounted (requests.send number ok)
      unfold GatewayRequests.send
      split
      · exact haccounted.setPhase number _
      · exact haccounted
  | expire number =>
      show Accounted (requests.expire number)
      unfold GatewayRequests.expire
      split
      · exact haccounted.setPhase number _
      · exact haccounted
  | giveUp number => exact haccounted.giveUp number
  | respond frame =>
      show Accounted (requests.respond frame)
      unfold GatewayRequests.respond
      dsimp only
      split
      · exact haccounted
      split
      · next hget => exact haccounted.takeOne hget _
      · exact haccounted
  | disconnect reason => exact (haccounted.takeAll _).withConnection _ _
  | markClosed generation detail =>
      show Accounted (requests.markClosed generation detail)
      unfold GatewayRequests.markClosed
      split
      · exact haccounted.takeAll _
      · exact haccounted
  | deliver index => exact haccounted.deliver index
  | receive number => exact haccounted.receive number

/-! ## What is left in the map -/

/-- No call that came back has its id in the map. -/
def Cleared (requests : GatewayRequests) : Prop :=
  ∀ call ∈ requests.calls, call.Returned → requests.pending.get call.requestId = none

/-- A call whose sender is not in the map has no entry there. -/
theorem get_of_not_mem_values (haccounted : Accounted requests) {number : ℕ} {call : GatewayCall}
    (hcall : requests.calls[number]? = some call) (hnot : number ∉ requests.pending.values) :
    requests.pending.get call.requestId = none := by
  have hid : requests.requestIds[number]? = some call.requestId := by
    unfold requestIds
    rw [List.getElem?_map, hcall]
    rfl
  cases hget : requests.pending.get call.requestId with
  | none => rfl
  | some other =>
      have hother := haccounted.pending _ other hget
      have hlt := (List.getElem?_eq_some_iff.mp hid).1
      have hsame : number = other :=
        (List.getElem?_inj hlt haccounted.distinct).mp (hid.trans hother.symm)
      rw [hsame] at hnot
      exact absurd (OrderedMap.mem_values_of_get hget) hnot

/-- Entries leave the map and a call changes; if it comes back it has none. -/
theorem Cleared.modify (hcleared : Cleared requests) {after : GatewayRequests} {number : ℕ}
    {change : GatewayCall → GatewayCall}
    (hcalls : after.calls = requests.calls.modify number change)
    (hid : ∀ call, (change call).requestId = call.requestId)
    (hless : ∀ requestId, requests.pending.get requestId = none →
      after.pending.get requestId = none)
    (hchanged : ∀ call, requests.calls[number]? = some call → (change call).Returned →
      after.pending.get call.requestId = none) : Cleared after := by
  intro call hmem hreturned
  obtain ⟨index, hcall⟩ := List.mem_iff_getElem?.mp hmem
  rw [hcalls, List.getElem?_modify] at hcall
  obtain ⟨old, hold, rfl⟩ := Option.map_eq_some_iff.mp hcall
  split at hreturned
  · next hsame =>
      rw [if_pos hsame, hid]
      rw [← hsame] at hold
      exact hchanged old hold hreturned
  · next hne =>
      rw [if_neg hne]
      exact hless _ (hcleared old (List.mem_of_getElem? hold) hreturned)

/-- A call goes on. -/
theorem Cleared.goOn (hcleared : Cleared requests) (number : ℕ) {phase : RequestPhase}
    (hphase : ∀ result, phase ≠ .returned result) : Cleared (requests.setPhase number phase) := by
  refine hcleared.modify rfl (fun _ => rfl) (fun _ hnone => hnone) ?_
  rintro call - ⟨result, hresult⟩
  exact absurd hresult (hphase result)

/-- A call whose sender is not in the map comes back. -/
theorem Cleared.comeBack (hcleared : Cleared requests) (haccounted : Accounted requests)
    {number : ℕ} (hnot : number ∉ requests.pending.values) (phase : RequestPhase) :
    Cleared (requests.setPhase number phase) := by
  refine hcleared.modify rfl (fun _ => rfl) (fun _ hnone => hnone) ?_
  exact fun call hcall _ => get_of_not_mem_values haccounted hcall hnot

theorem get_erase_of_none {requestId other : String}
    (hnone : requests.pending.get other = none) :
    (requests.pending.erase requestId).get other = none := by
  rw [OrderedMap.get_erase, hnone, ite_self]

/-- A call takes its entry out and comes back. -/
theorem Cleared.giveUp (hcleared : Cleared requests) (number : ℕ) :
    Cleared (requests.giveUp number) := by
  unfold GatewayRequests.giveUp
  cases hcall : requests.calls[number]? with
  | none => exact hcleared
  | some call =>
      have hback : ∀ phase, Cleared { requests.setPhase number phase with
          pending := requests.pending.erase call.requestId } := by
        intro phase
        refine hcleared.modify rfl (fun _ => rfl) (fun _ => get_erase_of_none) ?_
        intro other hother _
        rw [hcall] at hother
        rw [← Option.some.inj hother, OrderedMap.get_erase_self]
      dsimp only
      split
      · exact hback _
      · exact hback _
      · exact hcleared

theorem Cleared.receive (hcleared : Cleared requests) (haccounted : Accounted requests)
    (number : ℕ) : Cleared (requests.receive number) := by
  unfold GatewayRequests.receive
  split
  · next call hcall =>
      split
      · next hanswer =>
          apply hcleared.comeBack haccounted
          apply haccounted.free
          apply haccounted.answered number call hcall
          rw [hanswer]
          exact Option.some_ne_none _
      · split
        · next hdropped => exact hcleared.comeBack haccounted hdropped.1 _
        · exact hcleared
      · exact hcleared
  · exact hcleared

/-- A new call is there, with its entry, and has not come back unless it found no writer. -/
theorem cleared_register_iff (hcleared : Cleared requests) {requestId : String} (method : String)
    (hnew : ∀ call ∈ requests.calls, call.requestId ≠ requestId) :
    Cleared (requests.register requestId method) ↔ requests.writer = true := by
  constructor
  · intro hafter
    by_contra hwriter
    have hlast : ⟨requestId, method, .returned (.error "OpenClaw gateway 未连接"), none⟩ ∈
        (requests.register requestId method).calls := by
      unfold GatewayRequests.register
      rw [if_neg hwriter]
      exact List.mem_append_right _ (List.mem_singleton.mpr rfl)
    have hnone := hafter _ hlast ⟨_, rfl⟩
    unfold GatewayRequests.register at hnone
    dsimp only at hnone
    rw [OrderedMap.get_set_self] at hnone
    cases hnone
  · intro hwriter call hmem hreturned
    unfold GatewayRequests.register at hmem ⊢
    rw [if_pos hwriter] at hmem
    rcases List.mem_append.mp hmem with hold | hlast
    · dsimp only
      rw [OrderedMap.get_set_of_ne _ _ (hnew call hold)]
      exact hcleared call hold hreturned
    · obtain ⟨result, hresult⟩ := hreturned
      rw [List.mem_singleton.mp hlast] at hresult
      cases hresult

theorem cleared_step_iff {event : RequestEvent} (haccounted : Accounted requests)
    (hcleared : Cleared requests) (hnew : NewRequestId requests event) :
    Cleared (stepRequests requests event) ↔ FindsWriter requests event := by
  have hkeeps : ∀ {requests : GatewayRequests}, Cleared requests → (Cleared requests ↔ True) :=
    fun hcleared => ⟨fun _ => trivial, fun _ => hcleared⟩
  cases event with
  | connecting => exact hkeeps hcleared
  | connected generation =>
      unfold stepRequests
      dsimp only
      split
      · exact hkeeps hcleared
      · exact hkeeps hcleared
  | register requestId method => exact cleared_register_iff hcleared method hnew
  | send number ok =>
      apply hkeeps
      show Cleared (requests.send number ok)
      unfold GatewayRequests.send
      split
      · apply hcleared.goOn
        intro result
        split
        · exact RequestPhase.noConfusion
        · exact RequestPhase.noConfusion
      · exact hcleared
  | expire number =>
      apply hkeeps
      show Cleared (requests.expire number)
      unfold GatewayRequests.expire
      split
      · exact hcleared.goOn number fun _ => RequestPhase.noConfusion
      · exact hcleared
  | giveUp number => exact hkeeps (hcleared.giveUp number)
  | respond frame =>
      apply hkeeps
      show Cleared (requests.respond frame)
      unfold GatewayRequests.respond
      dsimp only
      split
      · exact hcleared
      split
      · exact fun call hmem hreturned => get_erase_of_none (hcleared call hmem hreturned)
      · exact hcleared
  | disconnect reason => exact hkeeps fun _ _ _ => OrderedMap.get_empty _
  | markClosed generation detail =>
      apply hkeeps
      show Cleared (requests.markClosed generation detail)
      unfold GatewayRequests.markClosed
      split
      · exact fun _ _ _ => OrderedMap.get_empty _
      · exact hcleared
  | deliver index =>
      apply hkeeps
      show Cleared (requests.deliver index)
      unfold GatewayRequests.deliver
      split
      · next number result hsender =>
          refine hcleared.modify rfl (fun _ => rfl) (fun _ hnone => hnone) ?_
          exact fun call hcall hreturned => hcleared call (List.mem_of_getElem? hcall) hreturned
      · exact hcleared
  | receive number => exact hkeeps (hcleared.receive haccounted number)

/-- Nothing is answered twice, whatever happens. -/
theorem noResidue_iff (haccounted : Accounted requests) :
    NoResidue requests ↔ Cleared requests := by
  constructor
  · exact NoResidue.cleared
  · exact fun hcleared => ⟨hcleared, (List.nodup_append.mp haccounted.once).2.1⟩

end Steps

end GatewayRequests

open GatewayRequests in
/-- **No request leaves a residue**, in any state of a run with new request ids, exactly if
every call finds the writer once it has registered. -/
theorem no_residue_iff {events : List RequestEvent}
    (hnew : Steps.Along stepRequests NewRequestId .start events) :
    (∀ before, before <+: events → NoResidue (Steps.run stepRequests .start before)) ↔
      Steps.Along stepRequests FindsWriter .start events := by
  have hstart : NoResidue .start := (noResidue_iff accounted_start).mpr fun _ hmem => nomatch hmem
  apply Steps.forall_prefix_iff_along_of_sound
    (fun requests event haccounted hevent => accounted_step haccounted hevent) _
    accounted_start hstart hnew
  intro requests event haccounted hresidue hevent
  rw [noResidue_iff (accounted_step haccounted hevent)]
  exact cleared_step_iff haccounted hresidue.cleared hevent

/-- A call that is answered after it was sent. -/
theorem no_residue_answered : NoResidue (Steps.run stepRequests .start [.connecting,
    .connected 1, .register "ocgwreq_1" "chat.send", .send 0 true,
    .respond (.obj [("id", .str "ocgwreq_1"), ("ok", .bool true)]), .deliver 0, .receive 0]) := by
  have hnew : Steps.Along stepRequests NewRequestId .start [.connecting, .connected 1,
      .register "ocgwreq_1" "chat.send", .send 0 true,
      .respond (.obj [("id", .str "ocgwreq_1"), ("ok", .bool true)]), .deliver 0, .receive 0] := by
    simp only [Steps.along_cons, Steps.along_nil, NewRequestId, and_true, true_and]
    intro number hmem
    cases hmem
  apply (no_residue_iff hnew).mpr
  · simp only [Steps.along_cons, Steps.along_nil, FindsWriter, and_true, true_and]
    rfl
  · exact List.prefix_refl _

/-- The connection closes between the check that it is there and the request. -/
theorem closed_connection_leaves_entry : ¬∀ events : List RequestEvent,
    Steps.Along stepRequests NewRequestId .start events →
      NoResidue (Steps.run stepRequests .start events) := by
  intro hall
  have hnew : Steps.Along stepRequests NewRequestId .start [.connecting, .connected 1,
      .markClosed 1 "closed", .register "ocgwreq_1" "chat.send"] := by
    simp only [Steps.along_cons, Steps.along_nil, NewRequestId, and_true, true_and]
    intro number hmem
    cases hmem
  have hnone := (hall _ hnew).cleared
    ⟨"ocgwreq_1", "chat.send", .returned (.error "OpenClaw gateway 未连接"), none⟩
    List.mem_cons_self ⟨_, rfl⟩
  cases hnone

end OpenClaw.Desktop

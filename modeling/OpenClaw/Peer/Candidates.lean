import OpenClaw.Peer.Negotiation

/-!
# The remote candidates of the desktop

ICE candidates of the phone come one by one, before the offer they belong to or behind it.
The desktop gives a candidate to the connection of the binding, keeps it at the connection as
long as that has no offer, and keeps it for the next connection when there is none.

A candidate does not say which connection of the phone it is from.  So the desktop gives it to
whatever connection is there when it arrives, and only that one.
-/

namespace OpenClaw.Peer

section Candidates

variable {Candidate : Type}

/-- A connection with the candidates it was given and those that wait for the offer. -/
structure CandidatePeer (Candidate : Type) where
  number : ℕ
  peer : DesktopPeer
  pendingRemoteCandidates : List Candidate
  added : List Candidate

/-- What the desktop has for one binding. -/
structure CandidateState (Candidate : Type) where
  peer : Option (CandidatePeer Candidate)
  pendingRemoteCandidates : List Candidate
  /-- The connections made so far. -/
  made : ℕ

def CandidateState.initial : CandidateState Candidate := ⟨none, [], 0⟩

def handleRemoteIce (state : CandidateState Candidate) (candidate : Candidate) (ok : Bool) :
    CandidateState Candidate :=
  match state.peer with
  | none =>
      { state with pendingRemoteCandidates := state.pendingRemoteCandidates ++ [candidate] }
  | some current =>
      if current.peer.remoteDescription.isSome then
        if ok then
          { state with peer := some { current with added := current.added ++ [candidate] } }
        else state
      else
        { state with
          peer := some { current with
            pendingRemoteCandidates := current.pendingRemoteCandidates ++ [candidate] } }

/-- The first candidate the connection refuses ends the loop, and those behind it are gone. -/
def flushRemoteCandidates (current : CandidatePeer Candidate) (refused : Option ℕ) :
    CandidatePeer Candidate × Bool :=
  let queued := current.pendingRemoteCandidates
  let accepted := match refused with
    | some index => queued.take index
    | none => queued
  ({ current with pendingRemoteCandidates := [], added := current.added ++ accepted },
    accepted.length = queued.length)

/-- The second half of `accept_offer`, with the candidates. -/
def answerWithCandidates (state : CandidateState Candidate) (current : CandidatePeer Candidate)
    (offer : SdpOffer) (outcome : AcceptOutcome) (refused : Option ℕ) (number : ℕ) :
    CandidateState Candidate × Option SdpAnswer :=
  let taken := { current with
    pendingRemoteCandidates := current.pendingRemoteCandidates ++ state.pendingRemoteCandidates }
  let emptied := { state with pendingRemoteCandidates := [] }
  if current.peer.remoteDescription = some offer ∨ outcome.described then
    let described := { taken with peer := { taken.peer with remoteDescription := some offer } }
    let (flushed, through) := flushRemoteCandidates described refused
    if through ∧ outcome.answered then
      ({ emptied with peer := some { flushed with
          peer := { flushed.peer with localDescription := some ⟨offer, number⟩ } } },
        if outcome.sent then some ⟨offer, number⟩ else none)
    else ({ emptied with peer := some flushed }, none)
  else ({ emptied with peer := some taken }, none)

/-- A connection in place of any former one. -/
def answerAnewWithCandidates (state : CandidateState Candidate) (offer : SdpOffer)
    (outcome : AcceptOutcome) (refused : Option ℕ) (number : ℕ) :
    CandidateState Candidate × Option SdpAnswer :=
  if outcome.created then
    answerWithCandidates { state with made := state.made + 1 } ⟨state.made, .created, [], []⟩ offer
      outcome refused number
  else ({ state with peer := none }, none)

def acceptOfferWithCandidates (state : CandidateState Candidate) (offer : SdpOffer)
    (outcome : AcceptOutcome) (refused : Option ℕ) (number : ℕ) :
    CandidateState Candidate × Option SdpAnswer :=
  match state.peer with
  | none => answerAnewWithCandidates state offer outcome refused number
  | some current =>
      if current.peer.remoteDescription = some offer then
        match current.peer.localDescription with
        | some answer => (state, if outcome.sent then some answer else none)
        | none => answerWithCandidates state current offer outcome refused number
      else if current.peer.remoteDescription.isSome ∨ current.peer.localDescription.isSome ∨
          current.peer.dataChannel then
        answerAnewWithCandidates state offer outcome refused number
      else answerWithCandidates state current offer outcome refused number

inductive CandidateEvent (Candidate : Type)
  | ice (candidate : Candidate) (ok : Bool)
  | offer (offer : SdpOffer) (outcome : AcceptOutcome) (refused : Option ℕ) (number : ℕ)
  /-- `dispose_peer` -/
  | disposed
  /-- The data channel of the connection. -/
  | attached

def candidateStep (state : CandidateState Candidate) :
    CandidateEvent Candidate → CandidateState Candidate
  | .ice candidate ok => handleRemoteIce state candidate ok
  | .offer offer outcome refused number =>
      (acceptOfferWithCandidates state offer outcome refused number).1
  | .disposed => { state with peer := none }
  | .attached =>
      { state with
        peer := state.peer.map fun current =>
          { current with peer := { current.peer with dataChannel := true } } }

/-- No candidate is refused by a connection. -/
def CandidateEvent.Unrefused : CandidateEvent Candidate → Prop
  | .ice _ ok => ok = true
  | .offer _ _ refused _ => refused = none
  | .disposed => True
  | .attached => True

/-! ## The desktop without its candidates -/

/-- The desktop of the negotiation. -/
def CandidateState.desktop (state : CandidateState Candidate) : Option DesktopPeer :=
  state.peer.map CandidatePeer.peer

variable {state : CandidateState Candidate} {current : CandidatePeer Candidate}
  {offer : SdpOffer} {outcome : AcceptOutcome} {refused : Option ℕ} {number : ℕ}

/-- A refused candidate ends `accept_offer` before the answer is made. -/
theorem answerWithCandidates_desktop :
    ∃ answered,
      ((answerWithCandidates state current offer outcome refused number).1.desktop,
          (answerWithCandidates state current offer outcome refused number).2) =
        answerOffer current.peer offer { outcome with answered } number := by
  by_cases hdescribed : current.peer.remoteDescription = some offer ∨ outcome.described
  · let taken : CandidatePeer Candidate := { current with
      pendingRemoteCandidates := current.pendingRemoteCandidates ++ state.pendingRemoteCandidates
      peer := { current.peer with remoteDescription := some offer } }
    by_cases hanswered : (flushRemoteCandidates taken refused).2 = true ∧ outcome.answered = true
    · refine ⟨true, ?_⟩
      unfold answerWithCandidates answerOffer
      dsimp only
      rw [if_pos hdescribed, if_pos hdescribed, if_pos hanswered]
      rfl
    · refine ⟨false, ?_⟩
      unfold answerWithCandidates answerOffer
      dsimp only
      rw [if_pos hdescribed, if_pos hdescribed, if_neg hanswered]
      rfl
  · refine ⟨outcome.answered, ?_⟩
    unfold answerWithCandidates answerOffer
    dsimp only
    rw [if_neg hdescribed, if_neg hdescribed]
    rfl

theorem answerAnewWithCandidates_desktop :
    ∃ answered,
      ((answerAnewWithCandidates state offer outcome refused number).1.desktop,
          (answerAnewWithCandidates state offer outcome refused number).2) =
        answerAnew offer { outcome with answered } number := by
  unfold answerAnewWithCandidates answerAnew
  cases hcreated : outcome.created with
  | true => exact answerWithCandidates_desktop
  | false => exact ⟨outcome.answered, rfl⟩

/-- **The candidates change nothing else**: without them, this is the desktop that answers the
offers in the negotiation. -/
theorem acceptOfferWithCandidates_desktop :
    ∃ answered,
      ((acceptOfferWithCandidates state offer outcome refused number).1.desktop,
          (acceptOfferWithCandidates state offer outcome refused number).2) =
        acceptOffer state.desktop offer { outcome with answered } number := by
  unfold acceptOfferWithCandidates acceptOffer CandidateState.desktop
  cases hpeer : state.peer with
  | none => exact answerAnewWithCandidates_desktop
  | some current =>
      dsimp only [Option.map_some]
      split
      · cases hlocal : current.peer.localDescription with
        | none => exact answerWithCandidates_desktop
        | some answer =>
            refine ⟨outcome.answered, ?_⟩
            rw [hpeer]
            rfl
      · split
        · exact answerAnewWithCandidates_desktop
        · exact answerWithCandidates_desktop

/-! ## Where a candidate goes -/

/-- The connection that is there, or the next one. -/
def destination (state : CandidateState Candidate) : ℕ :=
  match state.peer with
  | some current => current.number
  | none => state.made

def arrival (state : CandidateState Candidate) : CandidateEvent Candidate → List (ℕ × Candidate)
  | .ice candidate _ => [(destination state, candidate)]
  | _ => []

/-- The candidates that arrive in a run, each with the connection it is for. -/
def arrivals : CandidateState Candidate → List (CandidateEvent Candidate) → List (ℕ × Candidate)
  | _, [] => []
  | state, event :: rest => arrival state event ++ arrivals (candidateStep state event) rest

def arrivedFor (arrived : List (ℕ × Candidate)) (number : ℕ) : List Candidate :=
  (arrived.filter fun entry => decide (entry.1 = number)).map Prod.snd

/-- Nothing twice or out of order, and with `complete` nothing left out. -/
structure Given (complete : Prop) (given arrived : List Candidate) : Prop where
  sublist : given.Sublist arrived
  all : complete → given = arrived

/-- The candidates of the desktop among those that have arrived. -/
structure Kept (complete : Prop) (state : CandidateState Candidate)
    (arrived : List (ℕ × Candidate)) : Prop where
  current : ∀ current, state.peer = some current →
    Given complete (current.added ++ current.pendingRemoteCandidates)
      (arrivedFor arrived current.number)
  number : ∀ current, state.peer = some current → current.number < state.made
  described : ∀ current, state.peer = some current → current.peer.remoteDescription.isSome →
    current.pendingRemoteCandidates = []
  /-- The next connection has none but of a time without a connection. -/
  empty : state.peer.isSome → state.pendingRemoteCandidates = []
  next : arrivedFor arrived state.made = state.pendingRemoteCandidates
  later : ∀ entry ∈ arrived, entry.1 ≤ state.made

variable {complete : Prop} {arrived : List (ℕ × Candidate)} {event : CandidateEvent Candidate}
  {candidate : Candidate}

theorem arrivedFor_concat (arrived : List (ℕ × Candidate)) (number : ℕ) (candidate : Candidate)
    (other : ℕ) :
    arrivedFor (arrived ++ [(number, candidate)]) other =
      arrivedFor arrived other ++ if number = other then [candidate] else [] := by
  unfold arrivedFor
  rw [List.filter_append, List.map_append]
  by_cases hsame : number = other
  · simp [hsame]
  · simp [hsame]

theorem arrivedFor_eq_nil (hbelow : ∀ entry ∈ arrived, entry.1 < number) :
    arrivedFor arrived number = [] := by
  unfold arrivedFor
  rw [List.map_eq_nil_iff, List.filter_eq_nil_iff]
  intro entry hmem
  have hlt := hbelow entry hmem
  simp only [decide_eq_true_eq]
  omega

theorem kept_initial : Kept complete (CandidateState.initial : CandidateState Candidate) [] :=
  ⟨nofun, nofun, nofun, nofun, rfl, nofun⟩

theorem kept_of_none (hpeer : state.peer = none)
    (hnext : arrivedFor arrived state.made = state.pendingRemoteCandidates)
    (hlater : ∀ entry ∈ arrived, entry.1 ≤ state.made) : Kept complete state arrived := by
  refine ⟨fun current hsome => ?_, fun current hsome => ?_, fun current hsome => ?_,
    fun hsome => ?_, hnext, hlater⟩
  · cases hpeer.symm.trans hsome
  · cases hpeer.symm.trans hsome
  · cases hpeer.symm.trans hsome
  · rw [hpeer] at hsome
    cases hsome

theorem kept_of_some (hpeer : state.peer = some current)
    (hgiven : Given complete (current.added ++ current.pendingRemoteCandidates)
      (arrivedFor arrived current.number))
    (hnumber : current.number < state.made)
    (hdescribed : current.peer.remoteDescription.isSome → current.pendingRemoteCandidates = [])
    (hempty : state.pendingRemoteCandidates = []) (hnext : arrivedFor arrived state.made = [])
    (hlater : ∀ entry ∈ arrived, entry.1 ≤ state.made) : Kept complete state arrived := by
  refine ⟨fun other hsome => ?_, fun other hsome => ?_, fun other hsome => ?_, fun _ => hempty,
    hnext.trans hempty.symm, hlater⟩
  · cases hpeer.symm.trans hsome
    exact hgiven
  · cases hpeer.symm.trans hsome
    exact hnumber
  · cases hpeer.symm.trans hsome
    exact hdescribed

/-- The candidate a connection takes or keeps, or does not take. -/
theorem Given.concat {given arrived : List Candidate} (hgiven : Given complete given arrived) :
    Given complete (given ++ [candidate]) (arrived ++ [candidate]) := by
  refine ⟨hgiven.sublist.append_right _, fun hcomplete => ?_⟩
  rw [hgiven.all hcomplete]

theorem kept_handleRemoteIce {ok : Bool} (hkept : Kept complete state arrived)
    (hok : complete → ok = true) :
    Kept complete (handleRemoteIce state candidate ok)
      (arrived ++ [(destination state, candidate)]) := by
  have hlater : ∀ number, number ≤ state.made →
      ∀ entry ∈ arrived ++ [(number, candidate)], entry.1 ≤ state.made := by
    intro number hnumber entry hmem
    obtain hold | hnew := List.mem_append.mp hmem
    · exact hkept.later entry hold
    · rw [List.mem_singleton.mp hnew]
      exact hnumber
  unfold handleRemoteIce destination
  cases hpeer : state.peer with
  | none =>
      refine kept_of_none rfl ?_ (hlater state.made le_rfl)
      show arrivedFor _ state.made = state.pendingRemoteCandidates ++ [candidate]
      rw [arrivedFor_concat, hkept.next, if_pos rfl]
  | some current =>
      have hgiven : Given complete
          (current.added ++ current.pendingRemoteCandidates ++ [candidate])
          (arrivedFor arrived current.number ++ [candidate]) :=
        (hkept.current current hpeer).concat
      have hnumber := hkept.number current hpeer
      have hempty : state.pendingRemoteCandidates = [] := hkept.empty (hpeer ▸ rfl)
      have harrived : arrivedFor (arrived ++ [(current.number, candidate)]) current.number =
          arrivedFor arrived current.number ++ [candidate] := by
        rw [arrivedFor_concat, if_pos rfl]
      have hnext : arrivedFor (arrived ++ [(current.number, candidate)]) state.made = [] := by
        rw [arrivedFor_concat, if_neg (by omega), List.append_nil, hkept.next, hempty]
      have hafter := hlater current.number hnumber.le
      rw [← harrived] at hgiven
      dsimp only
      by_cases hdescribed : current.peer.remoteDescription.isSome
      · have hpending := hkept.described current hpeer hdescribed
        rw [hpending, List.append_nil] at hgiven
        rw [if_pos hdescribed]
        by_cases htaken : ok = true
        · rw [if_pos htaken]
          refine kept_of_some rfl ?_ hnumber (fun _ => hpending) hempty hnext hafter
          dsimp only
          rw [hpending, List.append_nil]
          exact hgiven
        · rw [if_neg htaken]
          -- A refused candidate is left out.
          refine kept_of_some hpeer ?_ hnumber (fun _ => hpending) hempty hnext hafter
          rw [hpending, List.append_nil]
          exact ⟨(List.sublist_append_left _ _).trans hgiven.sublist,
            fun hcomplete => absurd (hok hcomplete) htaken⟩
      · rw [if_neg hdescribed]
        refine kept_of_some rfl ?_ hnumber (fun hother => absurd hother hdescribed) hempty hnext
          hafter
        dsimp only
        rw [← List.append_assoc]
        exact hgiven

/-- A loop that ends early leaves out what is behind. -/
theorem given_flushRemoteCandidates
    (hgiven : Given complete (current.added ++ current.pendingRemoteCandidates)
      (arrivedFor arrived current.number))
    (hrefused : complete → refused = none) :
    Given complete ((flushRemoteCandidates current refused).1.added ++
        (flushRemoteCandidates current refused).1.pendingRemoteCandidates)
      (arrivedFor arrived current.number) := by
  unfold flushRemoteCandidates
  dsimp only
  rw [List.append_nil]
  cases hindex : refused with
  | none => exact hgiven
  | some index =>
      refine ⟨((List.take_sublist _ _).append_left _).trans hgiven.sublist, fun hcomplete => ?_⟩
      cases hindex.symm.trans (hrefused hcomplete)

theorem kept_answerWithCandidates
    (hgiven : Given complete
      (current.added ++ (current.pendingRemoteCandidates ++ state.pendingRemoteCandidates))
      (arrivedFor arrived current.number))
    (hnumber : current.number < state.made) (hmade : arrivedFor arrived state.made = [])
    (hlater : ∀ entry ∈ arrived, entry.1 ≤ state.made)
    (hdescribed : current.peer.remoteDescription.isSome →
      current.pendingRemoteCandidates ++ state.pendingRemoteCandidates = [])
    (hrefused : complete → refused = none) :
    Kept complete (answerWithCandidates state current offer outcome refused number).1 arrived := by
  let taken : CandidatePeer Candidate := { current with
    pendingRemoteCandidates := current.pendingRemoteCandidates ++ state.pendingRemoteCandidates }
  let described : CandidatePeer Candidate := { taken with
    peer := { taken.peer with remoteDescription := some offer } }
  have hflushed : Given complete ((flushRemoteCandidates described refused).1.added ++
      (flushRemoteCandidates described refused).1.pendingRemoteCandidates)
        (arrivedFor arrived current.number) :=
    given_flushRemoteCandidates hgiven hrefused
  unfold answerWithCandidates
  dsimp only
  split
  · split
    · exact kept_of_some rfl hflushed hnumber (fun _ => rfl) rfl hmade hlater
    · exact kept_of_some rfl hflushed hnumber (fun _ => rfl) rfl hmade hlater
  · exact kept_of_some rfl hgiven hnumber hdescribed rfl hmade hlater

theorem kept_answerAnewWithCandidates (hkept : Kept complete state arrived)
    (hrefused : complete → refused = none) :
    Kept complete (answerAnewWithCandidates state offer outcome refused number).1 arrived := by
  unfold answerAnewWithCandidates
  split
  · apply kept_answerWithCandidates
    · show Given complete state.pendingRemoteCandidates (arrivedFor arrived state.made)
      rw [hkept.next]
      exact ⟨List.Sublist.refl _, fun _ => rfl⟩
    · exact Nat.lt_succ_self _
    · apply arrivedFor_eq_nil
      intro entry hmem
      exact Nat.lt_succ_of_le (hkept.later entry hmem)
    · exact fun entry hmem => (hkept.later entry hmem).trans (Nat.le_succ _)
    · exact fun hsome => (by cases hsome)
    · exact hrefused
  · exact kept_of_none rfl hkept.next hkept.later

theorem kept_acceptOfferWithCandidates (hkept : Kept complete state arrived)
    (hrefused : complete → refused = none) :
    Kept complete (acceptOfferWithCandidates state offer outcome refused number).1 arrived := by
  unfold acceptOfferWithCandidates
  cases hpeer : state.peer with
  | none => exact kept_answerAnewWithCandidates hkept hrefused
  | some current =>
      have hempty : state.pendingRemoteCandidates = [] := hkept.empty (hpeer ▸ rfl)
      have hanswered : Kept complete
          (answerWithCandidates state current offer outcome refused number).1 arrived := by
        apply kept_answerWithCandidates
        · rw [hempty, List.append_nil]
          exact hkept.current current hpeer
        · exact hkept.number current hpeer
        · rw [hkept.next, hempty]
        · exact hkept.later
        · intro hdescribed
          rw [hkept.described current hpeer hdescribed, hempty, List.append_nil]
        · exact hrefused
      dsimp only
      split
      · split
        · exact hkept
        · exact hanswered
      · split
        · exact kept_answerAnewWithCandidates hkept hrefused
        · exact hanswered

theorem kept_step (hkept : Kept complete state arrived)
    (hunrefused : complete → event.Unrefused) :
    Kept complete (candidateStep state event) (arrived ++ arrival state event) := by
  cases event with
  | ice candidate ok => exact kept_handleRemoteIce hkept hunrefused
  | offer offer outcome refused number =>
      show Kept complete (acceptOfferWithCandidates state offer outcome refused number).1
        (arrived ++ [])
      rw [List.append_nil]
      exact kept_acceptOfferWithCandidates hkept hunrefused
  | disposed =>
      show Kept complete { state with peer := none } (arrived ++ [])
      rw [List.append_nil]
      exact kept_of_none rfl hkept.next hkept.later
  | attached =>
      rw [show arrival state .attached = [] from rfl, List.append_nil]
      cases hpeer : state.peer with
      | none =>
          refine kept_of_none ?_ hkept.next hkept.later
          show Option.map _ state.peer = none
          rw [hpeer]
          rfl
      | some current =>
          have hempty : state.pendingRemoteCandidates = [] := hkept.empty (hpeer ▸ rfl)
          have hattached : (candidateStep state .attached).peer = some { current with
              peer := { current.peer with dataChannel := true } } := by
            show Option.map _ state.peer = _
            rw [hpeer]
            rfl
          exact kept_of_some hattached (hkept.current current hpeer) (hkept.number current hpeer)
            (hkept.described current hpeer) hempty (hkept.next.trans hempty) hkept.later

theorem kept_run (events : List (CandidateEvent Candidate)) (hkept : Kept complete state arrived)
    (hunrefused : complete → ∀ event ∈ events, event.Unrefused) :
    Kept complete (Steps.run candidateStep state events) (arrived ++ arrivals state events) := by
  induction events generalizing state arrived with
  | nil =>
      show Kept complete state (arrived ++ [])
      rw [List.append_nil]
      exact hkept
  | cons event rest ih =>
      have hhead : complete → event.Unrefused :=
        fun hcomplete => hunrefused hcomplete event List.mem_cons_self
      have hrest := ih (kept_step hkept hhead)
        fun hcomplete other hmem => hunrefused hcomplete other (List.mem_cons_of_mem event hmem)
      rw [List.append_assoc] at hrest
      exact hrest

end Candidates

/-- **Every candidate goes to one connection**: in every run, what the connection of the desktop
was given, followed by what waits there for its offer, are candidates that arrived while it was
there or, before it, while there was none, in their order and none twice.  Once it has an offer
none waits, and none is missing unless a connection refused one. -/
theorem candidates_given {Candidate : Type} (events : List (CandidateEvent Candidate)) :
    let state := Steps.run candidateStep CandidateState.initial events
    (∀ current, state.peer = some current →
        Given (∀ event ∈ events, event.Unrefused)
            (current.added ++ current.pendingRemoteCandidates)
            (arrivedFor (arrivals .initial events) current.number) ∧
          (current.peer.remoteDescription.isSome → current.pendingRemoteCandidates = [])) ∧
      (state.peer = none →
        state.pendingRemoteCandidates = arrivedFor (arrivals .initial events) state.made) := by
  have hkept : Kept (∀ event ∈ events, event.Unrefused)
      (Steps.run candidateStep CandidateState.initial events)
      ([] ++ arrivals CandidateState.initial events) := kept_run events kept_initial id
  rw [List.nil_append] at hkept
  refine ⟨fun current hpeer => ⟨hkept.current current hpeer, hkept.described current hpeer⟩,
    fun _ => hkept.next.symm⟩

end OpenClaw.Peer

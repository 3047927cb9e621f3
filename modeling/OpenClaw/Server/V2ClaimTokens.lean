import OpenClaw.Lib.PartialIndex
import OpenClaw.Server.V2Changes

/-!
# The index of the claim tokens

A claim names a pair session by its token, and `pairClaimTokenIndex` finds the session.
Pair sessions are opened, claimed, approved, deleted and forgotten, and the index is
written apart from them; as long as ids and tokens are drawn fresh it has the tokens of
the open pair sessions and no others.
-/

namespace OpenClaw.Server

open OpenClaw.Runtime

/-- The pair session can still be claimed, if its time is not over. -/
def V2PairSession.isOpen (session : V2PairSession) : Prop :=
  session.status = .pending ∨ session.status = .claimed

/-- What is drawn for a pair session is not the id or the token of another one. -/
structure DrawsFresh (env : Env) (store : V2Store) : Prop where
  pairSessionId : ∀ {pairSessionId}, env.makeId "v2pair" = some pairSessionId →
    store.pairSessions.get pairSessionId = none
  claimToken : ∀ {claimToken pairSessionId session}, env.makeId "v2claim" = some claimToken →
    store.pairSessions.get pairSessionId = some session → session.claimToken ≠ claimToken

/-- A pair session stands under its id, and the index has the tokens of the open ones. -/
structure V2Store.Indexed (store : V2Store) : Prop where
  keyed : store.pairSessions.KeyedBy V2PairSession.pairSessionId
  index : PartialIndex store.pairSessions store.pairClaimTokenIndex V2PairSession.claimToken
    V2PairSession.isOpen

variable {env : Env} {store next : V2Store}

/-! ## The prune -/

theorem isOpen_of_expires {session : V2PairSession} {now : ℤ}
    (hexpires : session.expires now = true) : session.isOpen := by
  rw [V2PairSession.expires, decide_eq_true_eq] at hexpires
  exact hexpires.2

/-- The pair session as the prune leaves it. -/
def V2PairSession.pruned (now : ℤ) (session : V2PairSession) : V2PairSession :=
  if session.expires now then { session with status := .expired, updatedAt := now } else session

theorem get_pairSessions_prune (now : ℤ) (pairSessionId : String) :
    (pruneExpiredLocked store now).pairSessions.get pairSessionId =
      (store.pairSessions.get pairSessionId).map (V2PairSession.pruned now) :=
  OrderedMap.get_mapValues _ _ _

theorem V2PairSession.claimToken_pruned (now : ℤ) (session : V2PairSession) :
    (session.pruned now).claimToken = session.claimToken := by
  unfold V2PairSession.pruned
  split
  · rfl
  · rfl

/-- A pair session that is open after the prune was left as it is, and its time is not
over. -/
theorem pruned_of_isOpen {now : ℤ} {session : V2PairSession} (hopen : (session.pruned now).isOpen) :
    session.pruned now = session ∧ now < session.expiresAt := by
  unfold V2PairSession.pruned at hopen ⊢
  split
  · next hexpires =>
      rw [if_pos hexpires] at hopen
      exact absurd hopen (by simp [V2PairSession.isOpen])
  · next hstays =>
      rw [if_neg hstays] at hopen
      refine ⟨rfl, ?_⟩
      by_contra hover
      apply hstays
      rw [V2PairSession.expires, decide_eq_true_eq]
      exact ⟨not_lt.mp hover, hopen⟩

theorem V2Store.Indexed.prune (hindexed : store.Indexed) (now : ℤ) :
    (pruneExpiredLocked store now).Indexed where
  keyed := by
    apply hindexed.keyed.mapValues
    intro pairSessionId session
    split
    · rfl
    · rfl
  index := by
    unfold pruneExpiredLocked
    dsimp only
    apply hindexed.index.closeAll
    · intro session
      rfl
    · intro session hopen
      exact absurd hopen (by simp [V2PairSession.isOpen])
    · intro token
      rw [List.mem_map]
      constructor
      · rintro ⟨session, hmem, rfl⟩
        obtain ⟨pairSessionId, hget⟩ := OrderedMap.mem_values_iff.mp hmem
        rw [OrderedMap.get_filter_eq_some_iff] at hget
        exact ⟨pairSessionId, session, hget.1, hget.2, rfl⟩
      · rintro ⟨pairSessionId, session, hget, hexpires, rfl⟩
        refine ⟨session, OrderedMap.mem_values_iff.mpr ⟨pairSessionId, ?_⟩, rfl⟩
        rw [OrderedMap.get_filter, hget, Option.filter_some, if_pos hexpires]

/-- What is drawn fresh is fresh after the prune. -/
theorem DrawsFresh.prune (hdraws : DrawsFresh env store) (now : ℤ) :
    DrawsFresh env (pruneExpiredLocked store now) where
  pairSessionId hdraw := by
    rw [get_pairSessions_prune, hdraws.pairSessionId hdraw]
    rfl
  claimToken hdraw hget := by
    rw [get_pairSessions_prune] at hget
    obtain ⟨session, hold, rfl⟩ := Option.map_eq_some_iff.mp hget
    rw [V2PairSession.claimToken_pruned]
    exact hdraws.claimToken hdraw hold

/-! ## Changes -/

/-- The other maps say nothing about pair sessions. -/
theorem V2Store.Indexed.of_maps (hindexed : store.Indexed)
    (hsessions : next.pairSessions = store.pairSessions)
    (htokens : next.pairClaimTokenIndex = store.pairClaimTokenIndex) : next.Indexed where
  keyed := by
    rw [hsessions]
    exact hindexed.keyed
  index := by
    rw [hsessions, htokens]
    exact hindexed.index

theorem V2Store.Indexed.record (hindexed : store.Indexed)
    (hrecord : RecordChange env store next) : next.Indexed := by
  have hsame := samePairing_of_records (.single hrecord)
  exact hindexed.of_maps hsame.pairSessions hsame.pairClaimTokenIndex

theorem isOpen_of_claimableBy {session : V2PairSession} {entityId : String}
    (hclaimable : session.claimableBy entityId = .ok ()) : session.isOpen := by
  unfold V2PairSession.claimableBy at hclaimable
  split at hclaimable
  · cases hclaimable
  · next hopen => exact or_iff_not_and_not.mpr hopen

theorem V2Store.Indexed.approvePairSession (hindexed : store.Indexed) (now : ℤ)
    (pairSessionId : String) : (approvePairSession now store pairSessionId).Indexed := by
  unfold Server.approvePairSession
  split
  · exact hindexed
  · next session hget =>
      have hid := hindexed.keyed _ _ hget
      constructor
      · apply hindexed.keyed.set
        rfl
      · rw [← hid] at hget
        apply hindexed.index.close hget
        · rfl
        · simp [V2PairSession.isOpen]

theorem V2Store.Indexed.pair (hindexed : store.Indexed) (hdraws : DrawsFresh env store)
    (hpair : PairChange env store next) : next.Indexed := by
  cases hpair with
  | openPairSession hget hfresh =>
      constructor
      · apply hindexed.keyed.set
        rfl
      · apply hindexed.index.insert
        · exact hdraws.pairSessionId hfresh.pairSessionId
        · intro other session hother
          exact hdraws.claimToken hfresh.claimToken hother
        · exact .inl hfresh.status
  | deletePairSession hget hpending hunbound =>
      constructor
      · exact hindexed.keyed.erase _
      · exact hindexed.index.erase hget
  | expirePairSession hindex hget hexpired =>
      have hid := hindexed.keyed _ _ hget
      obtain ⟨session, hsession, htoken, -⟩ := hindexed.index.exact.mp hindex
      rw [hget] at hsession
      obtain rfl := Option.some.inj hsession
      constructor
      · apply hindexed.keyed.set
        exact hid
      · rw [← htoken]
        apply hindexed.index.close hget
        · rfl
        · simp [V2PairSession.isOpen]
  | claim hindex hget hlive hclaimable hclaimer hmobile hsame hbinding =>
      have hid := hindexed.keyed _ _ hget
      constructor
      · apply hindexed.keyed.set
        rfl
      · rw [← hid] at hget
        apply hindexed.index.update hget
        · rfl
        · exact iff_of_true (.inr rfl) (isOpen_of_claimableBy hclaimable)
  | approve hget howner hpending =>
      apply V2Store.Indexed.approvePairSession
      exact hindexed.of_maps rfl rfl

/-! ## Restoration -/

/-- An index without entries is made again without entries. -/
theorem V2Store.Indexed.restore (hindexed : store.Indexed) (iter : IterOrder) :
    (applySnapshot iter (snapshot store)).Indexed := by
  apply hindexed.of_maps
  · rfl
  · unfold applySnapshot snapshot
    dsimp only
    split
    · next hempty =>
        have hnone := OrderedMap.eq_empty_of_length hempty
        rw [hnone]
        refine List.foldlRecOn (motive := fun index => index = ∅) _ _ rfl ?_
        intro index hindex entry hentry
        rw [IterOrder.mem_order] at hentry
        have hclosed : ¬entry.2.isOpen := by
          intro hopen
          have hget := hindexed.index.exact.mpr
            ⟨entry.2, OrderedMap.get_eq_some_iff.mpr hentry, rfl, hopen⟩
          rw [hnone] at hget
          cases hget
        rw [indexPairSession, if_pos]
        · exact hindex
        · exact .inr (not_or.mp hclosed)
    · rfl

theorem V2Store.Indexed.perform (hindexed : store.Indexed) (hdraws : DrawsFresh env store)
    (operation : V2Operation) : (perform env store operation).1.Indexed := by
  apply perform_preserves (fun hindexed => hindexed.prune _) V2Store.Indexed.record _ hindexed
  intro between next hsame hindexed hpair
  refine hindexed.pair ⟨?_, ?_⟩ hpair
  · rw [hsame.pairSessions]
    exact (hdraws.prune _).pairSessionId
  · rw [hsame.pairSessions]
    exact (hdraws.prune _).claimToken

theorem indexed_of_reachable (hreachable : ReachableWith DrawsFresh store) : store.Indexed := by
  induction hreachable with
  | initial => exact ⟨.empty, .empty⟩
  | perform operation _ hdraws ih => exact ih.perform hdraws operation
  | restore iter _ ih => exact ih.restore iter

/-! ## What it is for -/

/-- Whoever claims a pair session names an open one of the pruned store. -/
theorem indexed_of_claimPair {principal : V2Principal} {req : V2PairClaimRequest}
    {claimed : V2PairSession × V2Binding}
    (hclaim : (claimPair env store principal req).2 = .ok claimed) :
    ∃ pairSessionId, (pruneExpiredLocked store env.now).pairClaimTokenIndex.get
      (unicodeTrim req.claimToken) = some pairSessionId := by
  unfold claimPair at hclaim
  split at hclaim
  · cases hclaim
  split at hclaim
  · cases hclaim
  next htrim =>
  obtain rfl := eq_of_trimRequired htrim
  unfold claimPairLocked at hclaim
  split at hclaim
  · cases hclaim
  · next hfound =>
      obtain ⟨pairSessionId, hindex, -⟩ := Option.bind_eq_some_iff.mp hfound
      exact ⟨pairSessionId, hindex⟩

/-- **The index of the claim tokens is exact.**  As long as ids and tokens are drawn
fresh, the index finds the open pair sessions by their tokens and nothing else, and a
claim is accepted only for a token whose pair session is open and in time. -/
theorem claim_tokens_exact (hreachable : ReachableWith DrawsFresh store) :
    (∀ claimToken pairSessionId,
      store.pairClaimTokenIndex.get claimToken = some pairSessionId ↔
        ∃ session, store.pairSessions.get pairSessionId = some session ∧
          session.claimToken = claimToken ∧
            (session.status = .pending ∨ session.status = .claimed)) ∧
      ∀ env principal req claimed, (claimPair env store principal req).2 = .ok claimed →
        (∃ pairSessionId session, store.pairSessions.get pairSessionId = some session ∧
          session.claimToken = unicodeTrim req.claimToken) ∧
        ∀ pairSessionId session, store.pairSessions.get pairSessionId = some session →
          session.claimToken = unicodeTrim req.claimToken →
            (session.status = .pending ∨ session.status = .claimed) ∧
              env.now < session.expiresAt := by
  have hindexed := indexed_of_reachable hreachable
  refine ⟨fun claimToken pairSessionId => hindexed.index.exact, ?_⟩
  intro env principal req claimed hclaim
  obtain ⟨pairSessionId, hindex⟩ := indexed_of_claimPair hclaim
  obtain ⟨session, hget, htoken, hopen⟩ := (hindexed.prune env.now).index.exact.mp hindex
  rw [get_pairSessions_prune] at hget
  obtain ⟨session, hold, rfl⟩ := Option.map_eq_some_iff.mp hget
  obtain ⟨hsame, hlive⟩ := pruned_of_isOpen hopen
  rw [hsame] at htoken hopen
  refine ⟨⟨pairSessionId, session, hold, htoken⟩, fun other found hfound hother => ?_⟩
  obtain rfl := hindexed.index.distinct hold hfound (htoken.trans hother.symm)
  rw [hold] at hfound
  obtain rfl := Option.some.inj hfound
  exact ⟨hopen, hlive⟩

theorem drawsFresh_of_not_mem {pairSessionId claimToken : String}
    (hpair : env.makeId "v2pair" = some pairSessionId)
    (hclaim : env.makeId "v2claim" = some claimToken)
    (hid : pairSessionId ∉ store.pairSessions.keys)
    (htoken : claimToken ∉ store.pairSessions.values.map V2PairSession.claimToken) :
    DrawsFresh env store where
  pairSessionId hdraw := by
    rw [hpair] at hdraw
    obtain rfl := Option.some.inj hdraw
    exact OrderedMap.get_eq_none_iff.mpr hid
  claimToken hdraw hget heq := by
    rw [hclaim] at hdraw
    obtain rfl := Option.some.inj hdraw
    exact htoken (List.mem_map.mpr ⟨_, OrderedMap.mem_values_of_get hget, heq⟩)

/-! ### A desktop that opens a pair session -/

/-- A machine with text for everything but a pair session. -/
def unpairedEnv (now : ℤ) (text : String) : Env :=
  ⟨now, fun kind => if kind = "v2pair" ∨ kind = "v2claim" then none else some text, .stored,
    fun _ _ _ => true⟩

theorem drawsFresh_unpairedEnv (now : ℤ) (text : String) (store : V2Store) :
    DrawsFresh (unpairedEnv now text) store where
  pairSessionId hdraw := by simp [Env.makeId, unpairedEnv] at hdraw
  claimToken hdraw := by simp [Env.makeId, unpairedEnv] at hdraw

/-- Operations one after the other that open no pair session. -/
def performAll (store : V2Store) (operations : List V2Operation) : V2Store :=
  operations.foldl (fun store operation => (perform (unpairedEnv 1 "1") store operation).1) store

theorem reachable_performAll (operations : List V2Operation)
    (hreachable : ReachableWith DrawsFresh store) :
    ReachableWith DrawsFresh (performAll store operations) := by
  induction operations generalizing store with
  | nil => exact hreachable
  | cons operation rest ih =>
      exact ih (.perform operation hreachable (drawsFresh_unpairedEnv 1 "1" store))

def principalOfD : V2Principal :=
  ⟨⟨"v2sess_1", "v2tok_1", .desktop, "d", firstKey, 1, 1, 900001⟩, none, none⟩

/-- The desktop `d` has logged in. -/
def loggedInQuietly : V2Store :=
  performAll newV2Store [.createChallenge ⟨"desktop", "d", firstKey⟩,
    .login ⟨"desktop", "d", firstKey, "v2chl_1", anySignature⟩]

/-- It has opened a pair session. -/
def pairOpened : V2Store :=
  (perform (trustingEnv 1 "1") loggedInQuietly (.createPairSession principalOfD 0)).1

theorem pairOpened_indexed :
    ("v2pair_1" ∉ loggedInQuietly.pairSessions.keys ∧
        "v2claim_1" ∉ loggedInQuietly.pairSessions.values.map V2PairSession.claimToken) ∧
      pairOpened.pairClaimTokenIndex.get "v2claim_1" = some "v2pair_1" := by
  decide +kernel

theorem reachable_pairOpened : ReachableWith DrawsFresh pairOpened := by
  have hlogin : ReachableWith DrawsFresh loggedInQuietly := reachable_performAll _ .initial
  obtain ⟨hid, htoken⟩ := pairOpened_indexed.1
  rw [pairOpened]
  refine .perform _ hlogin ?_
  exact drawsFresh_of_not_mem rfl rfl hid htoken

theorem claim_tokens_exact_pairOpened :
    ∃ session, pairOpened.pairSessions.get "v2pair_1" = some session ∧
      session.claimToken = "v2claim_1" ∧
        (session.status = .pending ∨ session.status = .claimed) :=
  ((claim_tokens_exact reachable_pairOpened).1 "v2claim_1" "v2pair_1").mp pairOpened_indexed.2

end OpenClaw.Server

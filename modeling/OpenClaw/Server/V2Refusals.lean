import OpenClaw.Server.V2ClaimTokens

/-!
# What a refused request leaves

An operation has many places to fail, some of them after it has begun to write.  A
request whose fields are not right is refused before the store is locked, and leaves it
as it is; a later refusal leaves the pruned store.  The branches that write first and
fail then cannot be reached after a prune, or need a generator that fails, but for one:
a claim takes over the new name of the mobile before it looks for an active binding.
-/

namespace OpenClaw.Server

open OpenClaw.Runtime

variable {env : Env} {store : V2Store} {error : ServerError}

/-- The machine always gives random text. -/
def Env.Draws (env : Env) : Prop := ∀ kind, ∃ text, env.random kind = some text

theorem Env.Draws.makeId (hdraws : env.Draws) (kind : String) :
    ∃ text, env.makeId kind = some text := by
  obtain ⟨text, htext⟩ := hdraws kind
  exact ⟨kind ++ "_" ++ text, by rw [Env.makeId, htext, Option.map_some]⟩

/-- The answer to a claim by a mobile that is bound already. -/
def bindingActive : ServerError := ⟨"INVALID_STATE", "binding already active"⟩

/-- The request carries a name for the mobile. -/
def V2Operation.renames : V2Operation → Prop
  | .claimPair _ req => normalizeV2DisplayName req.mobileName ≠ ""
  | _ => False

/-! ## Logins and challenges -/

theorem openAuthSession_ok (hdraws : env.Draws) (payload : LoginPayload) :
    errorOf (openAuthSession env store payload).2 = none := by
  obtain ⟨sessionId, hsession⟩ := hdraws.makeId "v2sess"
  obtain ⟨token, htoken⟩ := hdraws.makeId "v2tok"
  rw [openAuthSession, hsession, htoken]
  rfl

/-- A challenge that a prune keeps is in time. -/
theorem live_of_prune {challengeId : String} {challenge : V2AuthChallenge} {now : ℤ}
    (hget : (pruneExpiredLocked store now).challenges.get challengeId = some challenge) :
    now < challenge.expiresAt := by
  rw [pruneExpiredLocked, OrderedMap.get_filter_eq_some_iff] at hget
  exact of_decide_eq_true hget.2

theorem refused_loginLocked (hdraws : env.Draws) {payload : LoginPayload}
    (hrefused : errorOf (loginLocked env (pruneExpiredLocked store env.now) payload).2 =
      some error) :
    (loginLocked env (pruneExpiredLocked store env.now) payload).1 =
      pruneExpiredLocked store env.now := by
  unfold loginLocked at hrefused ⊢
  split
  · rfl
  next challenge hchallenge =>
  rw [hchallenge] at hrefused
  dsimp only at hrefused
  have hlive := live_of_prune hchallenge
  rw [if_neg (not_le.mpr hlive)] at hrefused ⊢
  split
  · rfl
  · next next hrecord =>
      rw [hrecord] at hrefused
      dsimp only at hrefused
      rw [openAuthSession_ok hdraws] at hrefused
      cases hrefused

theorem refused_authenticateLocked {token : String} {now : ℤ}
    (hrefused : errorOf (authenticateLocked now (pruneExpiredLocked store now) token).2 =
      some error) :
    (authenticateLocked now (pruneExpiredLocked store now) token).1 =
      pruneExpiredLocked store now := by
  unfold authenticateLocked at hrefused ⊢
  split
  · rfl
  next session hsession =>
  rw [hsession] at hrefused
  dsimp only at hrefused
  have hlive : now < session.expiresAt := by
    rw [pruneExpiredLocked, OrderedMap.get_filter_eq_some_iff] at hsession
    exact (of_decide_eq_true hsession.2).1
  rw [if_neg (not_le.mpr hlive)] at hrefused
  cases hrefused

/-! ## Presence -/

theorem refused_updateRecord {principal : V2Principal} {desktopOf : V2Desktop → V2Desktop}
    {mobileOf : V2Mobile → V2Mobile} {now : ℤ}
    (hrefused : errorOf (updateRecord now store principal desktopOf mobileOf).2 = some error) :
    (updateRecord now store principal desktopOf mobileOf).1 = pruneExpiredLocked store now := by
  unfold updateRecord at hrefused ⊢
  dsimp only at hrefused ⊢
  split
  · next htype =>
      rw [htype] at hrefused
      dsimp only at hrefused
      split
      · rfl
      · next hget =>
          rw [hget] at hrefused
          cases hrefused
  · next htype =>
      rw [htype] at hrefused
      dsimp only at hrefused
      split
      · rfl
      · next hget =>
          rw [hget] at hrefused
          cases hrefused

/-! ## Pairing -/

theorem openPairSession_ok (hdraws : env.Draws) (desktop : V2Desktop) (ttl : ℤ) :
    errorOf (openPairSession env store desktop ttl).2 = none := by
  obtain ⟨pairSessionId, hpair⟩ := hdraws.makeId "v2pair"
  obtain ⟨claimToken, hclaim⟩ := hdraws.makeId "v2claim"
  obtain ⟨sessionNonce, hnonce⟩ := hdraws.makeId "v2nonce"
  rw [openPairSession, hpair, hclaim, hnonce]
  rfl

theorem refused_deletePairSessionLocked {principal : V2Principal} {pairSessionId : String}
    (hrefused : errorOf (deletePairSessionLocked store principal pairSessionId).2 = some error) :
    (deletePairSessionLocked store principal pairSessionId).1 = store := by
  unfold deletePairSessionLocked at hrefused ⊢
  split
  · rfl
  next session hget =>
  rw [hget] at hrefused
  dsimp only at hrefused
  split
  · rfl
  next howner =>
  rw [if_neg howner] at hrefused
  split
  · rfl
  next hstate =>
  rw [if_neg hstate] at hrefused
  cases hrefused

/-- With random text a claim fails only at an active binding. -/
theorem claimBy_error (hdraws : env.Draws) {session : V2PairSession} {mobile : V2Mobile}
    (hrefused : errorOf (claimBy env store session mobile).2 = some error) :
    error = bindingActive ∧ (claimBy env store session mobile).1 = store := by
  unfold claimBy at hrefused ⊢
  split
  · next failed hfailed =>
      rw [hfailed] at hrefused
      obtain rfl := Option.some.inj hrefused
      refine ⟨?_, rfl⟩
      unfold claimedBinding at hfailed
      split at hfailed
      · split at hfailed
        · exact (Except.error.inj hfailed).symm
        · cases hfailed
      · obtain ⟨bindingId, hbinding⟩ := hdraws.makeId "v2bind"
        rw [hbinding] at hfailed
        cases hfailed
  · next binding hbinding =>
      rw [hbinding] at hrefused
      cases hrefused

theorem refused_claimPairLocked (hindexed : store.Indexed) (hdraws : env.Draws)
    {principal : V2Principal} {claimToken mobileName : String}
    (hkept : ¬(normalizeV2DisplayName mobileName ≠ "" ∧ error = bindingActive))
    (hrefused : errorOf (claimPairLocked env (pruneExpiredLocked store env.now) principal
      claimToken mobileName).2 = some error) :
    (claimPairLocked env (pruneExpiredLocked store env.now) principal claimToken mobileName).1 =
      pruneExpiredLocked store env.now := by
  unfold claimPairLocked at hrefused ⊢
  split
  · rfl
  next pairSessionId session hfound =>
  rw [hfound] at hrefused
  dsimp only at hrefused
  -- the index of a pruned store has no pair session whose time is over
  have hlive : env.now < session.expiresAt := by
    obtain ⟨_, hindex, hmap⟩ := Option.bind_eq_some_iff.mp hfound
    obtain ⟨_, hget, heq⟩ := Option.map_eq_some_iff.mp hmap
    obtain ⟨rfl, rfl⟩ := Prod.mk.inj heq
    obtain ⟨found, hsame, -, hopen⟩ := (hindexed.prune env.now).index.exact.mp hindex
    rw [hget] at hsame
    obtain rfl := Option.some.inj hsame
    rw [get_pairSessions_prune] at hget
    obtain ⟨old, -, rfl⟩ := Option.map_eq_some_iff.mp hget
    obtain ⟨heq, hlive⟩ := pruned_of_isOpen hopen
    rw [heq]
    exact hlive
  rw [if_neg (not_le.mpr hlive)] at hrefused ⊢
  split
  · rfl
  next hclaimable =>
  rw [hclaimable] at hrefused
  dsimp only at hrefused
  split
  · rfl
  next mobile hmobile =>
  rw [hmobile] at hrefused
  dsimp only at hrefused ⊢
  obtain ⟨hactive, hsame⟩ := claimBy_error hdraws hrefused
  rw [hsame, renameMobile]
  split
  · rfl
  · next hname => exact absurd ⟨hname, hactive⟩ hkept

theorem refused_approveBindingLocked {principal : V2Principal} {bindingId : String} {now : ℤ}
    (hrefused : errorOf (approveBindingLocked now store principal bindingId).2 = some error) :
    (approveBindingLocked now store principal bindingId).1 = store := by
  unfold approveBindingLocked at hrefused ⊢
  split
  · rfl
  next binding hget =>
  rw [hget] at hrefused
  dsimp only at hrefused
  split
  · rfl
  next howner =>
  rw [if_neg howner] at hrefused
  split
  · rfl
  next hpending =>
  rw [if_neg hpending] at hrefused
  cases hrefused

/-! ## An operation as a whole -/

/-- **What a refused request leaves.**  Refused before the store is locked, the store as
it was; refused later, the pruned store, unless a claim with a name found an active
binding. -/
theorem refusal_leaves (hreachable : ReachableWith DrawsFresh store) (hdraws : env.Draws)
    {operation : V2Operation} (hrefused : (perform env store operation).2 = some error) :
    (¬operation.admissible env → (perform env store operation).1 = store) ∧
      (operation.admissible env → ¬(operation.renames ∧ error = bindingActive) →
        (perform env store operation).1 = pruneExpiredLocked store env.now) := by
  refine ⟨perform_of_not_admissible, fun hadmissible hkept => ?_⟩
  cases operation with
  | prune => rfl
  | createChallenge req =>
      obtain ⟨challenge, hread⟩ := hadmissible
      dsimp only [perform, answer, createChallenge] at hrefused
      rw [hread] at hrefused
      cases hrefused
  | login req =>
      obtain ⟨payload, hread⟩ := hadmissible
      dsimp only [perform, answer, login] at hrefused ⊢
      rw [hread] at hrefused ⊢
      exact refused_loginLocked hdraws hrefused
  | authenticate token =>
      dsimp only [perform, answer, authenticate] at hrefused ⊢
      rw [if_neg hadmissible] at hrefused ⊢
      exact refused_authenticateLocked hrefused
  | announcePresence principal req => exact refused_updateRecord hrefused
  | heartbeatPresence principal req => exact refused_updateRecord hrefused
  | createPairSession principal ttlSeconds =>
      have htype : principal.session.entityType = .desktop := hadmissible
      dsimp only [perform, answer, createPairSession] at hrefused ⊢
      rw [if_neg (not_not.mpr htype)] at hrefused ⊢
      split
      · rfl
      · next hget =>
          rw [hget] at hrefused
          dsimp only at hrefused
          rw [openPairSession_ok hdraws] at hrefused
          cases hrefused
  | deletePairSession principal pairSessionId =>
      obtain ⟨htype, hid⟩ := hadmissible
      dsimp only [perform, answer, deletePairSession] at hrefused ⊢
      rw [if_neg (not_not.mpr htype), trimRequired_of_ne hid] at hrefused ⊢
      exact refused_deletePairSessionLocked hrefused
  | claimPair principal req =>
      obtain ⟨htype, htoken⟩ := hadmissible
      dsimp only [perform, answer, claimPair] at hrefused ⊢
      rw [if_neg (not_not.mpr htype), trimRequired_of_ne htoken] at hrefused ⊢
      exact refused_claimPairLocked (indexed_of_reachable hreachable) hdraws hkept hrefused
  | approveBinding principal bindingId =>
      obtain ⟨htype, hid⟩ := hadmissible
      dsimp only [perform, answer, approveBinding] at hrefused ⊢
      rw [if_neg (not_not.mpr htype), trimRequired_of_ne hid] at hrefused ⊢
      exact refused_approveBindingLocked hrefused

/-! ### Two refusals -/

def principalOfM : V2Principal :=
  ⟨⟨"v2sess_2", "v2tok_2", .mobile, "m", firstKey, 1, 1, 900001⟩, none, none⟩

/-- The desktop `d` and the mobile `m` have logged in. -/
def bothLoggedIn : V2Store :=
  performAll newV2Store
    [.createChallenge ⟨"desktop", "d", firstKey⟩,
      .login ⟨"desktop", "d", firstKey, "v2chl_1", anySignature⟩,
      .createChallenge ⟨"mobile", "m", firstKey⟩,
      .login ⟨"mobile", "m", firstKey, "v2chl_1", anySignature⟩]

/-- They have paired. -/
def bothPaired : V2Store :=
  performAll (perform (trustingEnv 1 "1") bothLoggedIn (.createPairSession principalOfD 0)).1
    [.claimPair principalOfM ⟨"v2claim_1", ""⟩, .approveBinding principalOfD "v2bind_1"]

/-- The desktop has opened another pair session. -/
def pairedAgain : V2Store :=
  (perform (trustingEnv 1 "2") bothPaired (.createPairSession principalOfD 0)).1

/-- The mobile claims the second pair session under this name. -/
def claimAgain (mobileName : String) : V2Store × Option ServerError :=
  perform (trustingEnv 2 "3") pairedAgain (.claimPair principalOfM ⟨"v2claim_2", mobileName⟩)

/-- What the run draws is fresh, and the claims are refused; only the names differ. -/
theorem claimAgain_refused :
    ("v2pair_1" ∉ bothLoggedIn.pairSessions.keys ∧
        "v2claim_1" ∉ bothLoggedIn.pairSessions.values.map V2PairSession.claimToken) ∧
      ("v2pair_2" ∉ bothPaired.pairSessions.keys ∧
        "v2claim_2" ∉ bothPaired.pairSessions.values.map V2PairSession.claimToken) ∧
      (claimAgain "").2 = some bindingActive ∧ (claimAgain "n").2 = some bindingActive ∧
      (claimAgain "n").1.mobiles.values.map V2Mobile.mobileName ≠
        (pruneExpiredLocked pairedAgain 2).mobiles.values.map V2Mobile.mobileName := by
  decide +kernel

theorem reachable_pairedAgain : ReachableWith DrawsFresh pairedAgain := by
  obtain ⟨hfirst, hsecond, -⟩ := claimAgain_refused
  have hlogins : ReachableWith DrawsFresh bothLoggedIn := reachable_performAll _ .initial
  have hpaired : ReachableWith DrawsFresh bothPaired := by
    apply reachable_performAll
    refine .perform _ hlogins ?_
    exact drawsFresh_of_not_mem rfl rfl hfirst.1 hfirst.2
  rw [pairedAgain]
  refine .perform _ hpaired ?_
  exact drawsFresh_of_not_mem rfl rfl hsecond.1 hsecond.2

/-- Without a name the claim of a mobile that is bound leaves the pruned store. -/
theorem refusal_leaves_unnamed : (claimAgain "").1 = pruneExpiredLocked pairedAgain 2 := by
  have hdraws : (trustingEnv 2 "3").Draws := fun _ => ⟨"3", rfl⟩
  obtain ⟨-, -, hrefused, -⟩ := claimAgain_refused
  rw [claimAgain] at hrefused ⊢
  apply (refusal_leaves reachable_pairedAgain hdraws hrefused).2
  · exact ⟨rfl, by decide +kernel⟩
  · intro hrenames
    exact hrenames.1 (by decide +kernel)

/-- A login of an unknown kind, when the time of the challenge is over. -/
def lateLogin : V2Store × Option ServerError :=
  perform (trustingEnv 300001 "2") challenged (.login ⟨"x", "", "", "", ""⟩)

/-- A request with a wrong field leaves a challenge whose time is over, and a claim with
a name that is refused leaves the name: neither store is the pruned one. -/
theorem refusal_not_pruned :
    (Reachable challenged ∧ lateLogin.2.isSome = true ∧
        lateLogin.1 ≠ pruneExpiredLocked challenged 300001) ∧
      ReachableWith DrawsFresh pairedAgain ∧ (claimAgain "n").2 = some bindingActive ∧
        (claimAgain "n").1 ≠ pruneExpiredLocked pairedAgain 2 := by
  obtain ⟨-, -, -, hrefused, hnames⟩ := claimAgain_refused
  refine ⟨⟨.perform _ .initial trivial, ?_, ?_⟩, reachable_pairedAgain, hrefused, ?_⟩
  · decide +kernel
  · intro hsame
    have hlength := congrArg (fun store => store.challenges.entries.length) hsame
    revert hlength
    decide +kernel
  · intro hsame
    apply hnames
    rw [hsame]

end OpenClaw.Server

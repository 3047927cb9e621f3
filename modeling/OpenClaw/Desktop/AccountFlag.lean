import OpenClaw.Runtime.Text
import OpenClaw.Runtime.Value

/-!
# The enable flag of a channel account

The plugin reads an account from three places, the later covering the earlier: the section
of the channel, and over it the section of the account, or of the account `default` when
there is none.  `setAccountEnabled` writes the flag of `default` into the section of the
channel and the flag of any other account into a section of its own, which it creates when
it is missing.

So a flag in the account section of `default` hides what is written for `default`, what is
written for it shows through in every account without a flag, and a section that is created
takes the settings of `default` away from its account.
-/

namespace OpenClaw.Desktop

open OpenClaw.Runtime

def mobileChannelId : String := "openclaw-mobile"

def defaultAccountId : String := "default"

structure ResolvedAccount where
  accountId : String
  enabled : Bool
  configured : Bool
  serverBaseUrl : String
  desktopDeviceId : String
  requestTimeoutMs : JsNumber
  reconnectMinMs : JsNumber
  reconnectMaxMs : JsNumber

/-- The account with another flag. -/
def ResolvedAccount.withEnabled (account : ResolvedAccount) (enabled : Bool) : ResolvedAccount :=
  { account with enabled }

theorem ResolvedAccount.withEnabled_inj {account : ResolvedAccount} {left right : Bool} :
    account.withEnabled left = account.withEnabled right ↔ left = right :=
  ⟨congrArg ResolvedAccount.enabled, congrArg account.withEnabled⟩

theorem ResolvedAccount.withEnabled_eq_self_iff {account : ResolvedAccount} {enabled : Bool} :
    account.withEnabled enabled = account ↔ enabled = account.enabled :=
  @ResolvedAccount.withEnabled_inj account enabled account.enabled

/-! ## Reading values -/

def asString : Value → String
  | .str value => jsTrim value
  | _ => ""

/-- The slashes at the end are dropped. -/
def normalizeBaseUrl (raw : Value) : String :=
  String.ofList ((asString raw).toList.rdropWhile fun c => c == '/')

def readEnabled : Value → Bool
  | .bool value => value
  | _ => true

/-- `asString(accountId) || DEFAULT_ACCOUNT_ID`. -/
def resolvedAccountId (accountId : Value) : String :=
  if asString accountId = "" then defaultAccountId else asString accountId

/-! ## Reading a configuration -/

def getChannelSection (cfg : Value) : Record :=
  let channels := (cfg.recordOrEmpty.get "channels").recordOrEmpty
  (channels.get mobileChannelId).recordOrEmpty

/-- `isRecord(section.accounts) ? section.accounts : {}`. -/
def accountsOf (channelSection : Record) : Record :=
  (channelSection.get "accounts").recordOrEmpty

def getAccountSection (channelSection : Record) (accountId : String) : Record :=
  match ((accountsOf channelSection).get accountId).record? with
  | some fromAccount => fromAccount
  | none => ((accountsOf channelSection).get defaultAccountId).recordOrEmpty

def mergeConfig (channelSection accountSection : Record) : Record :=
  Record.spread channelSection accountSection

section Reading

-- `Number(raw)`.
variable (number : Value → JsNumber)

def asPositiveInt (raw : Value) (fallback : JsNumber) : JsNumber :=
  match number raw with
  | .finite value => if 0 < value then .finite value.floor else fallback
  | _ => fallback

variable (merged : Record)

def readServerBaseUrl : String :=
  normalizeBaseUrl
    ((merged.get "serverBaseUrl").nullish
      ((merged.get "baseUrl").nullish (merged.get "channelServerBaseUrl")))

def readDesktopDeviceId : String :=
  asString
    ((merged.get "desktopDeviceId").nullish
      ((merged.get "deviceId").nullish (merged.get "channelDeviceId")))

def readRequestTimeoutMs : JsNumber := asPositiveInt number (merged.get "requestTimeoutMs") 8000

def readReconnectMinMs : JsNumber := asPositiveInt number (merged.get "reconnectMinMs") 1000

def readReconnectMaxMs : JsNumber :=
  JsNumber.max (readReconnectMinMs number merged)
    (asPositiveInt number (merged.get "reconnectMaxMs") 15000)

/-- The account that the overlaid sections describe. -/
def describeAccount (accountId : String) : ResolvedAccount where
  accountId := accountId
  enabled := readEnabled (merged.get "enabled")
  configured := readServerBaseUrl merged ≠ "" ∧ readDesktopDeviceId merged ≠ ""
  serverBaseUrl := readServerBaseUrl merged
  desktopDeviceId := readDesktopDeviceId merged
  requestTimeoutMs := readRequestTimeoutMs number merged
  reconnectMinMs := readReconnectMinMs number merged
  reconnectMaxMs := readReconnectMaxMs number merged

def resolveAccount (cfg accountId : Value) : ResolvedAccount :=
  let channelSection := getChannelSection cfg
  let accountSection := getAccountSection channelSection (resolvedAccountId accountId)
  describeAccount number (mergeConfig channelSection accountSection) (resolvedAccountId accountId)

end Reading

/-! ## Writing the flag -/

/-- The section of an account with its flag. -/
def flaggedSection (accounts : Record) (accountId : String) (enabled : Bool) :
    PlainObject Value :=
  ((accounts.get accountId).copyOrEmpty.set "enabled" (.bool enabled)).own

/-- What becomes of the copy of the channel's section. -/
def writeFlag (channelSection : Record) (accountId : String) (enabled : Bool) : Record :=
  if accountId = defaultAccountId then channelSection.set "enabled" (.bool enabled)
  else
    let accounts := (channelSection.get "accounts").copyOrEmpty
    channelSection.set "accounts"
      (accounts.assign accountId (flaggedSection accounts accountId enabled)).toValue

def setAccountEnabled (cfg accountId : Value) (enabled : Bool) : Value :=
  let nextCfg := cfg.copyOrEmpty
  let channels := (nextCfg.get "channels").copyOrEmpty
  let channelSection := (channels.get mobileChannelId).copyOrEmpty
  let written := writeFlag channelSection (resolvedAccountId accountId) enabled
  (nextCfg.set "channels" (channels.set mobileChannelId written.toValue).toValue).toValue

/-! ## The laws -/

/-- The account has the flag that was set and is otherwise what it was, and every other
account is what it was. -/
structure FlagLaws (number : Value → JsNumber) (cfg accountId : Value) (enabled : Bool) :
    Prop where
  own : resolveAccount number (setAccountEnabled cfg accountId enabled) accountId =
    (resolveAccount number cfg accountId).withEnabled enabled
  others : ∀ other, resolvedAccountId other ≠ resolvedAccountId accountId →
    resolveAccount number (setAccountEnabled cfg accountId enabled) other =
      resolveAccount number cfg other

/-- A section's own flag, if there is one, reads as `enabled`. -/
def NoOtherFlag (accountSection : Record) (enabled : Bool) : Prop :=
  ∀ flag, accountSection.own.get "enabled" = some flag → readEnabled flag = enabled

/-- Each setting but the flag reads the same. -/
structure SameSettings (number : Value → JsNumber) (left right : Record) : Prop where
  serverBaseUrl : readServerBaseUrl left = readServerBaseUrl right
  desktopDeviceId : readDesktopDeviceId left = readDesktopDeviceId right
  requestTimeoutMs : readRequestTimeoutMs number left = readRequestTimeoutMs number right
  reconnectMinMs : readReconnectMinMs number left = readReconnectMinMs number right
  reconnectMaxMs : readReconnectMaxMs number left = readReconnectMaxMs number right

/-- When the flag of an account can be set.  For `default`: the section that covers the
channel's has no other flag, and the flag of the channel does not change or shows through
nowhere else.  For another account: it has a section, or the one of `default` that it loses
sets nothing. -/
def FlagIsFree (number : Value → JsNumber) (cfg accountId : Value) (enabled : Bool) : Prop :=
  let channelSection := getChannelSection cfg
  if resolvedAccountId accountId = defaultAccountId then
    NoOtherFlag (getAccountSection channelSection defaultAccountId) enabled ∧
      (readEnabled (channelSection.get "enabled") = enabled ∨
        ∀ other, resolvedAccountId other ≠ defaultAccountId →
          ((getAccountSection channelSection (resolvedAccountId other)).own.get
            "enabled").isSome)
  else
    ((accountsOf channelSection).get (resolvedAccountId accountId)).record?.isSome ∨
      SameSettings number
        (mergeConfig channelSection (getAccountSection channelSection defaultAccountId))
        (mergeConfig channelSection (.literal ∅))

section Sections

variable {number : Value → JsNumber} {channelSection : Record} {accountId : String}
  {enabled : Bool}

/-- Only the flag is read under `enabled`, and nothing is read under `accounts`. -/
theorem describeAccount_eq {left right : Record} (hagree : ∀ key, key ≠ "enabled" →
    key ≠ "accounts" → left.get key = right.get key) (accountId : String) :
    describeAccount number left accountId =
      (describeAccount number right accountId).withEnabled (readEnabled (left.get "enabled")) := by
  have hbase : readServerBaseUrl left = readServerBaseUrl right := by
    unfold readServerBaseUrl
    rw [hagree _ (by decide) (by decide), hagree "baseUrl" (by decide) (by decide),
      hagree "channelServerBaseUrl" (by decide) (by decide)]
  have hdevice : readDesktopDeviceId left = readDesktopDeviceId right := by
    unfold readDesktopDeviceId
    rw [hagree _ (by decide) (by decide), hagree "deviceId" (by decide) (by decide),
      hagree "channelDeviceId" (by decide) (by decide)]
  have hmin : readReconnectMinMs number left = readReconnectMinMs number right := by
    unfold readReconnectMinMs
    rw [hagree _ (by decide) (by decide)]
  unfold ResolvedAccount.withEnabled describeAccount readReconnectMaxMs readRequestTimeoutMs
  rw [hbase, hdevice, hmin, hagree "requestTimeoutMs" (by decide) (by decide),
    hagree "reconnectMaxMs" (by decide) (by decide)]

theorem find_mergeConfig (accountSection : Record) (key : String) :
    (mergeConfig channelSection accountSection).find key =
      (accountSection.own.get key).or (channelSection.own.get key) := by
  rw [Record.find_of_proto _ rfl]
  exact Record.get_own_spread channelSection accountSection key

/-- The flag of the account's section, or the one of the channel's. -/
theorem readEnabled_mergeConfig (hproto : channelSection.proto = none) (accountSection : Record) :
    readEnabled ((mergeConfig channelSection accountSection).get "enabled") =
      match accountSection.own.get "enabled" with
      | some flag => readEnabled flag
      | none => readEnabled (channelSection.get "enabled") := by
  have hfind := @find_mergeConfig channelSection accountSection "enabled"
  cases hown : accountSection.own.get "enabled" with
  | some flag =>
      rw [hown] at hfind
      rw [Record.get_of_find _ hfind]
  | none =>
      rw [hown, Option.none_or, ← Record.find_of_proto _ hproto] at hfind
      rw [Record.get_congr hproto.symm hfind]

/-- Sections that agree but for the flag and the accounts describe the same account with
another flag. -/
theorem describe_mergeConfig {left right leftAccount rightAccount : Record}
    (hsection : ∀ key, key ≠ "enabled" → key ≠ "accounts" → left.own.get key = right.own.get key)
    (haccount : ∀ key, key ≠ "enabled" → leftAccount.own.get key = rightAccount.own.get key)
    (accountId : String) :
    describeAccount number (mergeConfig left leftAccount) accountId =
      (describeAccount number (mergeConfig right rightAccount) accountId).withEnabled
        (readEnabled ((mergeConfig left leftAccount).get "enabled")) := by
  apply describeAccount_eq
  intro key henabled haccounts
  have hproto : (mergeConfig left leftAccount).proto = (mergeConfig right rightAccount).proto := rfl
  apply Record.get_congr hproto
  rw [find_mergeConfig, find_mergeConfig, hsection key henabled haccounts, haccount key henabled]

theorem getAccountSection_default : getAccountSection channelSection defaultAccountId =
    ((accountsOf channelSection).get defaultAccountId).recordOrEmpty := by
  unfold getAccountSection Value.recordOrEmpty
  cases ((accountsOf channelSection).get defaultAccountId).record? with
  | none => rfl
  | some fromAccount => rfl

/-- The configuration's section of the channel is what was written. -/
theorem getChannelSection_setAccountEnabled {cfg : Value} (hparsed : cfg.Parsed)
    (accountId : Value) (enabled : Bool) :
    getChannelSection (setAccountEnabled cfg accountId enabled) =
      writeFlag (getChannelSection cfg) (resolvedAccountId accountId) enabled := by
  have hchannels := hparsed.get_recordOrEmpty "channels"
  have hsection := hchannels.get_recordOrEmpty mobileChannelId
  unfold getChannelSection setAccountEnabled
  dsimp only
  rw [hparsed.copyOrEmpty, hchannels.copyOrEmpty, hsection.copyOrEmpty,
    Record.recordOrEmpty_toValue, Record.get_set_self, Record.recordOrEmpty_toValue,
    Record.get_set_self, Record.recordOrEmpty_toValue]

/-! ### The flag of `default` -/

section Default

variable (hproto : channelSection.proto = none)
include hproto

omit hproto in
theorem getAccountSection_set_enabled (accountId : String) (enabled : Bool) :
    getAccountSection (channelSection.set "enabled" (.bool enabled)) accountId =
      getAccountSection channelSection accountId := by
  unfold getAccountSection accountsOf
  rw [Record.get_set_of_ne _ _ (by decide)]

/-- An account after the flag of the channel's section is set. -/
theorem describe_set_enabled (accountSection : Record) (accountId : String) (enabled : Bool) :
    describeAccount number
        (mergeConfig (channelSection.set "enabled" (.bool enabled)) accountSection) accountId =
      (describeAccount number (mergeConfig channelSection accountSection) accountId).withEnabled
        (match accountSection.own.get "enabled" with
          | some flag => readEnabled flag
          | none => enabled) := by
  have hwritten : (channelSection.set "enabled" (.bool enabled)).proto = none := hproto
  rw [@describe_mergeConfig number _ channelSection _ accountSection _ fun _ _ => rfl,
    readEnabled_mergeConfig hwritten, Record.get_set_self]
  · rfl
  · exact fun key henabled _ => OrderedMap.get_set_of_ne _ _ henabled

theorem own_default_iff (accountSection : Record) (accountId : String) (enabled : Bool) :
    describeAccount number
        (mergeConfig (channelSection.set "enabled" (.bool enabled)) accountSection) accountId =
      (describeAccount number (mergeConfig channelSection accountSection) accountId).withEnabled
        enabled ↔ NoOtherFlag accountSection enabled := by
  rw [describe_set_enabled hproto, ResolvedAccount.withEnabled_inj]
  unfold NoOtherFlag
  cases hflag : accountSection.own.get "enabled" with
  | none => exact ⟨fun _ _ hsome => (nomatch hsome), fun _ => rfl⟩
  | some flag =>
      constructor
      · rintro hread other ⟨⟩
        exact hread
      · exact fun hno => hno flag rfl

theorem other_default_iff (accountSection : Record) (accountId : String) (enabled : Bool) :
    describeAccount number
        (mergeConfig (channelSection.set "enabled" (.bool enabled)) accountSection) accountId =
      describeAccount number (mergeConfig channelSection accountSection) accountId ↔
        readEnabled (channelSection.get "enabled") = enabled ∨
          (accountSection.own.get "enabled").isSome := by
  rw [describe_set_enabled hproto, ResolvedAccount.withEnabled_eq_self_iff]
  show _ = readEnabled ((mergeConfig channelSection accountSection).get "enabled") ↔ _
  rw [readEnabled_mergeConfig hproto]
  cases accountSection.own.get "enabled" with
  | some flag => exact ⟨fun _ => .inr rfl, fun _ => rfl⟩
  | none =>
      constructor
      · exact fun hread => .inl hread.symm
      · rintro (hread | hsome)
        · exact hread.symm
        · cases hsome

end Default

/-! ### The flag of another account -/

section Named

/-- When `__proto__` is not an own property, what is copied of it is empty. -/
theorem get_flaggedSection_proto {accounts : Record} (hfind : accounts.find "__proto__" = none)
    (hplain : accounts.proto = none) (enabled : Bool) {key : String} (hkey : key ≠ "enabled") :
    (flaggedSection accounts "__proto__" enabled).get key = none := by
  have hget : accounts.get "__proto__" = (Record.literal ∅).toValue := by
    unfold Record.get
    rw [hfind, hplain]
    rfl
  show ((accounts.get "__proto__").copyOrEmpty.own.set "enabled" (.bool enabled)).get key = none
  rw [OrderedMap.get_set_of_ne _ _ hkey, hget, Value.copyOrEmpty, Record.recordOrEmpty_toValue]
  rfl

/-- The account finds the section that was written for it. -/
theorem record?_assign_self {accounts : Record} (hplain : accounts.proto = none)
    (accountId : String) (enabled : Bool) :
    ((accounts.assign accountId (flaggedSection accounts accountId enabled)).get
      accountId).record? = some (.literal (flaggedSection accounts accountId enabled)) := by
  unfold Record.assign
  split
  · next hsetter =>
      obtain ⟨rfl, hnone⟩ := hsetter
      have hfind := Option.isNone_iff_eq_none.mp hnone
      have hown : accounts.own.get "__proto__" = none :=
        (Record.find_of_proto accounts hplain _).symm.trans hfind
      have hkey : "__proto__" ≠ "enabled" := by decide
      have hnew := get_flaggedSection_proto hfind hplain enabled hkey
      unfold Record.get Record.find
      dsimp only
      rw [hown, Option.none_or, Option.bind_some, hnew]
      exact Record.record?_toValue _
  · rw [Record.get_set_self, Record.record?_toValue]

/-- Every other account finds the section it found before. -/
theorem record?_assign_of_ne {accounts : Record} (hplain : accounts.proto = none)
    {accountId other : String} (hne : other ≠ accountId) (enabled : Bool) :
    ((accounts.assign accountId (flaggedSection accounts accountId enabled)).get other).record? =
      (accounts.get other).record? := by
  unfold Record.assign
  split
  · next hsetter =>
      obtain ⟨rfl, hnone⟩ := hsetter
      have hfind := Option.isNone_iff_eq_none.mp hnone
      unfold Record.get Record.find
      dsimp only
      rw [hplain, Option.bind_some, if_neg hne, if_neg hne]
      cases accounts.own.get other with
      | some value => rfl
      | none =>
          rw [Option.none_or, Option.none_or]
          by_cases hflag : other = "enabled"
          -- The prototype has the flag, and the flag is not an object.
          · have hown : (flaggedSection accounts "__proto__" enabled).get "enabled" =
                some (.bool enabled) := OrderedMap.get_set_self _ _ _
            rw [hflag, hown]
            rfl
          · rw [get_flaggedSection_proto hfind hplain enabled hflag]
            rfl
  · rw [Record.get_set_of_ne _ _ hne]

/-- The channel's section with a flag for an account other than `default`. -/
theorem writeFlag_named (haccounts : (channelSection.get "accounts").Parsed)
    (hne : accountId ≠ defaultAccountId) (enabled : Bool) :
    writeFlag channelSection accountId enabled = channelSection.set "accounts"
      ((accountsOf channelSection).assign accountId
        (flaggedSection (accountsOf channelSection) accountId enabled)).toValue := by
  unfold writeFlag
  rw [if_neg hne, haccounts.copyOrEmpty]
  rfl

theorem accountsOf_writeFlag (haccounts : (channelSection.get "accounts").Parsed)
    (hne : accountId ≠ defaultAccountId) (enabled : Bool) :
    accountsOf (writeFlag channelSection accountId enabled) =
      (accountsOf channelSection).assign accountId
        (flaggedSection (accountsOf channelSection) accountId enabled) := by
  rw [writeFlag_named haccounts hne, accountsOf, Record.get_set_self,
    Record.recordOrEmpty_toValue]

theorem getAccountSection_writeFlag_self (haccounts : (channelSection.get "accounts").Parsed)
    (hne : accountId ≠ defaultAccountId) (enabled : Bool) :
    getAccountSection (writeFlag channelSection accountId enabled) accountId =
      .literal (flaggedSection (accountsOf channelSection) accountId enabled) := by
  have hplain : (accountsOf channelSection).proto = none := haccounts.proto_recordOrEmpty
  unfold getAccountSection
  rw [accountsOf_writeFlag haccounts hne, record?_assign_self hplain]

theorem getAccountSection_writeFlag_of_ne (haccounts : (channelSection.get "accounts").Parsed)
    (hne : accountId ≠ defaultAccountId) {other : String} (hother : other ≠ accountId)
    (enabled : Bool) :
    getAccountSection (writeFlag channelSection accountId enabled) other =
      getAccountSection channelSection other := by
  have hplain : (accountsOf channelSection).proto = none := haccounts.proto_recordOrEmpty
  unfold getAccountSection Value.recordOrEmpty
  rw [accountsOf_writeFlag haccounts hne, record?_assign_of_ne hplain hother,
    record?_assign_of_ne hplain (Ne.symm hne)]

/-- The channel's settings are what they were. -/
theorem get_own_writeFlag (haccounts : (channelSection.get "accounts").Parsed)
    (hne : accountId ≠ defaultAccountId) (enabled : Bool) {key : String}
    (hkey : key ≠ "accounts") :
    (writeFlag channelSection accountId enabled).own.get key = channelSection.own.get key := by
  rw [writeFlag_named haccounts hne]
  exact OrderedMap.get_set_of_ne _ _ hkey

/-- Every other account is what it was. -/
theorem other_named (haccounts : (channelSection.get "accounts").Parsed)
    (hne : accountId ≠ defaultAccountId) {other : String} (hother : other ≠ accountId)
    (enabled : Bool) :
    describeAccount number
        (mergeConfig (writeFlag channelSection accountId enabled)
          (getAccountSection (writeFlag channelSection accountId enabled) other)) other =
      describeAccount number
        (mergeConfig channelSection (getAccountSection channelSection other)) other := by
  rw [getAccountSection_writeFlag_of_ne haccounts hne hother]
  have hget : ∀ key, key ≠ "accounts" →
      (writeFlag channelSection accountId enabled).own.get key = channelSection.own.get key :=
    fun key hkey => get_own_writeFlag haccounts hne enabled hkey
  rw [describe_mergeConfig (fun key _ hkey => hget key hkey) fun _ _ => rfl,
    ResolvedAccount.withEnabled_eq_self_iff]
  apply congrArg readEnabled
  have hfind : (mergeConfig (writeFlag channelSection accountId enabled)
        (getAccountSection channelSection other)).find "enabled" =
      (mergeConfig channelSection (getAccountSection channelSection other)).find "enabled" := by
    rw [find_mergeConfig, find_mergeConfig, hget _ (by decide)]
  exact Record.get_congr rfl hfind

/-- The account itself has the flag, and the settings of its own section. -/
theorem describe_writeFlag_self (haccounts : (channelSection.get "accounts").Parsed)
    (hne : accountId ≠ defaultAccountId) (enabled : Bool) :
    describeAccount number
        (mergeConfig (writeFlag channelSection accountId enabled)
          (getAccountSection (writeFlag channelSection accountId enabled) accountId)) accountId =
      (describeAccount number
        (mergeConfig channelSection ((accountsOf channelSection).get accountId).recordOrEmpty)
        accountId).withEnabled enabled := by
  have hflag : (flaggedSection (accountsOf channelSection) accountId enabled).get "enabled" =
      some (.bool enabled) := OrderedMap.get_set_self _ _ _
  rw [getAccountSection_writeFlag_self haccounts hne,
    describe_mergeConfig (fun key _ hkey => get_own_writeFlag haccounts hne enabled hkey)]
  · congr 1
    have hfind := @find_mergeConfig (writeFlag channelSection accountId enabled)
      (.literal (flaggedSection (accountsOf channelSection) accountId enabled)) "enabled"
    have hown : (mergeConfig (writeFlag channelSection accountId enabled)
        (.literal (flaggedSection (accountsOf channelSection) accountId enabled))).find "enabled" =
          some (.bool enabled) := by
      rw [hfind]
      show ((flaggedSection _ _ _).get "enabled").or _ = _
      rw [hflag]
      rfl
    rw [Record.get_of_find _ hown]
    rfl
  · exact fun key henabled => OrderedMap.get_set_of_ne _ _ henabled

theorem sameSettings_iff {left right : Record} :
    SameSettings number left right ↔
      (describeAccount number left accountId).withEnabled enabled =
        (describeAccount number right accountId).withEnabled enabled := by
  constructor
  · rintro ⟨hbase, hdevice, hrequest, hmin, hmax⟩
    unfold ResolvedAccount.withEnabled describeAccount
    rw [hbase, hdevice, hrequest, hmin, hmax]
  · intro hsame
    exact ⟨congrArg ResolvedAccount.serverBaseUrl hsame,
      congrArg ResolvedAccount.desktopDeviceId hsame,
      congrArg ResolvedAccount.requestTimeoutMs hsame,
      congrArg ResolvedAccount.reconnectMinMs hsame,
      congrArg ResolvedAccount.reconnectMaxMs hsame⟩

/-- An account that has a section keeps its settings; one that gets its section now keeps
them if the one of `default` sets nothing. -/
theorem own_named_iff (haccounts : (channelSection.get "accounts").Parsed)
    (hne : accountId ≠ defaultAccountId) (enabled : Bool) :
    describeAccount number
        (mergeConfig (writeFlag channelSection accountId enabled)
          (getAccountSection (writeFlag channelSection accountId enabled) accountId)) accountId =
      (describeAccount number
        (mergeConfig channelSection (getAccountSection channelSection accountId))
        accountId).withEnabled enabled ↔
      ((accountsOf channelSection).get accountId).record?.isSome ∨
        SameSettings number
          (mergeConfig channelSection (getAccountSection channelSection defaultAccountId))
          (mergeConfig channelSection (.literal ∅)) := by
  rw [describe_writeFlag_self haccounts hne, getAccountSection_default]
  unfold Value.recordOrEmpty
  rw [getAccountSection]
  cases ((accountsOf channelSection).get accountId).record? with
  | some fromAccount => exact ⟨fun _ => .inl rfl, fun _ => rfl⟩
  | none =>
      rw [sameSettings_iff]
      constructor
      · exact fun hsame => .inr hsame.symm
      · rintro (hsome | hsame)
        · cases hsome
        · exact hsame.symm

end Named

end Sections

/-- **The enable flag obeys the laws of getting and setting**, in every configuration and for
every account and flag, exactly if the flag of the account can be set. -/
theorem flag_laws_iff (number : Value → JsNumber) (cfg : Json) (accountId : Value)
    (enabled : Bool) :
    FlagLaws number (.ofJson cfg) accountId enabled ↔
      FlagIsFree number (.ofJson cfg) accountId enabled := by
  have hparsed := Value.parsed_ofJson cfg
  have hsection := hparsed.get_recordOrEmpty "channels" |>.get_recordOrEmpty mobileChannelId
  have haccounts := hsection.get_recordOrEmpty "accounts"
  have hproto : (getChannelSection (.ofJson cfg)).proto = none := hsection.proto_recordOrEmpty
  have hlaws : FlagLaws number (.ofJson cfg) accountId enabled ↔ _ ∧ _ :=
    ⟨fun hlaws => ⟨hlaws.own, hlaws.others⟩, fun hlaws => ⟨hlaws.1, hlaws.2⟩⟩
  rw [hlaws]
  unfold resolveAccount FlagIsFree
  rw [getChannelSection_setAccountEnabled hparsed]
  dsimp only
  by_cases hdefault : resolvedAccountId accountId = defaultAccountId
  · rw [if_pos hdefault, hdefault, writeFlag, if_pos rfl]
    simp only [getAccountSection_set_enabled]
    rw [own_default_iff hproto]
    apply and_congr_right
    intro _
    rw [← forall_or_left]
    apply forall_congr'
    intro other
    rw [← forall_or_left]
    apply forall_congr'
    intro _
    exact other_default_iff hproto _ _ enabled
  · rw [if_neg hdefault]
    refine ⟨fun hlaws => (own_named_iff haccounts hdefault enabled).mp hlaws.1, ?_⟩
    refine fun hfree => ⟨?_, ?_⟩
    · exact (own_named_iff haccounts hdefault enabled).mpr hfree
    · exact fun other hother => other_named haccounts hdefault hother enabled

/-- The account section of `default` has a flag of its own: switching `default` off changes
nothing for it. -/
theorem default_stays_on : ¬∀ (number : Value → JsNumber) (cfg : Json) (accountId : Value)
    (enabled : Bool), FlagLaws number (.ofJson cfg) accountId enabled := by
  intro hall
  have hlaws := hall (fun _ => .nan)
    (.obj [("channels", .obj [("openclaw-mobile",
      .obj [("accounts", .obj [("default", .obj [("enabled", .bool true)])])])])])
    (.str "default") false
  have hflag := congrArg ResolvedAccount.enabled hlaws.own
  cases hflag

end OpenClaw.Desktop

import Mathlib.Data.String.Basic
import OpenClaw.Runtime.JsonEdit
import OpenClaw.Runtime.Text

/-!
# Writing the channel into OpenClaw's configuration

Whenever the gateway is started, `apply_openclaw_mobile_channel_overrides` rewrites the
configuration file: the origins of the desktop shell are always allowed, and the plugin and
the channel `openclaw-mobile` are enabled when the channel is set up and removed otherwise.
A node on the way to one of these three that is not an object is replaced or, by a removal,
dropped; a removal also drops the containers it empties.
-/

namespace OpenClaw.Desktop

open OpenClaw.Runtime StableSort Edit

/-- What `StoredConfig` says of the channel. -/
structure ChannelSettings where
  channelServerBaseUrl : Option String
  channelDeviceId : Option String

/-! ## The rewriting -/

def desktopShellAllowedOrigins : List String :=
  ["tauri://localhost", "http://tauri.localhost", "https://tauri.localhost",
    "http://localhost:1420", "http://127.0.0.1:1420"]

/-- The origins in the configuration, trimmed. -/
def existingOrigins : Option Json → List String
  | some (.arr elements) =>
      elements.filterMap fun value =>
        match value with
        | .str origin => if unicodeTrim origin = "" then none else some (unicodeTrim origin)
        | _ => none
  | _ => []

/-- The `BTreeSet` of the origins, in its order. -/
def allowedOrigins (existing : Option Json) : List String :=
  dropRepeats (sortBy compare (existingOrigins existing ++ desktopShellAllowedOrigins))

def setAllowedOrigins : Edit := fun existing => some (.arr ((allowedOrigins existing).map .str))

/-- Edit a field of what is made an object. -/
def editField (key : String) (edit : Edit) (root : Json) : Json :=
  .obj (atField key edit (objectFields (some root)))

def gatewayEdit : Edit :=
  ensured (atField "controlUi" (ensured (atField "allowedOrigins" setAllowedOrigins)))

def syncGatewayControlUiAllowedOrigins (root : Json) : Json := editField "gateway" gatewayEdit root

def enablePlugin : Edit :=
  ensured (atField "entries"
    (ensured (atField "openclaw-mobile" (ensured (atField "enabled" (set (.bool true)))))))

def removePlugin : Edit := pruned (atField "entries" (pruned (atField "openclaw-mobile" remove)))

def setAccount (url device : String) (channel : Fields) : Fields :=
  let channel := atField "enabled" (set (.bool true)) channel
  let channel := atField "serverBaseUrl" (set (.str url)) channel
  atField "desktopDeviceId" (set (.str device)) channel

def enableChannel (url device : String) : Edit :=
  ensured (atField "openclaw-mobile" (ensured (setAccount url device)))

def removeChannel : Edit := pruned (atField "openclaw-mobile" remove)

/-- `setting.map(str::trim).filter(|v| !v.is_empty())`. -/
def trimmedSetting (setting : Option String) : Option String :=
  (setting.map unicodeTrim).filter fun value => decide (value ≠ "")

/-- The address and the device, when the channel is to be enabled. -/
def ChannelSettings.account (settings : ChannelSettings) : Option (String × String) :=
  (trimmedSetting settings.channelServerBaseUrl).bind fun url =>
    (trimmedSetting settings.channelDeviceId).map fun device => (url, device)

def pluginEdit : Option (String × String) → Edit
  | some _ => enablePlugin
  | none => removePlugin

def channelEdit : Option (String × String) → Edit
  | some (url, device) => enableChannel url device
  | none => removeChannel

/-- The configuration after the rewriting. -/
def overridden (settings : ChannelSettings) (root : Json) : Json :=
  editField "channels" (channelEdit settings.account)
    (editField "plugins" (pluginEdit settings.account) (syncGatewayControlUiAllowedOrigins root))

/-- What is returned and what is written, if the first is true. -/
def applyOpenclawMobileChannelOverrides (settings : ChannelSettings) (root : Json) :
    Bool × Json :=
  (decide (overridden settings root ≠ root), overridden settings root)

/-! ## The three own keys -/

def originsPath : List String := ["gateway", "controlUi", "allowedOrigins"]

def pluginPath : List String := ["plugins", "entries", "openclaw-mobile"]

def channelPath : List String := ["channels", "openclaw-mobile"]

def ownPaths : List (List String) := [originsPath, pluginPath, channelPath]

/-- The value at a path of the configuration. -/
def valueAt (root : Json) (path : List String) : Option Json := lookup path (some root)

/-- What the rewriting does to a configuration. -/
structure TouchesOwnKeys (settings : ChannelSettings) (root : Json) : Prop where
  again : (applyOpenclawMobileChannelOverrides settings (overridden settings root)).1 = false
  /-- What is neither on the way to an own key nor at or below it stays. -/
  outside : ∀ path, (∀ own ∈ ownPaths, Apart path own) →
    valueAt (overridden settings root) path = valueAt root path
  /-- On the way to the origins there are objects, and, when the channel is enabled, on the
  way to the plugin and to the channel. -/
  objects : ∀ path, path <+: ["gateway", "controlUi"] ∨
      settings.account.isSome ∧ (path <+: pluginPath ∨ path <+: channelPath) →
    ∃ fields, valueAt (overridden settings root) path = some (.obj fields)
  /-- When the channel is disabled, the plugin and the channel are gone, and a container on
  the way to them is left exactly if it holds something else. -/
  left : settings.account = none → ∀ own ∈ [pluginPath, channelPath],
    ∀ path, path ≠ [] → path <+: own →
      ((valueAt (overridden settings root) path).isSome ↔
        ∃ inner, path <+: inner ∧ Apart inner own ∧ (valueAt root inner).isSome)

/-! ## The origins -/

theorem mem_allowedOrigins {existing : Option Json} {origin : String} :
    origin ∈ allowedOrigins existing ↔
      origin ∈ existingOrigins existing ∨ origin ∈ desktopShellAllowedOrigins := by
  unfold allowedOrigins
  rw [mem_dropRepeats, mem_sortBy, List.mem_append]

theorem existingOrigins_clean {existing : Option Json} {origin : String}
    (hmem : origin ∈ existingOrigins existing) : unicodeTrim origin = origin ∧ origin ≠ "" := by
  unfold existingOrigins at hmem
  split at hmem
  · obtain ⟨value, -, hvalue⟩ := List.mem_filterMap.mp hmem
    split at hvalue
    · split at hvalue
      · cases hvalue
      · next hne =>
          cases hvalue
          exact ⟨trim_trim _, hne⟩
    · cases hvalue
  · cases hmem

theorem shellOrigins_clean : ∀ origin ∈ desktopShellAllowedOrigins,
    unicodeTrim origin = origin ∧ origin ≠ "" := by
  decide

/-- What was written is read back. -/
theorem existingOrigins_strs {origins : List String}
    (hclean : ∀ origin ∈ origins, unicodeTrim origin = origin ∧ origin ≠ "") :
    existingOrigins (some (.arr (origins.map .str))) = origins := by
  unfold existingOrigins
  dsimp only
  induction origins with
  | nil => rfl
  | cons origin rest ih =>
      rw [List.forall_mem_cons] at hclean
      rw [List.map_cons, List.filterMap_cons, ih hclean.2]
      dsimp only
      rw [if_neg (by rw [hclean.1.1]; exact hclean.1.2), hclean.1.1]

theorem pairwise_lt_allowedOrigins (existing : Option Json) :
    (allowedOrigins existing).Pairwise (· < ·) := by
  apply pairwise_lt_dropRepeats
  exact (pairwise_sortBy _).imp fun hbelow =>
    compare_le_iff_le.mp (Ordering.ne_gt_iff_isLE.mpr hbelow)

/-- The list is determined by what is in it. -/
theorem allowedOrigins_eq {left right : Option Json}
    (hmem : ∀ origin, origin ∈ allowedOrigins left ↔ origin ∈ allowedOrigins right) :
    allowedOrigins left = allowedOrigins right := by
  have hnodup : (allowedOrigins right).Nodup := (pairwise_lt_allowedOrigins right).imp ne_of_lt
  have hlist : ∀ {existing : Option Json} {origin : String},
      origin ∈ existingOrigins existing ++ desktopShellAllowedOrigins ↔
        origin ∈ allowedOrigins existing :=
    List.mem_append.trans mem_allowedOrigins.symm
  calc allowedOrigins left
      = sortBy compare (allowedOrigins right) :=
        dropRepeats_sortBy_eq hnodup fun origin => hlist.trans (hmem origin)
    _ = allowedOrigins right :=
        (dropRepeats_sortBy_eq hnodup fun origin => hlist).symm

theorem settled_setAllowedOrigins : Settled setAllowedOrigins := by
  intro existing
  have hclean : ∀ origin ∈ allowedOrigins existing, unicodeTrim origin = origin ∧ origin ≠ "" := by
    intro origin hmem
    rcases mem_allowedOrigins.mp hmem with hold | hshell
    · exact existingOrigins_clean hold
    · exact shellOrigins_clean origin hshell
  have hsame : allowedOrigins (setAllowedOrigins existing) = allowedOrigins existing := by
    apply allowedOrigins_eq
    intro origin
    rw [mem_allowedOrigins, setAllowedOrigins, existingOrigins_strs hclean, or_iff_left_iff_imp]
    exact fun hshell => mem_allowedOrigins.mpr (.inr hshell)
  show some (Json.arr ((allowedOrigins (setAllowedOrigins existing)).map .str)) = _
  rw [hsame]
  rfl

/-! ## The three edits -/

theorem settled_gatewayEdit : Settled gatewayEdit :=
  settled_ensured ((settled_ensured (settled_setAllowedOrigins.atField "allowedOrigins")).atField
    "controlUi")

theorem settled_pluginEdit (account : Option (String × String)) : Settled (pluginEdit account) := by
  cases account with
  | none =>
      exact settled_pruned ((settled_pruned (settled_remove.atField "openclaw-mobile")).atField
        "entries")
  | some account =>
      have hentry := settled_ensured ((settled_set (.bool true)).atField "enabled")
      exact settled_ensured ((settled_ensured (hentry.atField "openclaw-mobile")).atField "entries")

theorem setAccount_setAccount (url device : String) (channel : Fields) :
    setAccount url device (setAccount url device channel) = setAccount url device channel := by
  have hset : ∀ {fields : Fields} {key : String} {json : Json},
      (Json.obj fields).field key = some json → atField key (set json) fields = fields :=
    fun hfield => atField_of_settled hfield.symm
  have henabled : (Json.obj (setAccount url device channel)).field "enabled" =
      some (.bool true) := by
    unfold setAccount
    rw [field_atField_of_ne (by decide), field_atField_of_ne (by decide), field_atField_self]
    rfl
  have hurl : (Json.obj (setAccount url device channel)).field "serverBaseUrl" =
      some (.str url) := by
    unfold setAccount
    rw [field_atField_of_ne (by decide), field_atField_self]
    rfl
  have hdevice : (Json.obj (setAccount url device channel)).field "desktopDeviceId" =
      some (.str device) := by
    unfold setAccount
    rw [field_atField_self]
    rfl
  rw [setAccount, hset henabled, hset hurl, hset hdevice]

theorem settled_channelEdit (account : Option (String × String)) :
    Settled (channelEdit account) := by
  cases account with
  | none => exact settled_pruned (settled_remove.atField "openclaw-mobile")
  | some account =>
      obtain ⟨url, device⟩ := account
      apply settled_ensured
      exact (settled_ensured (setAccount_setAccount url device)).atField "openclaw-mobile"

theorem frames_gatewayEdit : Frames ["controlUi", "allowedOrigins"] gatewayEdit :=
  (frames_nil setAllowedOrigins).ensured.ensured

theorem frames_pluginEdit (account : Option (String × String)) :
    Frames ["entries", "openclaw-mobile"] (pluginEdit account) := by
  cases account with
  | none => exact (frames_nil remove).pruned.pruned
  | some account => exact (frames_nil (ensured _)).ensured.ensured

theorem frames_channelEdit (account : Option (String × String)) :
    Frames ["openclaw-mobile"] (channelEdit account) := by
  cases account with
  | none => exact (frames_nil remove).pruned
  | some account => exact (frames_nil (ensured _)).ensured

/-! ## The whole rewriting -/

theorem field_editField (key other : String) (edit : Edit) (root : Json) :
    (editField key edit root).field other =
      if other = key then edit (root.field key) else root.field other := by
  have hfield : ∀ name, (Json.obj (objectFields (some root))).field name = root.field name :=
    fun name => field_objectFields
  unfold editField
  split
  · next hkey => rw [hkey, field_atField_self, hfield]
  · next hkey => rw [field_atField_of_ne hkey, hfield]

theorem editField_of_settled {key : String} {edit : Edit} {fields : Fields}
    (hsettled : edit ((Json.obj fields).field key) = (Json.obj fields).field key) :
    editField key edit (.obj fields) = .obj fields :=
  congrArg Json.obj (atField_of_settled hsettled)

section Overridden

variable (settings : ChannelSettings) (root : Json)

theorem field_overridden (key : String) :
    (overridden settings root).field key =
      if key = "channels" then channelEdit settings.account (root.field "channels")
      else if key = "plugins" then pluginEdit settings.account (root.field "plugins")
      else if key = "gateway" then gatewayEdit (root.field "gateway")
      else root.field key := by
  unfold overridden syncGatewayControlUiAllowedOrigins
  have hplugins : ("channels" : String) ≠ "plugins" := by decide
  have hgateway : ("channels" : String) ≠ "gateway" := by decide
  have hgateway' : ("plugins" : String) ≠ "gateway" := by decide
  simp only [field_editField, hplugins, hgateway, hgateway', if_false]

theorem overridden_overridden :
    overridden settings (overridden settings root) = overridden settings root := by
  have hgateway : gatewayEdit ((overridden settings root).field "gateway") =
      (overridden settings root).field "gateway" := by
    rw [field_overridden]
    exact settled_gatewayEdit _
  have hplugins : pluginEdit settings.account ((overridden settings root).field "plugins") =
      (overridden settings root).field "plugins" := by
    rw [field_overridden]
    exact settled_pluginEdit settings.account _
  have hchannels : channelEdit settings.account ((overridden settings root).field "channels") =
      (overridden settings root).field "channels" := by
    rw [field_overridden]
    exact settled_channelEdit settings.account _
  obtain ⟨fields, hfields⟩ : ∃ fields, overridden settings root = .obj fields := ⟨_, rfl⟩
  rw [hfields] at hgateway hplugins hchannels ⊢
  rw [overridden, syncGatewayControlUiAllowedOrigins, editField_of_settled hgateway,
    editField_of_settled hplugins, editField_of_settled hchannels]

/-- Where an own key begins, its edit decides. -/
theorem valueAt_overridden {key : String} {edit : Edit}
    (hfield : (overridden settings root).field key = edit (root.field key)) (rest : List String) :
    valueAt (overridden settings root) (key :: rest) = lookup rest (edit (root.field key)) :=
  congrArg (lookup rest) hfield

theorem outside_own_keys {path : List String} (hapart : ∀ own ∈ ownPaths, Apart path own) :
    valueAt (overridden settings root) path = valueAt root path := by
  have horigins := hapart originsPath (by simp [ownPaths])
  have hplugin := hapart pluginPath (by simp [ownPaths])
  have hchannel := hapart channelPath (by simp [ownPaths])
  cases path with
  | nil => exact absurd List.nil_prefix horigins.1
  | cons key rest =>
      show lookup rest ((overridden settings root).field key) = lookup rest (root.field key)
      rw [field_overridden]
      split
      · next hkey =>
          rw [hkey] at hchannel ⊢
          exact frames_channelEdit settings.account _ rest (apart_cons_iff.mp hchannel)
      split
      · next hkey =>
          rw [hkey] at hplugin ⊢
          exact frames_pluginEdit settings.account _ rest (apart_cons_iff.mp hplugin)
      split
      · next hkey =>
          rw [hkey] at horigins ⊢
          exact frames_gatewayEdit _ rest (apart_cons_iff.mp horigins)
      · rfl

/-- An edit that builds the rest of a path builds the path. -/
theorem objects_of_builds {key : String} {edit : Edit} {target : List String}
    (hfield : (overridden settings root).field key = edit (root.field key))
    (hbuilds : Builds target edit) {path : List String} (hway : path <+: key :: target) :
    ∃ fields, valueAt (overridden settings root) path = some (.obj fields) := by
  cases path with
  | nil => exact ⟨_, rfl⟩
  | cons other rest =>
      obtain ⟨rfl, hrest⟩ := List.cons_prefix_cons.mp hway
      rw [valueAt_overridden settings root hfield]
      exact hbuilds _ rest hrest

/-- An edit that prunes the rest of a path prunes the path. -/
theorem left_of_prunes {key : String} {edit : Edit} {target : List String}
    (hfield : (overridden settings root).field key = edit (root.field key))
    (hprunes : Prunes target edit) {path : List String} (hpath : path ≠ [])
    (hway : path <+: key :: target) :
    (valueAt (overridden settings root) path).isSome ↔
      ∃ inner, path <+: inner ∧ Apart inner (key :: target) ∧ (valueAt root inner).isSome := by
  cases path with
  | nil => exact absurd rfl hpath
  | cons other rest =>
      obtain ⟨rfl, hrest⟩ := List.cons_prefix_cons.mp hway
      rw [valueAt_overridden settings root hfield, hprunes _ rest hrest]
      constructor
      · rintro ⟨inner, hinner, hapart, hsome⟩
        exact ⟨other :: inner, List.cons_prefix_cons.mpr ⟨rfl, hinner⟩,
          apart_cons_iff.mpr hapart, hsome⟩
      · rintro ⟨inner, ⟨tail, rfl⟩, hapart, hsome⟩
        exact ⟨rest ++ tail, List.prefix_append rest tail, apart_cons_iff.mp hapart, hsome⟩

end Overridden

/-- **The rewriting touches its own keys**, and what stands in the way to them. -/
theorem touches_own_keys (settings : ChannelSettings) (root : Json) :
    TouchesOwnKeys settings root := by
  have hgateway : (overridden settings root).field "gateway" =
      gatewayEdit (root.field "gateway") := field_overridden settings root "gateway"
  have hplugins : (overridden settings root).field "plugins" =
      pluginEdit settings.account (root.field "plugins") := field_overridden settings root "plugins"
  have hchannels : (overridden settings root).field "channels" =
      channelEdit settings.account (root.field "channels") :=
    field_overridden settings root "channels"
  constructor
  case again =>
    show decide (overridden settings (overridden settings root) ≠ overridden settings root) = false
    rw [overridden_overridden]
    exact decide_eq_false fun hne => hne rfl
  case outside => exact fun path hapart => outside_own_keys settings root hapart
  case objects =>
    rintro path (hway | ⟨haccount, hway⟩)
    · exact objects_of_builds settings root hgateway (builds_nil _).ensured hway
    · obtain ⟨⟨url, device⟩, haccount⟩ := Option.isSome_iff_exists.mp haccount
      rw [haccount] at hplugins hchannels
      rcases hway with hway | hway
      · exact objects_of_builds settings root hplugins (builds_nil _).ensured.ensured hway
      · exact objects_of_builds settings root hchannels (builds_nil _).ensured hway
  case left =>
    intro haccount own hown path hpath hway
    rw [haccount] at hplugins hchannels
    have hremove : Prunes ["openclaw-mobile"] removeChannel :=
      prunes_remove.pruned (frames_nil remove)
    rcases List.mem_pair.mp hown with rfl | rfl
    · exact left_of_prunes settings root hplugins
        (hremove.pruned (frames_nil remove).pruned) hpath hway
    · exact left_of_prunes settings root hchannels hremove hpath hway

/-- Disabling the channel drops a text in the place of the plugins. -/
theorem disabling_drops_text : ¬∀ (settings : ChannelSettings) (root : Json) (path : List String)
    (value : Json), (∀ own ∈ ownPaths, ¬own <+: path) → (∀ fields, value ≠ .obj fields) →
      valueAt root path = some value → valueAt (overridden settings root) path = some value := by
  intro hall
  have hkept := hall ⟨none, none⟩ (.obj [("plugins", .str "none")]) ["plugins"] (.str "none")
    (by decide) (fun _ => Json.noConfusion) rfl
  cases hkept

end OpenClaw.Desktop

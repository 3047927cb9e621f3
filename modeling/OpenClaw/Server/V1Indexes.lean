import OpenClaw.Lib.PartialIndex
import OpenClaw.Server.RedisInbox

/-!
# The token indices of the first store

A connection shows a token, and two indices say whose it is: the device of a device
token, the active binding of a mobile token.  Registrations, claims, revocations and the
prune write the indices by hand, and a restart makes them again from the records.  As long
as ids and tokens are drawn fresh the indices are exact, and a user has at most one active
binding with a device.
-/

namespace OpenClaw.Server.V1

open OpenClaw.Runtime

/-! ## Tokens -/

/-- A text that stands in an index as it is. -/
structure Clean (token : String) : Prop where
  trimmed : unicodeTrim token = token
  ne_empty : token ≠ ""

def hexDigits : List Char := "0123456789abcdef".toList

/-- The text that is drawn for ids and tokens of this kind is hexadecimal. -/
def Machine.DrawsHex (machine : Machine) (kind : String) : Prop :=
  ∀ text, machine.random kind = .ok text → ∀ c ∈ text.toList, c ∈ hexDigits

/-- Tokens are drawn as hexadecimal digits, and nothing is drawn that the store has. -/
structure Machine.DrawsFresh (machine : Machine) (store : Store) : Prop where
  deviceHex : machine.DrawsHex "devtok"
  mobileHex : machine.DrawsHex "mobtok"
  deviceToken : ∀ token, machine.makeId "devtok" = .ok token → ∀ deviceId device,
    store.devices.get deviceId = some device → device.deviceToken ≠ token
  mobileToken : ∀ bindingId binding, store.bindings.get bindingId = some binding →
    binding.mobileToken ≠ newMobileToken machine
  bindingId : store.bindings.get ((machine.makeId "bind").toOption.getD "") = none

section Tokens

variable {machine : Machine}

theorem clean_of_not_blank {token : String} (hne : token ≠ "")
    (hchars : ∀ c ∈ token.toList, unicodeBlank c = false) : Clean token where
  trimmed := trim_eq_self hchars
  ne_empty := hne

theorem not_blank_of_all {chars : List Char}
    (hall : (chars.all fun c => !unicodeBlank c) = true) :
    ∀ c ∈ chars, unicodeBlank c = false := by
  intro c hc
  have hblank := List.all_eq_true.mp hall c hc
  rwa [Bool.not_eq_true'] at hblank

theorem unicodeBlank_of_hex : ∀ c ∈ hexDigits, unicodeBlank c = false :=
  not_blank_of_all (by decide)

theorem not_blank_append {first second : String}
    (hfirst : ∀ c ∈ first.toList, unicodeBlank c = false)
    (hsecond : ∀ c ∈ second.toList, unicodeBlank c = false) :
    ∀ c ∈ (first ++ second).toList, unicodeBlank c = false := by
  intro c hc
  rw [String.toList_append, List.mem_append] at hc
  exact hc.elim (hfirst c) (hsecond c)

theorem unicodeBlank_of_isDigit {c : Char} (hdigit : c.isDigit = true) :
    unicodeBlank c = false := by
  unfold Char.isDigit at hdigit
  rw [Bool.and_eq_true, decide_eq_true_eq, decide_eq_true_eq, ge_iff_le,
    UInt32.le_iff_toNat_le, UInt32.le_iff_toNat_le] at hdigit
  have hlow : 48 ≤ c.toNat := hdigit.1
  have hhigh : c.toNat ≤ 57 := hdigit.2
  unfold unicodeBlank
  rw [decide_eq_false_iff_not]
  generalize c.toNat = code at hlow hhigh
  simp only [commonBlanks, List.mem_cons, List.not_mem_nil, or_false]
  omega

theorem not_blank_toString (n : ℕ) : ∀ c ∈ (toString n).toList, unicodeBlank c = false := by
  intro c hc
  have hdigits : (toString n).toList = Nat.toDigits 10 n := by simp
  rw [hdigits] at hc
  exact unicodeBlank_of_isDigit (Nat.isDigit_of_mem_toDigits (by omega) (by omega) hc)

theorem not_blank_toString_int (now : ℤ) :
    ∀ c ∈ (toString now).toList, unicodeBlank c = false := by
  cases now with
  | ofNat n => exact not_blank_toString n
  | negSucc n =>
      show ∀ c ∈ ("-" ++ toString (n + 1)).toList, unicodeBlank c = false
      exact not_blank_append (not_blank_of_all (by decide)) (not_blank_toString (n + 1))

theorem ne_empty_of_append {first : String} (hfirst : first ≠ "") (second : String) :
    first ++ second ≠ "" := by
  intro hempty
  exact hfirst (String.append_eq_empty_iff.mp hempty).1

theorem clean_of_makeId {kind id : String} (hkind : ∀ c ∈ kind.toList, unicodeBlank c = false)
    (hhex : machine.DrawsHex kind) (hdraw : machine.makeId kind = .ok id) : Clean id := by
  unfold Machine.makeId at hdraw
  cases htext : machine.random kind with
  | error error =>
      rw [htext] at hdraw
      cases hdraw
  | ok text =>
      rw [htext] at hdraw
      obtain rfl := Except.ok.inj hdraw
      show Clean (kind ++ "_" ++ text)
      apply clean_of_not_blank
      · rw [String.append_assoc]
        intro hempty
        have hunderscore := (String.append_eq_empty_iff.mp hempty).2
        exact ne_empty_of_append (by decide) text hunderscore
      · apply not_blank_append
        · exact not_blank_append hkind (not_blank_of_all (by decide))
        · exact fun c hc => unicodeBlank_of_hex c (hhex text htext c hc)

/-- Also the token that is made when the generator fails. -/
theorem clean_newMobileToken (hhex : machine.DrawsHex "mobtok") :
    Clean (newMobileToken machine) := by
  unfold newMobileToken
  dsimp only
  split
  · apply clean_of_not_blank
    · exact ne_empty_of_append (by decide) _
    · exact not_blank_append (not_blank_of_all (by decide)) (not_blank_toString_int machine.now)
  · next hblank =>
      cases hdraw : machine.makeId "mobtok" with
      | error error =>
          rw [hdraw] at hblank
          exact absurd trim_empty hblank
      | ok token => exact clean_of_makeId (not_blank_of_all (by decide)) hhex hdraw

end Tokens

/-! ## The invariant -/

/-- Devices and bindings have clean tokens of their own, and a user has at most one active
binding with a device. -/
structure RecordsSound (devices : OrderedMap String Device) (bindings : OrderedMap String Binding) :
    Prop where
  deviceClean : ∀ {deviceId device}, devices.get deviceId = some device →
    Clean device.deviceToken
  mobileClean : ∀ {bindingId binding}, bindings.get bindingId = some binding →
    Clean binding.mobileToken
  deviceDistinct : ∀ {deviceId other device otherDevice}, devices.get deviceId = some device →
    devices.get other = some otherDevice → device.deviceToken = otherDevice.deviceToken →
      deviceId = other
  mobileDistinct : ∀ {bindingId other binding otherBinding},
    bindings.get bindingId = some binding → bindings.get other = some otherBinding →
      binding.mobileToken = otherBinding.mobileToken → bindingId = other
  keyed : bindings.KeyedBy Binding.bindingId
  unique : ∀ {bindingId other binding otherBinding},
    bindings.get bindingId = some binding → bindings.get other = some otherBinding →
      binding.status = .active → otherBinding.status = .active →
        binding.userId = otherBinding.userId → binding.deviceId = otherBinding.deviceId →
          bindingId = other

/-- The records are sound, and the indices have their tokens. -/
structure Store.Exact (store : Store) : Prop where
  sound : RecordsSound store.devices store.bindings
  deviceIndex : PartialIndex store.devices store.deviceTokenIndex Device.deviceToken
    fun _ => True
  mobileIndex : PartialIndex store.bindings store.mobileTokenIndex Binding.mobileToken
    fun binding => binding.status = .active

section Records

variable {devices newDevices : OrderedMap String Device}
  {bindings newBindings : OrderedMap String Binding}

theorem recordsSound_empty : RecordsSound ∅ ∅ where
  deviceClean hget := nomatch hget
  mobileClean hget := nomatch hget
  deviceDistinct hget := nomatch hget
  mobileDistinct hget := nomatch hget
  keyed := .empty
  unique hget := nomatch hget

/-- Records that are left out do no harm. -/
theorem RecordsSound.mono (hsound : RecordsSound devices bindings)
    (hdevices : ∀ {deviceId device}, newDevices.get deviceId = some device →
      devices.get deviceId = some device)
    (hbindings : ∀ {bindingId binding}, newBindings.get bindingId = some binding →
      bindings.get bindingId = some binding) : RecordsSound newDevices newBindings where
  deviceClean hget := hsound.deviceClean (hdevices hget)
  mobileClean hget := hsound.mobileClean (hbindings hget)
  deviceDistinct hget hother := hsound.deviceDistinct (hdevices hget) (hdevices hother)
  mobileDistinct hget hother := hsound.mobileDistinct (hbindings hget) (hbindings hother)
  keyed _ _ hget := hsound.keyed _ _ (hbindings hget)
  unique hget hother := hsound.unique (hbindings hget) (hbindings hother)

theorem RecordsSound.setDevice (hsound : RecordsSound devices bindings) {deviceId : String}
    {device : Device} (hclean : Clean device.deviceToken)
    (hown : ∀ {other otherDevice}, devices.get other = some otherDevice →
      otherDevice.deviceToken = device.deviceToken → other = deviceId) :
    RecordsSound (devices.set deviceId device) bindings where
  deviceClean hget := by
    rw [OrderedMap.get_set] at hget
    split at hget
    · obtain rfl := Option.some.inj hget
      exact hclean
    · exact hsound.deviceClean hget
  mobileClean := hsound.mobileClean
  deviceDistinct := PartialIndex.distinct_set hsound.deviceDistinct hown
  mobileDistinct := hsound.mobileDistinct
  keyed := hsound.keyed
  unique := hsound.unique

theorem RecordsSound.setBinding (hsound : RecordsSound devices bindings) {binding : Binding}
    (hclean : Clean binding.mobileToken)
    (hown : ∀ {other otherBinding}, bindings.get other = some otherBinding →
      otherBinding.mobileToken = binding.mobileToken → other = binding.bindingId)
    (hunique : ∀ {other otherBinding}, bindings.get other = some otherBinding →
      otherBinding.status = .active → binding.status = .active →
        otherBinding.userId = binding.userId → otherBinding.deviceId = binding.deviceId →
          other = binding.bindingId) :
    RecordsSound devices (bindings.set binding.bindingId binding) where
  deviceClean := hsound.deviceClean
  mobileClean hget := by
    rw [OrderedMap.get_set] at hget
    split at hget
    · obtain rfl := Option.some.inj hget
      exact hclean
    · exact hsound.mobileClean hget
  deviceDistinct := hsound.deviceDistinct
  mobileDistinct := PartialIndex.distinct_set hsound.mobileDistinct hown
  keyed := hsound.keyed.set rfl
  unique hget hother hactive hotherActive huser hdevice := by
    rw [OrderedMap.get_set] at hget hother
    split at hget
    · next heq =>
        obtain rfl := Option.some.inj hget
        split at hother
        · next hsame => rw [heq, hsame]
        · rw [heq]
          exact (hunique hother hotherActive hactive huser.symm hdevice.symm).symm
    · split at hother
      · next heq =>
          obtain rfl := Option.some.inj hother
          rw [heq]
          exact hunique hget hactive hotherActive huser hdevice
      · exact hsound.unique hget hother hactive hotherActive huser hdevice

end Records

/-! ## One operation -/

section Operations

variable {machine : Machine} {store next : Store}

/-- The other maps say nothing about tokens. -/
theorem Store.Exact.of_maps (hexact : store.Exact) (hdevices : next.devices = store.devices)
    (hdeviceIndex : next.deviceTokenIndex = store.deviceTokenIndex)
    (hbindings : next.bindings = store.bindings)
    (hmobileIndex : next.mobileTokenIndex = store.mobileTokenIndex) : next.Exact where
  sound := by
    rw [hdevices, hbindings]
    exact hexact.sound
  deviceIndex := by
    rw [hdevices, hdeviceIndex]
    exact hexact.deviceIndex
  mobileIndex := by
    rw [hbindings, hmobileIndex]
    exact hexact.mobileIndex

theorem mem_nonblank {texts : List String} {text : String}
    (hclean : ∀ other ∈ texts, Clean other) : text ∈ nonblank texts ↔ text ∈ texts := by
  unfold nonblank
  rw [List.mem_filter, List.mem_map, decide_eq_true_eq]
  constructor
  · rintro ⟨⟨other, hmem, rfl⟩, -⟩
    rw [(hclean other hmem).trimmed]
    exact hmem
  · intro hmem
    exact ⟨⟨text, hmem, (hclean text hmem).trimmed⟩, (hclean text hmem).ne_empty⟩

theorem get_of_removedDevices {now : ℤ} {deviceId : String} {device : Device}
    (hget : (removedDevices store now).get deviceId = some device) :
    store.devices.get deviceId = some device := by
  unfold removedDevices at hget
  split at hget
  · cases hget
  · exact OrderedMap.get_of_get_filter hget

/-- The token of a device is dropped exactly if the device is. -/
theorem mem_removedTokens (hexact : store.Exact) (now : ℤ) (token : String) :
    token ∈ nonblank ((removedDevices store now).values.map Device.deviceToken) ↔
      ∃ deviceId device, store.devices.get deviceId = some device ∧
        decide (deviceId ∉ (removedDevices store now).keys) = false ∧
          device.deviceToken = token := by
  rw [mem_nonblank]
  · rw [List.mem_map]
    constructor
    · rintro ⟨device, hmem, rfl⟩
      obtain ⟨deviceId, hget⟩ := OrderedMap.mem_values_iff.mp hmem
      refine ⟨deviceId, device, get_of_removedDevices hget, ?_, rfl⟩
      rw [decide_eq_false_iff_not, not_not]
      exact OrderedMap.mem_keys_iff.mpr ⟨device, hget⟩
    · rintro ⟨deviceId, device, hget, hgone, rfl⟩
      rw [decide_eq_false_iff_not, not_not] at hgone
      obtain ⟨removed, hremoved⟩ := OrderedMap.mem_keys_iff.mp hgone
      have hsame := get_of_removedDevices hremoved
      rw [hget] at hsame
      obtain rfl := Option.some.inj hsame
      exact ⟨device, OrderedMap.mem_values_of_get hremoved, rfl⟩
  · intro token hmem
    obtain ⟨device, hdevice, rfl⟩ := List.mem_map.mp hmem
    obtain ⟨deviceId, hget⟩ := OrderedMap.mem_values_iff.mp hdevice
    exact hexact.sound.deviceClean (get_of_removedDevices hget)

/-- So is the token of a binding. -/
theorem mem_removedMobileTokens (hexact : store.Exact) (removed : List String) (token : String) :
    token ∈ nonblank ((store.bindings.values.filter fun binding =>
        binding.deviceId ∈ removed).map Binding.mobileToken) ↔
      ∃ bindingId binding, store.bindings.get bindingId = some binding ∧
        decide (binding.deviceId ∉ removed) = false ∧ binding.mobileToken = token := by
  rw [mem_nonblank]
  · rw [List.mem_map]
    constructor
    · rintro ⟨binding, hmem, rfl⟩
      obtain ⟨hvalue, hgone⟩ := List.mem_filter.mp hmem
      obtain ⟨bindingId, hget⟩ := OrderedMap.mem_values_iff.mp hvalue
      refine ⟨bindingId, binding, hget, ?_, rfl⟩
      rw [decide_eq_false_iff_not, not_not]
      exact of_decide_eq_true hgone
    · rintro ⟨bindingId, binding, hget, hgone, rfl⟩
      rw [decide_eq_false_iff_not, not_not] at hgone
      exact ⟨binding, List.mem_filter.mpr ⟨OrderedMap.mem_values_of_get hget,
        decide_eq_true hgone⟩, rfl⟩
  · intro token hmem
    obtain ⟨binding, hbinding, rfl⟩ := List.mem_map.mp hmem
    obtain ⟨bindingId, hget⟩ := OrderedMap.mem_values_iff.mp (List.mem_filter.mp hbinding).1
    exact hexact.sound.mobileClean hget

theorem get_devices_prune {now : ℤ} {deviceId : String} {device : Device}
    (hget : (pruneInactiveDevicesLocked store now).devices.get deviceId = some device) :
    store.devices.get deviceId = some device := by
  unfold pruneInactiveDevicesLocked at hget
  exact OrderedMap.get_of_get_filter hget

theorem Store.Exact.prune (hexact : store.Exact) (now : ℤ) :
    (pruneInactiveDevicesLocked store now).Exact where
  sound := hexact.sound.mono get_devices_prune get_bindings_prune
  deviceIndex := hexact.deviceIndex.filter (mem_removedTokens hexact now)
  mobileIndex := hexact.mobileIndex.filter (mem_removedMobileTokens hexact _)

/-- What is drawn fresh is fresh after the prune. -/
theorem Machine.DrawsFresh.prune (hdraws : machine.DrawsFresh store) (now : ℤ) :
    machine.DrawsFresh (pruneInactiveDevicesLocked store now) where
  deviceHex := hdraws.deviceHex
  mobileHex := hdraws.mobileHex
  deviceToken token hdraw deviceId device hget :=
    hdraws.deviceToken token hdraw deviceId device (get_devices_prune hget)
  mobileToken bindingId binding hget :=
    hdraws.mobileToken bindingId binding (get_bindings_prune hget)
  bindingId := by
    cases hget : (pruneInactiveDevicesLocked store now).bindings.get _ with
    | none => rfl
    | some binding =>
        have hold := get_bindings_prune hget
        rw [hdraws.bindingId] at hold
        cases hold

/-- A device is written again with the token that it had. -/
theorem Store.Exact.updateDevice (hexact : store.Exact) {deviceId : String} {old new : Device}
    (hget : store.devices.get deviceId = some old) (htoken : new.deviceToken = old.deviceToken) :
    Store.Exact { store with devices := store.devices.set deviceId new } where
  sound := by
    apply hexact.sound.setDevice
    · rw [htoken]
      exact hexact.sound.deviceClean hget
    · intro other otherDevice hother hsame
      exact hexact.sound.deviceDistinct hother hget (hsame.trans htoken)
  deviceIndex := hexact.deviceIndex.update hget htoken Iff.rfl
  mobileIndex := hexact.mobileIndex

theorem Store.Exact.registerDevice (hexact : store.Exact) (hdraws : machine.DrawsFresh store)
    (req : RegisterDeviceRequest) (credentialToken : String) :
    (registerDevice machine store req credentialToken).1.Exact := by
  unfold V1.registerDevice
  split
  · exact hexact
  next deviceId _ =>
  have hpruned := hexact.prune machine.now
  have hfresh := hdraws.prune machine.now
  dsimp only
  generalize pruneInactiveDevicesLocked store machine.now = pruned at hpruned hfresh ⊢
  split
  · exact hpruned
  next found hfound =>
  dsimp only
  unfold registeredDevice at hfound
  split at hfound
  · next old hget =>
      split at hfound
      · cases hfound
      · obtain rfl := Except.ok.inj hfound
        have hclean := hpruned.sound.deviceClean hget
        rw [if_neg (by rw [hclean.trimmed]; exact hclean.ne_empty)]
        have hupdated := @Store.Exact.updateDevice pruned hpruned deviceId old
          { old with
            platform := trimOr "unknown" req.platform
            appVersion := trimOr "unknown" req.appVersion
            capabilities := some ((req.capabilities.orElse fun _ => old.capabilities).getD
              (.obj []))
            status := "online"
            lastSeenAt := machine.now
            updatedAt := machine.now } hget rfl
        refine ⟨hupdated.sound, ?_, hupdated.mobileIndex⟩
        exact hpruned.deviceIndex.refresh hget rfl trivial trivial
  · next hnone =>
      split at hfound
      · cases hfound
      · next token hdraw =>
          obtain rfl := Except.ok.inj hfound
          have hclean : Clean token :=
            clean_of_makeId (not_blank_of_all (by decide)) hfresh.deviceHex hdraw
          rw [if_neg (by rw [hclean.trimmed]; exact hclean.ne_empty)]
          have hother : ∀ {other device}, pruned.devices.get other = some device →
              device.deviceToken ≠ token := fun hget => hfresh.deviceToken token hdraw _ _ hget
          constructor
          · apply hpruned.sound.setDevice hclean
            intro other device hget hsame
            exact absurd hsame (hother hget)
          · exact hpruned.deviceIndex.insert hnone hother trivial
          · exact hpruned.mobileIndex

theorem Store.Exact.heartbeatDevice (hexact : store.Exact) (deviceId : String) :
    (heartbeatDevice machine store deviceId).1.Exact := by
  unfold V1.heartbeatDevice
  split
  · exact hexact
  have hpruned := hexact.prune machine.now
  dsimp only
  split
  · exact hpruned
  · next hget => exact hpruned.updateDevice hget rfl

theorem Store.Exact.createPairSession (hexact : store.Exact) (deviceId : String)
    (ttlSeconds : ℤ) : (createPairSession machine store deviceId ttlSeconds).1.Exact := by
  unfold V1.createPairSession
  split
  · exact hexact
  have hpruned := hexact.prune machine.now
  dsimp only
  split
  · exact hpruned
  split
  · exact hpruned
  · exact hpruned.of_maps rfl rfl rfl rfl

/-- The binding that is found is an active one of the user with the device. -/
theorem get_of_getActiveBindingLocked (hkeyed : store.bindings.KeyedBy Binding.bindingId)
    {userId deviceId : String} {binding : Binding}
    (hfound : getActiveBindingLocked machine store userId deviceId = some binding) :
    store.bindings.get binding.bindingId = some binding ∧ binding.status = .active ∧
      binding.userId = userId ∧ binding.deviceId = deviceId := by
  obtain ⟨hmem, -⟩ := mem_of_getActiveBindingLocked hfound
  obtain ⟨bindingId, hget⟩ := OrderedMap.mem_values_iff.mp hmem
  unfold getActiveBindingLocked at hfound
  have hchecked := List.find?_some hfound
  rw [← hkeyed _ _ hget] at hget
  exact ⟨hget, of_decide_eq_true hchecked⟩

/-- Where none is found, there is none. -/
theorem not_active_of_getActiveBindingLocked {userId deviceId bindingId : String}
    {binding : Binding} (hfound : getActiveBindingLocked machine store userId deviceId = none)
    (hget : store.bindings.get bindingId = some binding) (huser : binding.userId = userId)
    (hdevice : binding.deviceId = deviceId) : binding.status ≠ .active := by
  intro hactive
  unfold getActiveBindingLocked at hfound
  have hmem := machine.iter.mem_order.mpr (OrderedMap.mem_values_of_get hget)
  have hnot := List.find?_eq_none.mp hfound binding hmem
  exact hnot (decide_eq_true ⟨hactive, huser, hdevice⟩)

/-- A new active binding, and its token. -/
theorem Store.Exact.insertBinding (hexact : store.Exact) {binding : Binding}
    (hclean : Clean binding.mobileToken)
    (hfresh : ∀ {other otherBinding}, store.bindings.get other = some otherBinding →
      otherBinding.mobileToken ≠ binding.mobileToken)
    (hid : store.bindings.get binding.bindingId = none) (hactive : binding.status = .active)
    (hfirst : getActiveBindingLocked machine store binding.userId binding.deviceId = none)
    (hdevices : next.devices = store.devices)
    (hdeviceIndex : next.deviceTokenIndex = store.deviceTokenIndex)
    (hbindings : next.bindings = store.bindings.set binding.bindingId binding)
    (hmobileIndex : next.mobileTokenIndex =
      store.mobileTokenIndex.set binding.mobileToken binding.bindingId) : next.Exact where
  sound := by
    rw [hdevices, hbindings]
    apply hexact.sound.setBinding hclean
    · intro other otherBinding hget hsame
      exact absurd hsame (hfresh hget)
    · intro other otherBinding hget hotherActive _ huser hdevice
      have hnot := not_active_of_getActiveBindingLocked hfirst hget huser hdevice
      exact absurd hotherActive hnot
  deviceIndex := by
    rw [hdevices, hdeviceIndex]
    exact hexact.deviceIndex
  mobileIndex := by
    rw [hbindings, hmobileIndex]
    exact hexact.mobileIndex.insert hid hfresh hactive

/-- The token of an active binding is replaced. -/
theorem Store.Exact.rotateToken (hexact : store.Exact) {old new : Binding}
    (hget : store.bindings.get old.bindingId = some old) (hold : old.status = .active)
    (hclean : Clean new.mobileToken)
    (hfresh : ∀ {other otherBinding}, store.bindings.get other = some otherBinding →
      otherBinding.mobileToken ≠ new.mobileToken)
    (hid : new.bindingId = old.bindingId) (huser : new.userId = old.userId)
    (hdevice : new.deviceId = old.deviceId) (hactive : new.status = .active)
    (hdevices : next.devices = store.devices)
    (hdeviceIndex : next.deviceTokenIndex = store.deviceTokenIndex)
    (hbindings : next.bindings = store.bindings.set new.bindingId new)
    (hmobileIndex : next.mobileTokenIndex =
      (store.mobileTokenIndex.erase old.mobileToken).set new.mobileToken new.bindingId) :
    next.Exact where
  sound := by
    rw [hdevices, hbindings]
    apply hexact.sound.setBinding hclean
    · intro other otherBinding hother hsame
      exact absurd hsame (hfresh hother)
    · intro other otherBinding hother hotherActive _ hotherUser hotherDevice
      rw [hid]
      exact hexact.sound.unique hother hget hotherActive hold (hotherUser.trans huser)
        (hotherDevice.trans hdevice)
  deviceIndex := by
    rw [hdevices, hdeviceIndex]
    exact hexact.deviceIndex
  mobileIndex := by
    rw [hbindings, hmobileIndex, hid]
    exact hexact.mobileIndex.relabel hget hfresh hactive

theorem mobileToken_bindingOfClaim (machine : Machine) (existing : Option Binding)
    (userId deviceId mobileId : String) :
    (bindingOfClaim machine existing userId deviceId mobileId).mobileToken =
      newMobileToken machine := by
  cases existing with
  | none => rw [bindingOfClaim]
  | some old => rw [bindingOfClaim]

theorem Store.Exact.claimSessionLocked (hexact : store.Exact) (hdraws : machine.DrawsFresh store)
    (session : PairSession) (userId mobileId : String) :
    (claimSessionLocked machine store session userId mobileId).1.Exact := by
  have hclean := clean_newMobileToken hdraws.mobileHex
  have hfresh : ∀ {other binding}, store.bindings.get other = some binding →
      binding.mobileToken ≠ newMobileToken machine := fun hget => hdraws.mobileToken _ _ hget
  unfold V1.claimSessionLocked
  dsimp only
  cases hfound : getActiveBindingLocked machine store userId session.deviceId with
  | none =>
      have htoken := mobileToken_bindingOfClaim machine none userId session.deviceId mobileId
      have hid := hdraws.bindingId
      rw [← htoken] at hclean hfresh
      refine hexact.insertBinding hclean hfresh hid rfl hfound ?_ ?_ ?_ ?_
      · rfl
      · rfl
      · rfl
      · rw [if_neg hclean.ne_empty]
        rfl
  | some old =>
      obtain ⟨hget, hactive, huser, hdevice⟩ :=
        get_of_getActiveBindingLocked hexact.sound.keyed hfound
      have hold := hexact.sound.mobileClean hget
      have htoken := mobileToken_bindingOfClaim machine (some old) userId session.deviceId mobileId
      rw [← htoken] at hclean hfresh
      refine hexact.rotateToken hget hactive hclean hfresh rfl rfl rfl hactive ?_ ?_ ?_ ?_
      · rfl
      · rfl
      · rfl
      · rw [if_neg hclean.ne_empty, Option.map_some, Option.getD_some, dropMobileToken,
          if_neg hold.ne_empty]

theorem Store.Exact.claimWith (hexact : store.Exact) (hdraws : machine.DrawsFresh store)
    (index : OrderedMap String String) (field credential userId mobileId : String) :
    (claimWith machine store index field credential userId mobileId).1.Exact := by
  unfold V1.claimWith
  split
  · exact hexact
  split
  · exact hexact
  split
  · exact hexact
  unfold claimFound
  dsimp only
  split
  · split
    · exact hexact.claimSessionLocked hdraws _ _ _
    · exact hexact
  · exact hexact
  · split
    · exact hexact.of_maps rfl rfl rfl rfl
    · exact hexact.claimSessionLocked hdraws _ _ _

/-- The binding that is revoked stands under its id. -/
theorem get_of_bindingToRevoke (hkeyed : store.bindings.KeyedBy Binding.bindingId)
    {req : RevokePairRequest} {binding : Binding}
    (hfound : bindingToRevoke machine store req = some binding) :
    store.bindings.get binding.bindingId = some binding := by
  unfold bindingToRevoke at hfound
  split at hfound
  · rw [hkeyed _ _ hfound]
    exact hfound
  · split at hfound
    · exact (get_of_getActiveBindingLocked hkeyed hfound).1
    · cases hfound

theorem Store.Exact.revokePair (hexact : store.Exact) (req : RevokePairRequest) :
    (revokePair machine store req).1.Exact := by
  unfold V1.revokePair
  split
  · exact hexact
  next binding hfound =>
  have hget := get_of_bindingToRevoke hexact.sound.keyed hfound
  have hclean := hexact.sound.mobileClean hget
  unfold dropMobileToken
  dsimp only
  rw [if_neg hclean.ne_empty]
  constructor
  · refine @RecordsSound.setBinding store.devices store.bindings hexact.sound
      { binding with status := .revoked, updatedAt := machine.now } hclean ?_ ?_
    · intro other otherBinding hother hsame
      exact hexact.sound.mobileDistinct hother hget hsame
    · intro other otherBinding _ _ hrevoked
      cases hrevoked
  · exact hexact.deviceIndex
  · refine hexact.mobileIndex.close hget rfl ?_
    intro hrevoked
    cases hrevoked

/-! ## Indices made anew -/

/-- **The indices of a restart** are exact if the records are sound. -/
theorem exact_rebuildAuthIndexes (hsound : RecordsSound store.devices store.bindings)
    (iter : IterOrder) : (rebuildAuthIndexes iter store).Exact where
  sound := hsound
  deviceIndex := by
    have hfold : (rebuildAuthIndexes iter store).deviceTokenIndex =
        (iter.order store.devices.entries).foldl
          (PartialIndex.indexRow Device.deviceToken fun _ => True) ∅ := by
      unfold rebuildAuthIndexes
      apply List.foldl_ext
      intro index entry hentry
      rw [IterOrder.mem_order] at hentry
      have hclean := hsound.deviceClean (OrderedMap.get_eq_some_iff.mpr hentry)
      rw [hclean.trimmed, if_neg hclean.ne_empty, PartialIndex.indexRow, if_pos trivial]
    rw [hfold]
    exact PartialIndex.rebuild (iter.perm store.devices.entries) hsound.deviceDistinct
  mobileIndex := by
    have hfold : (rebuildAuthIndexes iter store).mobileTokenIndex =
        (iter.order store.bindings.entries).foldl
          (PartialIndex.indexRow Binding.mobileToken fun binding => binding.status = .active)
          ∅ := by
      unfold rebuildAuthIndexes
      apply List.foldl_ext
      intro index entry hentry
      rw [IterOrder.mem_order] at hentry
      have hclean := hsound.mobileClean (OrderedMap.get_eq_some_iff.mpr hentry)
      rw [hclean.trimmed, PartialIndex.indexRow]
      by_cases hactive : entry.2.status = .active
      · rw [if_pos hactive, if_neg]
        exact fun hskip => hskip.elim (fun hnot => hnot hactive) hclean.ne_empty
      · rw [if_neg hactive, if_pos (Or.inl hactive)]
    rw [hfold]
    exact PartialIndex.rebuild (iter.perm store.bindings.entries) hsound.mobileDistinct

theorem Store.Exact.perform (hexact : store.Exact) (hdraws : machine.DrawsFresh store)
    (operation : Operation) : (perform machine store operation).1.Exact := by
  cases operation with
  | registerDevice req credentialToken =>
      dsimp only [V1.perform, answer]
      exact hexact.registerDevice hdraws req credentialToken
  | heartbeatDevice deviceId =>
      dsimp only [V1.perform, answer]
      exact hexact.heartbeatDevice deviceId
  | createPairSession deviceId ttlSeconds =>
      dsimp only [V1.perform, answer]
      exact hexact.createPairSession deviceId ttlSeconds
  | claimByToken req =>
      dsimp only [V1.perform, answer, claimByToken]
      exact hexact.claimWith hdraws _ _ _ _ _
  | claimByCode req =>
      dsimp only [V1.perform, answer, claimByCode]
      exact hexact.claimWith hdraws _ _ _ _ _
  | revokePair req =>
      dsimp only [V1.perform, answer]
      exact hexact.revokePair req
  | pruneInactiveDevices => exact hexact.prune machine.now
  | restore => exact exact_rebuildAuthIndexes hexact.sound machine.iter

end Operations

/-! ## Runs -/

namespace Inbox

/-- An operation of the store draws what is fresh. -/
def DrawsFresh (inbox : Inbox) : Event → Prop
  | .mutate machine _ => machine.DrawsFresh inbox.store
  | _ => True

/-- The store is exact, and the records of Redis and of a snapshot that is on its way there
are sound. -/
structure Sound (inbox : Inbox) : Prop where
  store : inbox.store.Exact
  redis : RecordsSound inbox.redis.devices inbox.redis.bindings
  persist : match inbox.persist with
    | .idle => True
    | .snapshotted snapshot _ => RecordsSound snapshot.devices snapshot.bindings
    | .listed snapshot _ _ => RecordsSound snapshot.devices snapshot.bindings

/-- A server that starts reads sound records and makes the indices from them. -/
theorem exact_hydrateFromRedis {redis : Redis} (hsound : RecordsSound redis.devices redis.bindings)
    (now : ℤ) (iter : IterOrder) : (hydrateFromRedis redis now iter).Exact := by
  unfold hydrateFromRedis
  apply exact_rebuildAuthIndexes
  exact hsound.mono OrderedMap.get_of_get_filter OrderedMap.get_of_get_filter

theorem recordsSound_exec {snapshot : Store}
    (hsound : RecordsSound snapshot.devices snapshot.bindings) (redis : Redis) (now : ℤ)
    (queueKeys : List String) (iter : IterOrder) (execAt : ℤ) :
    RecordsSound (V1.exec redis snapshot now queueKeys iter execAt).devices
      (V1.exec redis snapshot now queueKeys iter execAt).bindings :=
  hsound.mono OrderedMap.get_of_get_filter OrderedMap.get_of_get_filter

theorem sound_step {inbox : Inbox} (hsound : inbox.Sound) {event : Event}
    (hdraws : inbox.DrawsFresh event) : (inbox.step event).Sound := by
  have hpersist := hsound.persist
  cases event with
  | push toType toId event => exact ⟨hsound.store, hsound.redis, hsound.persist⟩
  | pull clientType clientId limit =>
      refine ⟨hsound.store, ?_, hsound.persist⟩
      unfold step pullSignalInbox pullQueueScript
      dsimp only
      split
      · exact hsound.redis
      · exact hsound.redis
  | mutate machine operation =>
      exact ⟨hsound.store.perform hdraws operation, hsound.redis, hsound.persist⟩
  | takeSnapshot now =>
      unfold step
      cases hidle : inbox.persist with
      | idle => exact ⟨hsound.store, hsound.redis, hsound.store.sound⟩
      | snapshotted => exact hsound
      | listed => exact hsound
  | listQueues =>
      unfold step
      cases hlist : inbox.persist with
      | idle => exact hsound
      | snapshotted snapshot now =>
          rw [hlist] at hpersist
          exact ⟨hsound.store, hsound.redis, hpersist⟩
      | listed => exact hsound
  | exec iter execAt =>
      unfold step
      cases hexec : inbox.persist with
      | idle => exact hsound
      | snapshotted => exact hsound
      | listed snapshot now queueKeys =>
          rw [hexec] at hpersist
          exact ⟨hsound.store, recordsSound_exec hpersist _ _ _ _ _, trivial⟩
  | restart now iter =>
      exact ⟨exact_hydrateFromRedis hsound.redis now iter, hsound.redis, trivial⟩

theorem sound_run {now : ℤ} {iter : IterOrder} {events : List Event}
    (hdraws : Steps.Along step DrawsFresh (boot emptyRedis now iter) events) :
    (Steps.run step (boot emptyRedis now iter) events).Sound := by
  have hstep : ∀ (inbox : Inbox) event, inbox.Sound → inbox.DrawsFresh event →
      (inbox.step event).Sound := fun _ _ hsound hdraws => sound_step hsound hdraws
  refine Steps.run_preserves hstep ⟨?_, recordsSound_empty, trivial⟩ hdraws
  exact exact_hydrateFromRedis recordsSound_empty now iter

/-- **The token indices are exact.**  In every run of a server, with persists and restarts
at any time, whose draws are fresh: the device index has the tokens of the devices, the
mobile index has the tokens of the active bindings, and a user has at most one active
binding with a device. -/
theorem indexes_exact {now : ℤ} {iter : IterOrder} {events : List Event}
    (hdraws : Steps.Along step DrawsFresh (boot emptyRedis now iter) events) :
    let store := (Steps.run step (boot emptyRedis now iter) events).store
    (∀ token deviceId, store.deviceTokenIndex.get token = some deviceId ↔
        ∃ device, store.devices.get deviceId = some device ∧ device.deviceToken = token) ∧
      (∀ token bindingId, store.mobileTokenIndex.get token = some bindingId ↔
        ∃ binding, store.bindings.get bindingId = some binding ∧ binding.mobileToken = token ∧
          binding.status = .active) ∧
      ∀ bindingId other binding otherBinding, store.bindings.get bindingId = some binding →
        store.bindings.get other = some otherBinding → binding.status = .active →
          otherBinding.status = .active → binding.userId = otherBinding.userId →
            binding.deviceId = otherBinding.deviceId → bindingId = other := by
  intro store
  have hexact : store.Exact := (sound_run hdraws).store
  refine ⟨fun token deviceId => ?_, fun token bindingId => hexact.mobileIndex.exact,
    fun _ _ _ _ hget hother => hexact.sound.unique hget hother⟩
  rw [hexact.deviceIndex.exact]
  simp only [and_true]

/-! ### A mobile that claims a session -/

/-- A machine that draws the same digits for everything. -/
def plainMachine (now : ℤ) (text : String) : Machine :=
  ⟨now, fun _ => .ok text, [.ok text], .stored⟩

theorem drawsFresh_plainMachine {store : Store} {now : ℤ} {text : String}
    (hhex : (text.toList.all fun c => decide (c ∈ hexDigits)) = true)
    (hdevice : "devtok_" ++ text ∉ store.devices.values.map Device.deviceToken)
    (hmobile : newMobileToken (plainMachine now text) ∉
      store.bindings.values.map Binding.mobileToken)
    (hbinding : "bind_" ++ text ∉ store.bindings.keys) :
    (plainMachine now text).DrawsFresh store where
  deviceHex drawn hdraw := by
    obtain rfl := Except.ok.inj hdraw
    exact fun c hc => of_decide_eq_true (List.all_eq_true.mp hhex c hc)
  mobileHex drawn hdraw := by
    obtain rfl := Except.ok.inj hdraw
    exact fun c hc => of_decide_eq_true (List.all_eq_true.mp hhex c hc)
  deviceToken token hdraw deviceId device hget heq := by
    obtain rfl := Except.ok.inj hdraw
    apply hdevice
    exact List.mem_map.mpr ⟨device, OrderedMap.mem_values_of_get hget, heq⟩
  mobileToken bindingId binding hget heq := by
    apply hmobile
    exact List.mem_map.mpr ⟨binding, OrderedMap.mem_values_of_get hget, heq⟩
  bindingId := OrderedMap.get_eq_none_iff.mpr hbinding

def claimingEvents : List Event :=
  [.mutate (plainMachine 1 "1") (.registerDevice ⟨"d", "mac", "1", none⟩ ""),
    .mutate (plainMachine 2 "2") (.createPairSession "d" 0),
    .mutate (plainMachine 3 "3") (.claimByToken ⟨"pt_2", "user", "phone"⟩)]

/-- The server on which these events happen. -/
def bareInbox : Inbox := boot emptyRedis 0 .stored

theorem drawsFresh_claimingEvents : Steps.Along step DrawsFresh bareInbox claimingEvents := by
  have hfresh : ∀ count, count < 3 →
      let store := (Steps.run step bareInbox (claimingEvents.take count)).store
      let text := toString (count + 1)
      "devtok_" ++ text ∉ store.devices.values.map Device.deviceToken ∧
        newMobileToken (plainMachine (count + 1) text) ∉
          store.bindings.values.map Binding.mobileToken ∧
        "bind_" ++ text ∉ store.bindings.keys := by
    decide +kernel
  refine ⟨?_, ?_, ?_, trivial⟩
  · obtain ⟨hdevice, hmobile, hbinding⟩ := hfresh 0 (by decide)
    exact drawsFresh_plainMachine (by decide) hdevice hmobile hbinding
  · obtain ⟨hdevice, hmobile, hbinding⟩ := hfresh 1 (by decide)
    exact drawsFresh_plainMachine (by decide) hdevice hmobile hbinding
  · obtain ⟨hdevice, hmobile, hbinding⟩ := hfresh 2 (by decide)
    exact drawsFresh_plainMachine (by decide) hdevice hmobile hbinding

theorem indexes_exact_claiming :
    ∃ binding, (Steps.run step bareInbox claimingEvents).store.bindings.get "bind_3" =
      some binding ∧ binding.mobileToken = "mobtok_3" ∧ binding.status = .active := by
  have hindexed : (Steps.run step bareInbox claimingEvents).store.mobileTokenIndex.get "mobtok_3" =
      some "bind_3" := by decide +kernel
  exact ((indexes_exact drawsFresh_claimingEvents).2.1 "mobtok_3" "bind_3").mp hindexed

end Inbox

end OpenClaw.Server.V1

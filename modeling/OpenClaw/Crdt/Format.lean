import OpenClaw.Crdt.VectorLattice

/-!
# Operations and sync batches as JSON

An operation is made by `createCrdtOpEnvelope`, and so it is once more by
`parseCrdtOpEnvelope`, which reads the fields of a JSON object first.  Both give the
fields the same normal form (`Canonical`), in which making it again changes nothing but for
one field: `signedAt || Date.now()` takes a time of zero for a missing one.  The same goes
for the time of a sync batch.
-/

namespace OpenClaw.Crdt

open OpenClaw.Runtime

/-! ## Ids -/

/-- The id is trimmed and not empty. -/
structure CleanId (id : String) : Prop where
  trimmed : normalizeCrdtId id = id
  ne : id ≠ ""

/-- `value || fallback` for texts. -/
def textOr (value fallback : String) : String := if value = "" then fallback else value

/-- `normalizeCrdtParents` of a field. -/
def normalizeJsonParents : Option Json → List String
  | some (.arr elements) =>
      OrderedSet.ofList ((elements.map fun element => normalizeJsonId (some element)).filter
        fun value => decide (value ≠ ""))
  | _ => []

namespace CrdtOpKind

/-- The text of a kind in `CRDT_OP_KINDS`. -/
def text : CrdtOpKind → String
  | conversationCreate => "conversation.create"
  | memberAdd => "member.add"
  | memberRemove => "member.remove"
  | deviceTrustAdd => "device.trust.add"
  | deviceTrustRemove => "device.trust.remove"
  | channelRevoke => "channel.revoke"
  | messageCreate => "message.create"
  | messageEdit => "message.edit"
  | messageDelete => "message.delete"
  | reactionAdd => "reaction.add"
  | reactionRemove => "reaction.remove"
  | readCursor => "read.cursor"

/-- `Object.values(CRDT_OP_KINDS)` -/
def all : List CrdtOpKind :=
  [conversationCreate, memberAdd, memberRemove, deviceTrustAdd, deviceTrustRemove, channelRevoke,
    messageCreate, messageEdit, messageDelete, reactionAdd, reactionRemove, readCursor]

def ofText (value : String) : Option CrdtOpKind := all.find? fun kind => decide (kind.text = value)

end CrdtOpKind

/-! ## What the host gives -/

/-- What JavaScript makes of numbers, times and texts. -/
structure Engine where
  coercion : Coercion
  /-- `String(number)` -/
  numberText : JsNumber → String
  numberText_clean : ∀ number, CleanId (numberText number)
  /-- `new Date(ms).toISOString()`, or the message of its `RangeError`. -/
  isoText : JsNumber → Except String String
  isoText_clean : ∀ ms text, isoText ms = .ok text → CleanId text
  /-- `JSON.parse`, or the message of its `SyntaxError`. -/
  jsonParse : String → Except String Json

/-- What the clock and `randomSuffix` give during a call. -/
structure Moment where
  now : ℤ
  randomSuffix : String
  randomSuffix_clean : ∀ c ∈ randomSuffix.toList, jsBlank c = false

/-- `given || Date.now()` -/
def Moment.timeOr (moment : Moment) : Option JsNumber → JsNumber
  | some given => given.orElse (.finite moment.now)
  | none => .finite moment.now

/-! ## Making an operation -/

structure CreateCrdtOpEnvelopeInput where
  opId : Option String := none
  conversationId : String
  authorDeviceId : String
  authorEntityType : String
  authorSeq : JsNumber
  hlc : Option String := none
  parents : Option (List String) := none
  kind : CrdtOpKind
  payload : PlainObject Json
  signedAt : Option JsNumber := none
  signature : String

/-- `text.padStart(width, "0")` -/
def padStart (width : ℕ) (text : String) : String :=
  String.ofList (List.replicate (width - (utf16 text).length) '0') ++ text

namespace Engine

variable (engine : Engine)

def buildCrdtHlc (authorDeviceId : String) (authorSeq atMs : JsNumber) : Except String String :=
  (engine.isoText atMs).map fun iso =>
    iso ++ ("#" ++ (textOr (normalizeCrdtId authorDeviceId) "unknown-device" ++
      ("#" ++ padStart 12 (engine.numberText authorSeq.whole))))

def createCrdtOpId (moment : Moment) (authorDeviceId : String) (authorSeq atMs : JsNumber) :
    String :=
  "op_" ++ (textOr (normalizeCrdtId authorDeviceId) "unknown-device" ++
    ("_" ++ (engine.numberText authorSeq.whole ++
      ("_" ++ (engine.numberText atMs.whole ++ ("_" ++ moment.randomSuffix))))))

/-- `normalizeCrdtId(given) || buildCrdtHlc(authorDeviceId, authorSeq, atMs)` -/
def hlcOr (given : Option String) (authorDeviceId : String) (authorSeq atMs : JsNumber) :
    Except String String :=
  if normalizeCrdtId (given.getD "") = "" then engine.buildCrdtHlc authorDeviceId authorSeq atMs
  else .ok (normalizeCrdtId (given.getD ""))

def createCrdtOpEnvelope (moment : Moment) (input : CreateCrdtOpEnvelopeInput) :
    Except String CrdtOpEnvelope :=
  let conversationId := normalizeCrdtId input.conversationId
  let authorDeviceId := normalizeCrdtId input.authorDeviceId
  let authorEntityType := textOr (normalizeCrdtId input.authorEntityType) "desktop"
  let authorSeq := input.authorSeq.whole
  let signedAt := (moment.timeOr input.signedAt).whole
  let opId := textOr (normalizeCrdtId (input.opId.getD ""))
    (engine.createCrdtOpId moment authorDeviceId authorSeq signedAt)
  if conversationId = "" then .error "conversationId is required"
  else if authorDeviceId = "" then .error "authorDeviceId is required"
  else if authorSeq = .nan ∨ authorSeq = 0 then .error "authorSeq must be greater than 0"
  else if normalizeCrdtId input.signature = "" then .error "signature is required"
  else
    (engine.hlcOr input.hlc authorDeviceId authorSeq signedAt).map fun hlc =>
      { opId
        conversationId
        authorDeviceId
        authorEntityType
        authorSeq
        hlc
        parents := normalizeCrdtParents (input.parents.getD [])
        kind := input.kind
        payload := input.payload
        signedAt
        signature := normalizeCrdtId input.signature }

/-! ## Reading an operation -/

/-- The value, with a text read as JSON, if it is an object. -/
def decodeObject (notObject : String) (raw : Json) : Except String (List (String × Json)) :=
  let value : Except String Json :=
    match raw with
    | .str text => (engine.jsonParse text).mapError fun message =>
        "Invalid JSON payload: " ++ message
    | value => .ok value
  value.bind fun value =>
    match value with
    | .obj fields => .ok fields
    | _ => .error notObject

def parseCrdtOpEnvelope (moment : Moment) (raw : Json) : Except String CrdtOpEnvelope :=
  (engine.decodeObject "CRDT op must be a JSON object" raw).bind fun fields =>
    let candidate := Json.obj fields
    let kind := normalizeJsonId (candidate.field "kind")
    match CrdtOpKind.ofText kind with
    | none => .error ("Unsupported CRDT op kind: " ++ textOr kind "<empty>")
    | some kind =>
        engine.createCrdtOpEnvelope moment
          { opId := some (normalizeJsonId (candidate.field "opId"))
            conversationId := normalizeJsonId (candidate.field "conversationId")
            authorDeviceId := normalizeJsonId (candidate.field "authorDeviceId")
            authorEntityType :=
              textOr (normalizeJsonId (candidate.field "authorEntityType")) "desktop"
            authorSeq := (engine.coercion.number (candidate.field "authorSeq") 0).whole
            hlc := some (normalizeJsonId (candidate.field "hlc"))
            parents := some (normalizeJsonParents (candidate.field "parents"))
            kind
            payload :=
              match candidate.field "payload" with
              | some (.obj fields) => PlainObject.fromEntries fields
              | _ => ∅
            signedAt := some
              (engine.coercion.number (candidate.field "signedAt") (.finite moment.now)).whole
            signature := normalizeJsonId (candidate.field "signature") }

end Engine

/-! ## Sync batches -/

structure CrdtSyncBatch where
  conversationId : String
  baseVersionVector : CrdtVersionVector
  ops : List CrdtOpEnvelope
  hasMore : Bool
  ts : JsNumber

structure CreateCrdtSyncBatchInput where
  conversationId : String
  baseVersionVector : Option CrdtVersionVector := none
  ops : Option (List CrdtOpEnvelope) := none
  hasMore : Option Bool := none
  ts : Option JsNumber := none

def createCrdtSyncBatch (moment : Moment) (input : CreateCrdtSyncBatchInput) :
    Except String CrdtSyncBatch :=
  if normalizeCrdtId input.conversationId = "" then .error "conversationId is required"
  else
    .ok
      { conversationId := normalizeCrdtId input.conversationId
        baseVersionVector := normalizeCrdtVersionVector (input.baseVersionVector.getD ∅)
        ops := input.ops.getD []
        hasMore := decide (input.hasMore = some true)
        ts := (moment.timeOr input.ts).whole }

namespace Engine

variable (engine : Engine)

/-- The loop over the operations of a batch. -/
def parseOps (moment : Moment) : List Json → Except String (List CrdtOpEnvelope)
  | [] => .ok []
  | rawOp :: rest =>
      match engine.parseCrdtOpEnvelope moment rawOp with
      | .error message => .error ("Invalid CRDT op in sync batch: " ++ message)
      | .ok op => (parseOps moment rest).map fun ops => op :: ops

def parseCrdtSyncBatch (moment : Moment) (raw : Json) : Except String CrdtSyncBatch :=
  (engine.decodeObject "CRDT sync batch must be a JSON object" raw).bind fun fields =>
    let candidate := Json.obj fields
    let rawOps : List Json :=
      match candidate.field "ops" with
      | some (.arr elements) => elements
      | _ => []
    (engine.parseOps moment rawOps).bind fun ops =>
      createCrdtSyncBatch moment
        { conversationId := normalizeJsonId (candidate.field "conversationId")
          baseVersionVector := some
            (normalizeJsonVersionVector engine.coercion
              ((candidate.field "baseVersionVector").getD .null))
          ops := some ops
          hasMore := some
            (match candidate.field "hasMore" with
            | some (.bool value) => value
            | _ => false)
          ts := some (engine.coercion.number (candidate.field "ts") (.finite moment.now)).whole }

end Engine

/-! ## As JSON -/

def CrdtOpEnvelope.fields (op : CrdtOpEnvelope) : List (String × Json) :=
  [("opId", .str op.opId), ("conversationId", .str op.conversationId),
    ("authorDeviceId", .str op.authorDeviceId), ("authorEntityType", .str op.authorEntityType),
    ("authorSeq", .num op.authorSeq), ("hlc", .str op.hlc),
    ("parents", .arr (op.parents.map .str)), ("kind", .str op.kind.text),
    ("payload", .obj (PlainObject.ownEntries op.payload)), ("signedAt", .num op.signedAt),
    ("signature", .str op.signature)]

/-- The value `JSON.stringify` writes. -/
def CrdtOpEnvelope.toJson (op : CrdtOpEnvelope) : Json := .obj op.fields

def CrdtSyncBatch.fields (batch : CrdtSyncBatch) : List (String × Json) :=
  [("conversationId", .str batch.conversationId),
    ("baseVersionVector", .obj ((PlainObject.ownEntries batch.baseVersionVector).map fun entry =>
      (entry.1, .num entry.2))),
    ("ops", .arr (batch.ops.map CrdtOpEnvelope.toJson)), ("hasMore", .bool batch.hasMore),
    ("ts", .num batch.ts)]

/-- The value `JSON.stringify` writes. -/
def CrdtSyncBatch.toJson (batch : CrdtSyncBatch) : Json := .obj batch.fields

/-- The same operation; its payload has its properties in the order they have anyway. -/
def CrdtOpEnvelope.listed (op : CrdtOpEnvelope) : CrdtOpEnvelope :=
  { op with payload := PlainObject.fromEntries (PlainObject.ownEntries op.payload) }

/-- The same batch; its objects have their properties in the order they have anyway. -/
def CrdtSyncBatch.listed (batch : CrdtSyncBatch) : CrdtSyncBatch :=
  { batch with
    baseVersionVector := PlainObject.fromEntries (PlainObject.ownEntries batch.baseVersionVector)
    ops := batch.ops.map CrdtOpEnvelope.listed }

/-! ## The normal form -/

section Clean

variable {value head tail : String}

theorem CleanId.of_normalize (hne : normalizeCrdtId value ≠ "") :
    CleanId (normalizeCrdtId value) :=
  ⟨normalizeCrdtId_idem value, hne⟩

theorem CleanId.of_chars (hclean : ∀ c ∈ value.toList, jsBlank c = false) (hne : value ≠ "") :
    CleanId value :=
  ⟨trim_eq_self hclean, hne⟩

theorem CleanId.append (hhead : CleanId head) (htail : CleanId tail) : CleanId (head ++ tail) where
  trimmed := trim_append_trimmed hhead.trimmed htail.trimmed hhead.ne htail.ne
  ne := by
    intro hempty
    rw [String.append_eq_empty_iff] at hempty
    exact hhead.ne hempty.1

theorem CleanId.textOr (hvalue : value ≠ "" → CleanId value) (htail : CleanId tail) :
    CleanId (textOr value tail) := by
  unfold Crdt.textOr
  split
  · exact htail
  · next hne => exact hvalue hne

theorem CleanId.textOr_eq (hvalue : CleanId value) (fallback : String) :
    Crdt.textOr value fallback = value := if_neg hvalue.ne

@[simp] theorem normalizeCrdtId_kind (kind : CrdtOpKind) :
    normalizeCrdtId kind.text = kind.text := by
  have hclean : kind.text.toList.all (fun c => !jsBlank c) = true := by
    cases kind <;> decide +kernel
  apply trim_eq_self
  intro c hc
  simpa using List.all_eq_true.mp hclean c hc

@[simp] theorem ofText_text (kind : CrdtOpKind) : CrdtOpKind.ofText kind.text = some kind := by
  cases kind <;> decide +kernel

/-- Ids of an operation are read as `normalizeCrdtParents` reads them. -/
theorem normalizeJsonParents_strs (ids : List String) :
    normalizeJsonParents (some (.arr (ids.map .str))) = normalizeCrdtParents ids := by
  have hmap : (ids.map Json.str).map (fun element => normalizeJsonId (some element)) =
      ids.map normalizeCrdtId := by
    rw [List.map_map]
    rfl
  show OrderedSet.ofList (((ids.map Json.str).map _).filter _) = _
  rw [hmap, normalizeCrdtParents]

end Clean

/-! ## Times -/

def IsFinite (number : JsNumber) : Prop := ∃ value : ℚ, number = .finite value

/-- A time that was given, or the clock, cut to whole milliseconds and read again. -/
def Moment.reread (moment : Moment) (time : JsNumber) : JsNumber :=
  (moment.timeOr (some (moment.timeOr (some time)).whole)).whole

section Times

variable {coercion : Coercion} {moment : Moment}

theorem number_time (time : JsNumber) :
    coercion.number (some (.num time)) (.finite moment.now) = moment.timeOr (some time) :=
  coercion.number_num time _

theorem reread_natCast {n : ℕ} (hpos : 0 < n) : moment.reread (.finite n) = .finite n := by
  have htime : moment.timeOr (some (.finite n)) = .finite n := JsNumber.orElse_natCast hpos _
  unfold Moment.reread
  rw [htime, JsNumber.whole_natCast, htime, JsNumber.whole_natCast]

/-- The first millisecond. -/
def firstMoment : Moment where
  now := 1
  randomSuffix := ""
  randomSuffix_clean := by simp

/-- A time of zero is not read back. -/
theorem reread_zero : firstMoment.reread 0 = 1 := by
  have hnow : JsNumber.finite (firstMoment.now : ℚ) = .finite (1 : ℕ) := by
    simp [firstMoment]
  have hclock : firstMoment.timeOr (some 0) = .finite (1 : ℕ) := by
    rw [← hnow]
    show JsNumber.orElse 0 _ = _
    rw [JsNumber.orElse, if_pos (Or.inr rfl)]
  have htime : firstMoment.timeOr (some (.finite (1 : ℕ))) = .finite (1 : ℕ) :=
    JsNumber.orElse_natCast Nat.one_pos _
  unfold Moment.reread
  rw [hclock, JsNumber.whole_natCast, htime, JsNumber.whole_natCast]
  rfl

/-- A whole time is read back whenever it is not zero, and only then. -/
theorem reread_eq_iff (n : ℕ) :
    (∀ moment : Moment, moment.reread (.finite n) = .finite n) ↔ n ≠ 0 := by
  constructor
  · rintro hall rfl
    have hzero := hall firstMoment
    have hone : firstMoment.reread (.finite (0 : ℕ)) = 1 := reread_zero
    rw [hone] at hzero
    cases hzero
  · exact fun hne moment => reread_natCast (by omega)

/-- The time is at least a millisecond. -/
def Moment.Timed (moment : Moment) (given : Option JsNumber) : Prop :=
  JsNumber.lt (moment.timeOr given) 1 = false

/-- What is made of a time is not zero exactly if the time is at least a millisecond. -/
theorem timed_iff (moment : Moment) {given : Option JsNumber}
    (hfinite : ∀ time, given = some time → IsFinite time) :
    ∃ n : ℕ, (moment.timeOr given).whole = .finite n ∧ (moment.Timed given ↔ n ≠ 0) := by
  obtain ⟨value, htime⟩ : IsFinite (moment.timeOr given) := by
    cases given with
    | none => exact ⟨moment.now, rfl⟩
    | some time =>
        show IsFinite (JsNumber.orElse time _)
        unfold JsNumber.orElse
        split
        · exact ⟨moment.now, rfl⟩
        · exact hfinite time rfl
  refine ⟨value.floor.toNat, ?_, ?_⟩
  · rw [htime, JsNumber.whole_finite]
  · have hone : ((1 : ℕ) : ℚ) = (1 : ℤ) := rfl
    have hlt : JsNumber.lt (.finite value) 1 = decide (value < ((1 : ℕ) : ℚ)) := rfl
    rw [Moment.Timed, htime, hlt, decide_eq_false_iff_not, not_lt, hone, ← Rat.le_floor_iff]
    omega

end Times
/-! ## Operations -/

/-- What `createCrdtOpEnvelope` gives. -/
structure Canonical (op : CrdtOpEnvelope) : Prop where
  opId : CleanId op.opId
  conversationId : CleanId op.conversationId
  authorDeviceId : CleanId op.authorDeviceId
  authorEntityType : CleanId op.authorEntityType
  authorSeq : ∃ n : ℕ, 0 < n ∧ op.authorSeq = .finite n
  hlc : CleanId op.hlc
  parents : normalizeCrdtParents op.parents = op.parents
  signedAt : ∃ n : ℕ, op.signedAt = .finite n
  signature : CleanId op.signature

/-- Every number of the input is finite. -/
structure CreateCrdtOpEnvelopeInput.Finite (input : CreateCrdtOpEnvelopeInput) : Prop where
  authorSeq : IsFinite input.authorSeq
  signedAt : ∀ time, input.signedAt = some time → IsFinite time

/-- The operation as it is read at `moment`. -/
def CrdtOpEnvelope.reread (moment : Moment) (op : CrdtOpEnvelope) : CrdtOpEnvelope :=
  { op.listed with signedAt := moment.reread op.signedAt }

section Operations

variable {engine : Engine} {moment : Moment} {input : CreateCrdtOpEnvelopeInput}
  {op : CrdtOpEnvelope} {author : String}

theorem clean_literal {text : String} (hclean : text.toList.all (fun c => !jsBlank c) = true)
    (hne : text ≠ "") : CleanId text := by
  apply CleanId.of_chars _ hne
  intro c hc
  simpa using List.all_eq_true.mp hclean c hc

theorem clean_padStart {width : ℕ} {text : String} (htext : CleanId text) :
    CleanId (padStart width text) := by
  unfold padStart
  by_cases hzero : width - (utf16 text).length = 0
  · rw [hzero]
    simpa using htext
  · refine CleanId.append (CleanId.of_chars ?_ ?_) htext
    · intro c hc
      rw [String.toList_ofList] at hc
      rw [List.eq_of_mem_replicate hc]
      decide +kernel
    · intro hempty
      rw [← String.ofList_nil, String.ofList_inj, List.replicate_eq_nil_iff] at hempty
      exact hzero hempty

theorem clean_createCrdtOpId (hauthor : CleanId author) (seq atMs : JsNumber) :
    CleanId (engine.createCrdtOpId moment author seq atMs) := by
  have hline : CleanId "_" := clean_literal (by decide +kernel) (by decide)
  have hsuffix : CleanId ("_" ++ moment.randomSuffix) := by
    apply CleanId.of_chars
    · intro c hc
      rw [String.toList_append, List.mem_append] at hc
      rcases hc with hc | hc
      · rw [List.mem_singleton.mp hc]
        decide +kernel
      · exact moment.randomSuffix_clean c hc
    · intro hempty
      rw [String.append_eq_empty_iff] at hempty
      exact hline.ne hempty.1
  unfold Engine.createCrdtOpId
  rw [hauthor.trimmed, hauthor.textOr_eq]
  apply CleanId.append (clean_literal (by decide +kernel) (by decide))
  apply hauthor.append
  apply hline.append
  apply (engine.numberText_clean _).append
  apply hline.append
  exact (engine.numberText_clean _).append hsuffix

theorem clean_buildCrdtHlc (hauthor : CleanId author) {seq atMs : JsNumber} {hlc : String}
    (hbuild : engine.buildCrdtHlc author seq atMs = .ok hlc) : CleanId hlc := by
  have hhash : CleanId "#" := clean_literal (by decide +kernel) (by decide)
  unfold Engine.buildCrdtHlc at hbuild
  cases hiso : engine.isoText atMs with
  | error message =>
      rw [hiso] at hbuild
      cases hbuild
  | ok iso =>
      rw [hiso, hauthor.trimmed, hauthor.textOr_eq] at hbuild
      obtain rfl := Except.ok.inj hbuild
      apply (engine.isoText_clean _ _ hiso).append
      apply hhash.append
      apply hauthor.append
      apply hhash.append
      exact clean_padStart (engine.numberText_clean _)

/-- An operation is made of an input with ids and a number, unless its clock cannot be
built. -/
theorem create_eq_ok_iff :
    engine.createCrdtOpEnvelope moment input = .ok op ↔
      normalizeCrdtId input.conversationId ≠ "" ∧ normalizeCrdtId input.authorDeviceId ≠ "" ∧
        ¬(input.authorSeq.whole = .nan ∨ input.authorSeq.whole = 0) ∧
        normalizeCrdtId input.signature ≠ "" ∧
        ∃ hlc, engine.hlcOr input.hlc (normalizeCrdtId input.authorDeviceId)
            input.authorSeq.whole (moment.timeOr input.signedAt).whole = .ok hlc ∧
          { opId := textOr (normalizeCrdtId (input.opId.getD ""))
              (engine.createCrdtOpId moment (normalizeCrdtId input.authorDeviceId)
                input.authorSeq.whole (moment.timeOr input.signedAt).whole)
            conversationId := normalizeCrdtId input.conversationId
            authorDeviceId := normalizeCrdtId input.authorDeviceId
            authorEntityType := textOr (normalizeCrdtId input.authorEntityType) "desktop"
            authorSeq := input.authorSeq.whole
            hlc
            parents := normalizeCrdtParents (input.parents.getD [])
            kind := input.kind
            payload := input.payload
            signedAt := (moment.timeOr input.signedAt).whole
            signature := normalizeCrdtId input.signature } = op := by
  unfold Engine.createCrdtOpEnvelope
  dsimp only
  by_cases hconversation : normalizeCrdtId input.conversationId = ""
  · simp [hconversation]
  by_cases hauthor : normalizeCrdtId input.authorDeviceId = ""
  · simp [hconversation, hauthor]
  by_cases hseq : input.authorSeq.whole = .nan ∨ input.authorSeq.whole = 0
  · simp [hconversation, hauthor, hseq]
  by_cases hsignature : normalizeCrdtId input.signature = ""
  · simp [hconversation, hauthor, hseq, hsignature]
  rw [if_neg hconversation, if_neg hauthor, if_neg hseq, if_neg hsignature]
  cases engine.hlcOr input.hlc (normalizeCrdtId input.authorDeviceId) input.authorSeq.whole
      (moment.timeOr input.signedAt).whole with
  | error message => simp [Except.map]
  | ok hlc => simp [Except.map, hconversation, hauthor, mt Or.inl hseq, mt Or.inr hseq, hsignature]

theorem canonical_of_create (hfinite : input.Finite)
    (hcreate : engine.createCrdtOpEnvelope moment input = .ok op) : Canonical op := by
  obtain ⟨hconversation, hauthor, hseq, hsignature, hlc, hhlc, rfl⟩ :=
    create_eq_ok_iff.mp hcreate
  have hauthor' := CleanId.of_normalize hauthor
  obtain ⟨value, hvalue⟩ := hfinite.authorSeq
  obtain ⟨n, htime, -⟩ := timed_iff moment hfinite.signedAt
  constructor
  case opId =>
    dsimp only
    exact CleanId.textOr CleanId.of_normalize (clean_createCrdtOpId hauthor' _ _)
  case conversationId => exact CleanId.of_normalize hconversation
  case authorDeviceId => exact hauthor'
  case authorEntityType =>
    dsimp only
    exact CleanId.textOr CleanId.of_normalize (clean_literal (by decide +kernel) (by decide))
  case authorSeq =>
    rw [hvalue, JsNumber.whole_finite, not_or] at hseq
    refine ⟨value.floor.toNat, ?_, ?_⟩
    · rw [Nat.pos_iff_ne_zero]
      intro hzero
      rw [hzero] at hseq
      exact hseq.2 rfl
    · show input.authorSeq.whole = _
      rw [hvalue, JsNumber.whole_finite]
  case hlc =>
    unfold Engine.hlcOr at hhlc
    split at hhlc
    · exact clean_buildCrdtHlc hauthor' hhlc
    · next hne =>
        obtain rfl := Except.ok.inj hhlc
        exact CleanId.of_normalize hne
  case parents => exact normalizeCrdtParents_idem _
  case signedAt => exact ⟨n, htime⟩
  case signature => exact CleanId.of_normalize hsignature

/-- Made once more, an operation is the same but for its payload and its time. -/
theorem create_again (hop : Canonical op) (payload : PlainObject Json) (time : JsNumber) :
    engine.createCrdtOpEnvelope moment
        { opId := some op.opId
          conversationId := op.conversationId
          authorDeviceId := op.authorDeviceId
          authorEntityType := textOr op.authorEntityType "desktop"
          authorSeq := op.authorSeq
          hlc := some op.hlc
          parents := some op.parents
          kind := op.kind
          payload
          signedAt := some time
          signature := op.signature } =
      .ok { op with payload, signedAt := (moment.timeOr (some time)).whole } := by
  obtain ⟨n, hpos, hseq⟩ := hop.authorSeq
  have hwhole : op.authorSeq.whole = op.authorSeq := by rw [hseq, JsNumber.whole_natCast]
  rw [create_eq_ok_iff]
  dsimp only
  rw [Option.getD_some, Option.getD_some, hop.conversationId.trimmed, hop.authorDeviceId.trimmed,
    hop.signature.trimmed, hop.opId.trimmed, hop.opId.textOr_eq, hop.authorEntityType.textOr_eq,
    hop.authorEntityType.trimmed, hop.authorEntityType.textOr_eq, hop.parents, hwhole]
  refine ⟨hop.conversationId.ne, hop.authorDeviceId.ne, ?_, hop.signature.ne, op.hlc, ?_, rfl⟩
  · rw [hseq]
    rintro (hnan | hzero)
    · cases hnan
    · have hn : (n : ℚ) = (0 : ℕ) := JsNumber.finite.inj hzero
      rw [Nat.cast_inj] at hn
      omega
  · unfold Engine.hlcOr
    rw [Option.getD_some, hop.hlc.trimmed, if_neg hop.hlc.ne]

/-- **Reading an operation** gives it back, but for the time. -/
theorem parse_toJson (hop : Canonical op) :
    engine.parseCrdtOpEnvelope moment op.toJson = .ok (op.reread moment) := by
  obtain ⟨n, hpos, hseq⟩ := hop.authorSeq
  have hkind : normalizeJsonId (op.toJson.field "kind") = op.kind.text :=
    normalizeCrdtId_kind op.kind
  have hnumber : (engine.coercion.number (op.toJson.field "authorSeq") 0).whole = op.authorSeq := by
    show (engine.coercion.number (some (.num op.authorSeq)) 0).whole = _
    rw [Coercion.number_num, hseq, JsNumber.orElse_natCast hpos, JsNumber.whole_natCast]
  have htime : engine.coercion.number (op.toJson.field "signedAt") (.finite moment.now) =
      moment.timeOr (some op.signedAt) := number_time op.signedAt
  have hparents : normalizeJsonParents (op.toJson.field "parents") = op.parents := by
    show normalizeJsonParents (some (.arr (op.parents.map .str))) = _
    rw [normalizeJsonParents_strs, hop.parents]
  have hid : ∀ (key : String) {value : String}, CleanId value →
      op.toJson.field key = some (.str value) →
        normalizeJsonId (op.toJson.field key) = value := by
    intro key value hclean hfield
    rw [hfield]
    exact hclean.trimmed
  have hpayload : op.toJson.field "payload" =
      some (.obj (PlainObject.ownEntries op.payload)) := rfl
  have hobject : engine.decodeObject "CRDT op must be a JSON object" op.toJson =
      .ok op.fields := rfl
  unfold Engine.parseCrdtOpEnvelope
  rw [hobject, Except.bind]
  dsimp only
  rw [← CrdtOpEnvelope.toJson, hkind, ofText_text]
  dsimp only
  rw [hnumber, htime, hparents, hpayload, hid "opId" hop.opId rfl,
    hid "conversationId" hop.conversationId rfl, hid "authorDeviceId" hop.authorDeviceId rfl,
    hid "authorEntityType" hop.authorEntityType rfl, hid "hlc" hop.hlc rfl,
    hid "signature" hop.signature rfl, create_again hop]
  rfl

end Operations

/-! ## Batches -/

/-- The keys are ids as they are written, and the values whole numbers. -/
def Settled (vector : CrdtVersionVector) : Prop :=
  ∀ entry ∈ vector.entries, CleanId entry.1 ∧ ∃ n : ℕ, entry.2 = .finite n

/-- What `createCrdtSyncBatch` gives. -/
structure CanonicalBatch (batch : CrdtSyncBatch) : Prop where
  conversationId : CleanId batch.conversationId
  baseVersionVector : Settled batch.baseVersionVector
  ops : ∀ op ∈ batch.ops, Canonical op
  ts : ∃ n : ℕ, batch.ts = .finite n

/-- Every number of the input is finite. -/
structure CreateCrdtSyncBatchInput.Finite (input : CreateCrdtSyncBatchInput) : Prop where
  baseVersionVector : ∀ vector, input.baseVersionVector = some vector →
    ∀ entry ∈ vector.entries, IsFinite entry.2
  ts : ∀ time, input.ts = some time → IsFinite time

/-- The batch as it is read at `moment`. -/
def CrdtSyncBatch.reread (moment : Moment) (batch : CrdtSyncBatch) : CrdtSyncBatch :=
  { batch.listed with
    ops := batch.ops.map fun op => op.reread moment
    ts := moment.reread batch.ts }

section Batches

variable {engine : Engine} {moment : Moment} {input : CreateCrdtSyncBatchInput}
  {batch : CrdtSyncBatch} {vector : CrdtVersionVector}

theorem settled_normalize (hfinite : ∀ entry ∈ vector.entries, IsFinite entry.2) :
    Settled (normalizeCrdtVersionVector vector) := by
  rintro ⟨key, seq⟩ hentry
  have hmem := OrderedMap.mem_of_get_ofList (OrderedMap.get_eq_some_iff.mpr hentry)
  obtain ⟨hmapped, hne⟩ := List.mem_filter.mp hmem
  obtain ⟨old, hold, heq⟩ := List.mem_map.mp hmapped
  obtain ⟨rfl, rfl⟩ := Prod.mk.inj heq
  obtain ⟨value, hvalue⟩ := hfinite old ((PlainObject.ownEntries_perm vector).mem_iff.mp hold)
  refine ⟨CleanId.of_normalize (of_decide_eq_true hne), value.floor.toNat, ?_⟩
  show JsNumber.ofCount old.2.count = _
  rw [hvalue, JsNumber.count, JsNumber.ofCount_natCast]

theorem Settled.ownEntries (hsettled : Settled vector) {entry : String × JsNumber}
    (hentry : entry ∈ PlainObject.ownEntries vector) :
    CleanId entry.1 ∧ ∃ n : ℕ, entry.2 = .finite n :=
  hsettled entry ((PlainObject.ownEntries_perm vector).mem_iff.mp hentry)

/-- Normalizing the listed entries of a settled vector changes none. -/
theorem Settled.normalize_listed (hsettled : Settled vector) :
    normalizeCrdtVersionVector (PlainObject.fromEntries (PlainObject.ownEntries vector)) =
      PlainObject.fromEntries (PlainObject.ownEntries vector) := by
  have hmap : ((PlainObject.ownEntries vector).map fun entry =>
      (normalizeCrdtId entry.1, JsNumber.ofCount entry.2.count)) =
        PlainObject.ownEntries vector := by
    calc (PlainObject.ownEntries vector).map _
        = (PlainObject.ownEntries vector).map id := by
          apply List.map_congr_left
          intro entry hentry
          obtain ⟨hclean, n, hn⟩ := hsettled.ownEntries hentry
          have hcount : JsNumber.ofCount entry.2.count = entry.2 := by
            rw [hn, ← JsNumber.ofCount_natCast, JsNumber.count_ofCount]
          rw [hclean.trimmed, hcount]
          rfl
      _ = PlainObject.ownEntries vector := List.map_id _
  have hfilter : ((PlainObject.ownEntries vector).filter fun entry => decide (entry.1 ≠ "")) =
      PlainObject.ownEntries vector := by
    apply List.filter_eq_self.mpr
    intro entry hentry
    exact decide_eq_true (hsettled.ownEntries hentry).1.ne
  rw [normalizeCrdtVersionVector, PlainObject.ownEntries_fromEntries, hmap, hfilter]

/-- The vector as it is read from JSON. -/
theorem Settled.normalizeJson (hsettled : Settled vector) (coercion : Coercion) :
    normalizeJsonVersionVector coercion
        (.obj ((PlainObject.ownEntries vector).map fun entry => (entry.1, .num entry.2))) =
      PlainObject.fromEntries (PlainObject.ownEntries vector) := by
  have hentries := PlainObject.ownEntries_fromEntries_map vector Json.num
  have hmap : (((PlainObject.ownEntries vector).map fun entry => (entry.1, Json.num entry.2)).map
      fun entry => (normalizeCrdtId entry.1, (coercion.number (some entry.2) 0).whole)) =
        PlainObject.ownEntries vector := by
    rw [List.map_map]
    calc (PlainObject.ownEntries vector).map _
        = (PlainObject.ownEntries vector).map id := by
          apply List.map_congr_left
          rintro ⟨key, seq⟩ hentry
          obtain ⟨hclean, n, hn⟩ := hsettled.ownEntries hentry
          have hnumber : (coercion.number (some (.num seq)) 0).whole = seq := by
            rw [show seq = .finite n from hn, Coercion.number_natCast_zero, JsNumber.whole_natCast]
          show (normalizeCrdtId key, (coercion.number (some (.num seq)) 0).whole) = (key, seq)
          rw [hclean.trimmed, hnumber]
      _ = PlainObject.ownEntries vector := List.map_id _
  have hfilter : ((PlainObject.ownEntries vector).filter fun entry => decide (entry.1 ≠ "")) =
      PlainObject.ownEntries vector := by
    apply List.filter_eq_self.mpr
    intro entry hentry
    exact decide_eq_true (hsettled.ownEntries hentry).1.ne
  show PlainObject.fromEntries (((PlainObject.ownEntries (PlainObject.fromEntries _)).map _).filter
    _) = _
  rw [hentries, hmap, hfilter]

theorem createBatch_eq_ok_iff :
    createCrdtSyncBatch moment input = .ok batch ↔
      normalizeCrdtId input.conversationId ≠ "" ∧
        { conversationId := normalizeCrdtId input.conversationId
          baseVersionVector := normalizeCrdtVersionVector (input.baseVersionVector.getD ∅)
          ops := input.ops.getD []
          hasMore := decide (input.hasMore = some true)
          ts := (moment.timeOr input.ts).whole } = batch := by
  unfold createCrdtSyncBatch
  by_cases hconversation : normalizeCrdtId input.conversationId = ""
  · simp [hconversation]
  · simp [hconversation]

theorem canonical_createBatch (hfinite : input.Finite)
    (hops : ∀ op ∈ input.ops.getD [], Canonical op)
    (hcreate : createCrdtSyncBatch moment input = .ok batch) : CanonicalBatch batch := by
  obtain ⟨hconversation, rfl⟩ := createBatch_eq_ok_iff.mp hcreate
  obtain ⟨n, htime, -⟩ := timed_iff moment hfinite.ts
  constructor
  case conversationId => exact CleanId.of_normalize hconversation
  case baseVersionVector =>
    apply settled_normalize
    cases hvector : input.baseVersionVector with
    | none => exact fun entry hentry => nomatch hentry
    | some vector => exact hfinite.baseVersionVector vector hvector
  case ops => exact hops
  case ts => exact ⟨n, htime⟩

/-- The loop reads every operation. -/
theorem parseOps_toJson {ops : List CrdtOpEnvelope} (hops : ∀ op ∈ ops, Canonical op) :
    engine.parseOps moment (ops.map CrdtOpEnvelope.toJson) =
      .ok (ops.map fun op => op.reread moment) := by
  induction ops with
  | nil => rfl
  | cons op rest ih =>
      have hrest := ih fun op hop => hops op (List.mem_cons_of_mem _ hop)
      rw [List.map_cons, Engine.parseOps, parse_toJson (hops op List.mem_cons_self)]
      dsimp only
      rw [hrest]
      rfl

/-- **Reading a batch** gives it back, but for the times. -/
theorem parse_batch_toJson (hbatch : CanonicalBatch batch) :
    engine.parseCrdtSyncBatch moment batch.toJson = .ok (batch.reread moment) := by
  have hobject : engine.decodeObject "CRDT sync batch must be a JSON object" batch.toJson =
      .ok batch.fields := rfl
  have hid : normalizeJsonId (batch.toJson.field "conversationId") = batch.conversationId :=
    hbatch.conversationId.trimmed
  have hvector : normalizeJsonVersionVector engine.coercion
      ((batch.toJson.field "baseVersionVector").getD .null) =
        PlainObject.fromEntries (PlainObject.ownEntries batch.baseVersionVector) :=
    hbatch.baseVersionVector.normalizeJson engine.coercion
  have hops : batch.toJson.field "ops" = some (.arr (batch.ops.map CrdtOpEnvelope.toJson)) := rfl
  have hmore : batch.toJson.field "hasMore" = some (.bool batch.hasMore) := rfl
  have htime : engine.coercion.number (batch.toJson.field "ts") (.finite moment.now) =
      moment.timeOr (some batch.ts) := number_time batch.ts
  unfold Engine.parseCrdtSyncBatch
  rw [hobject, Except.bind]
  dsimp only
  rw [← CrdtSyncBatch.toJson, hops]
  dsimp only
  rw [parseOps_toJson hbatch.ops, Except.bind, hid, hvector, hmore, htime, createBatch_eq_ok_iff]
  dsimp only
  rw [hbatch.conversationId.trimmed, Option.getD_some, hbatch.baseVersionVector.normalize_listed,
    Option.getD_some]
  refine ⟨hbatch.conversationId.ne, ?_⟩
  have hdecide : decide (some batch.hasMore = some true) = batch.hasMore := by
    cases batch.hasMore <;> rfl
  rw [hdecide]
  rfl

end Batches

/-! ## Round trips -/

section RoundTrips

variable {engine : Engine} {moment : Moment} {op : CrdtOpEnvelope} {batch : CrdtSyncBatch}
  {text : String}

theorem decodeObject_text {notObject : String} {fields : List (String × Json)}
    (htext : engine.jsonParse text = .ok (.obj fields)) :
    engine.decodeObject notObject (.str text) = engine.decodeObject notObject (.obj fields) := by
  unfold Engine.decodeObject
  dsimp only
  rw [htext]
  rfl

theorem parse_text (hop : Canonical op) (htext : engine.jsonParse text = .ok op.toJson) :
    engine.parseCrdtOpEnvelope moment (.str text) = .ok (op.reread moment) := by
  rw [← parse_toJson hop, Engine.parseCrdtOpEnvelope, decodeObject_text htext]
  rfl

theorem parse_batch_text (hbatch : CanonicalBatch batch)
    (htext : engine.jsonParse text = .ok batch.toJson) :
    engine.parseCrdtSyncBatch moment (.str text) = .ok (batch.reread moment) := by
  rw [← parse_batch_toJson hbatch, Engine.parseCrdtSyncBatch, decodeObject_text htext]
  rfl

theorem reread_eq_listed_iff :
    op.reread moment = op.listed ↔ moment.reread op.signedAt = op.signedAt := by
  constructor
  · intro heq
    exact congrArg CrdtOpEnvelope.signedAt heq
  · intro htime
    rw [CrdtOpEnvelope.reread, htime]
    rfl

theorem reread_batch_eq_listed_iff :
    batch.reread moment = batch.listed ↔
      (∀ op ∈ batch.ops, moment.reread op.signedAt = op.signedAt) ∧
        moment.reread batch.ts = batch.ts := by
  have hops : (batch.ops.map fun op => op.reread moment) = batch.ops.map CrdtOpEnvelope.listed ↔
      ∀ op ∈ batch.ops, moment.reread op.signedAt = op.signedAt := by
    rw [List.map_inj_left]
    exact forall₂_congr fun op _ => reread_eq_listed_iff
  rw [← hops]
  constructor
  · intro heq
    exact ⟨congrArg CrdtSyncBatch.ops heq, congrArg CrdtSyncBatch.ts heq⟩
  · rintro ⟨hmap, htime⟩
    rw [CrdtSyncBatch.reread, hmap, htime]
    rfl

/-- A time that was made of an input is read back exactly if it is at least a millisecond. -/
theorem reread_timed_iff {given : Option JsNumber}
    (hfinite : ∀ time, given = some time → IsFinite time) :
    (∀ reading : Moment, reading.reread (moment.timeOr given).whole = (moment.timeOr given).whole) ↔
      moment.Timed given := by
  obtain ⟨n, htime, htimed⟩ := timed_iff moment hfinite
  rw [htime, htimed]
  exact reread_eq_iff n

/-- The operation is made of an input with finite numbers. -/
structure Engine.Makes (engine : Engine) (moment : Moment) (input : CreateCrdtOpEnvelopeInput)
    (op : CrdtOpEnvelope) : Prop where
  finite : input.Finite
  created : engine.createCrdtOpEnvelope moment input = .ok op

theorem Engine.Makes.reread_iff {input : CreateCrdtOpEnvelopeInput}
    (hmakes : engine.Makes moment input op) :
    (∀ reading : Moment, reading.reread op.signedAt = op.signedAt) ↔
      moment.Timed input.signedAt := by
  obtain ⟨-, -, -, -, hlc, -, rfl⟩ := create_eq_ok_iff.mp hmakes.created
  exact reread_timed_iff hmakes.finite.signedAt

/-- What holds of every operation of a list holds of every input they are made of. -/
theorem forall_made_iff {made : List (Moment × CreateCrdtOpEnvelopeInput)}
    {ops : List CrdtOpEnvelope}
    (hmade : List.Forall₂ (fun entry op => engine.Makes entry.1 entry.2 op) made ops) :
    (∀ op ∈ ops, ∀ reading : Moment, reading.reread op.signedAt = op.signedAt) ↔
      ∀ entry ∈ made, entry.1.Timed entry.2.signedAt := by
  induction hmade with
  | nil => simp
  | cons hmakes _ ih => rw [List.forall_mem_cons, List.forall_mem_cons, ih, hmakes.reread_iff]

theorem canonical_of_made {made : List (Moment × CreateCrdtOpEnvelopeInput)}
    {ops : List CrdtOpEnvelope}
    (hmade : List.Forall₂ (fun entry op => engine.Makes entry.1 entry.2 op) made ops) :
    ∀ op ∈ ops, Canonical op := by
  induction hmade with
  | nil => simp
  | cons hmakes _ ih =>
      exact List.forall_mem_cons.mpr ⟨canonical_of_create hmakes.finite hmakes.created, ih⟩

end RoundTrips

/-- **Round trips** of operations and of sync batches: reading the JSON text gives back what
was made exactly if each time that went in, which is the one of the clock where none was
given, is at least a millisecond. -/
theorem round_trip_iff (engine : Engine) :
    (∀ moment input op text, engine.Makes moment input op →
      engine.jsonParse text = .ok op.toJson →
      ((∀ reading, engine.parseCrdtOpEnvelope reading (.str text) = .ok op.listed) ↔
        moment.Timed input.signedAt)) ∧
    ∀ (made : List (Moment × CreateCrdtOpEnvelopeInput)) ops moment input batch text,
      List.Forall₂ (fun entry op => engine.Makes entry.1 entry.2 op) made ops →
      input.ops = some ops → input.Finite → createCrdtSyncBatch moment input = .ok batch →
      engine.jsonParse text = .ok batch.toJson →
      ((∀ reading, engine.parseCrdtSyncBatch reading (.str text) = .ok batch.listed) ↔
        (∀ entry ∈ made, entry.1.Timed entry.2.signedAt) ∧ moment.Timed input.ts) := by
  constructor
  · intro moment input op text hmakes htext
    have hop := canonical_of_create hmakes.finite hmakes.created
    rw [← hmakes.reread_iff]
    refine forall_congr' fun reading => ?_
    rw [parse_text hop htext, Except.ok.injEq, reread_eq_listed_iff]
  · intro made ops moment input batch text hmade hops hfinite hcreate htext
    have hbatch := canonical_createBatch hfinite
      (by rw [hops]; exact canonical_of_made hmade) hcreate
    have hnew : batch.ops = ops ∧ batch.ts = (moment.timeOr input.ts).whole := by
      obtain ⟨-, rfl⟩ := createBatch_eq_ok_iff.mp hcreate
      rw [hops]
      exact ⟨rfl, rfl⟩
    calc (∀ reading, engine.parseCrdtSyncBatch reading (.str text) = .ok batch.listed)
        ↔ ∀ reading : Moment, (∀ op ∈ ops, reading.reread op.signedAt = op.signedAt) ∧
            reading.reread batch.ts = batch.ts := by
          refine forall_congr' fun reading => ?_
          rw [parse_batch_text hbatch htext, Except.ok.injEq, reread_batch_eq_listed_iff, hnew.1]
      _ ↔ (∀ op ∈ ops, ∀ reading : Moment, reading.reread op.signedAt = op.signedAt) ∧
            ∀ reading : Moment, reading.reread batch.ts = batch.ts := by
          rw [forall_and]
          refine and_congr_left fun _ => ?_
          exact ⟨fun hall op hop reading => hall reading op hop,
            fun hall reading op hop => hall op hop reading⟩
      _ ↔ (∀ entry ∈ made, entry.1.Timed entry.2.signedAt) ∧ moment.Timed input.ts := by
          rw [forall_made_iff hmade, hnew.2, reread_timed_iff hfinite.ts]

/-! ## Two operations -/

/-- The input of `messageOp "m1" "phone" 1 "h1" []`, signed at the given time. -/
def messageInput (signedAt : JsNumber) : CreateCrdtOpEnvelopeInput where
  opId := some "m1"
  conversationId := "conv"
  authorDeviceId := "phone"
  authorEntityType := "mobile"
  authorSeq := 1
  hlc := some "h1"
  parents := some []
  kind := .messageCreate
  payload := .ofList [("messageId", .str "m1")]
  signedAt := some signedAt
  signature := "sig"

def signedOp (signedAt : JsNumber) : CrdtOpEnvelope :=
  { messageOp "m1" "phone" 1 "h1" [] with signedAt }

theorem finite_messageInput (value : ℚ) : (messageInput (.finite value)).Finite where
  authorSeq := ⟨_, rfl⟩
  signedAt := by
    rintro time heq
    exact ⟨value, (Option.some.inj heq).symm⟩

theorem canonical_signedOp : Canonical (signedOp 1) := by
  have hclean : ∀ text ∈ ["m1", "conv", "phone", "mobile", "h1", "sig"], CleanId text := by
    have hall : (["m1", "conv", "phone", "mobile", "h1", "sig"].all fun text =>
        decide (text ≠ "") && text.toList.all fun c => !jsBlank c) = true := by decide +kernel
    intro text htext
    have hboth := List.all_eq_true.mp hall text htext
    rw [Bool.and_eq_true, decide_eq_true_eq] at hboth
    exact clean_literal hboth.2 hboth.1
  constructor
  case opId => exact hclean "m1" (by simp)
  case conversationId => exact hclean "conv" (by simp)
  case authorDeviceId => exact hclean "phone" (by simp)
  case authorEntityType => exact hclean "mobile" (by simp)
  case authorSeq => exact ⟨1, Nat.one_pos, rfl⟩
  case hlc => exact hclean "h1" (by simp)
  case parents => rfl
  case signedAt => exact ⟨1, rfl⟩
  case signature => exact hclean "sig" (by simp)

theorem create_messageInput (engine : Engine) (signedAt : JsNumber) :
    engine.createCrdtOpEnvelope firstMoment (messageInput signedAt) =
      .ok (signedOp (firstMoment.timeOr (some signedAt)).whole) := by
  have hagain := @create_again engine firstMoment _ canonical_signedOp
    (.ofList [("messageId", .str "m1")]) signedAt
  have htype : textOr (signedOp 1).authorEntityType "desktop" = "mobile" := rfl
  rw [htype] at hagain
  exact hagain

/-- The text of the operation, with the digits of its time. -/
def opText (digits : String) : String :=
  "\x7b\"opId\":\"m1\",\"conversationId\":\"conv\",\"authorDeviceId\":\"phone\"," ++
    "\"authorEntityType\":\"mobile\",\"authorSeq\":1,\"hlc\":\"h1\",\"parents\":[]," ++
    "\"kind\":\"message.create\",\"payload\":\x7b\"messageId\":\"m1\"\x7d,\"signedAt\":" ++
    digits ++ ",\"signature\":\"sig\"\x7d"

/-- The text of a batch with one operation and no vector, made in the first millisecond. -/
def batchText : String :=
  "\x7b\"conversationId\":\"conv\",\"baseVersionVector\":\x7b\x7d,\"ops\":[" ++ opText "1" ++
    "],\"hasMore\":false,\"ts\":1\x7d"

def oneBatch : CrdtSyncBatch where
  conversationId := "conv"
  baseVersionVector := ∅
  ops := [signedOp 1]
  hasMore := false
  ts := 1

/-- `JSON.parse`, of two texts. -/
def parseTexts (first second : String × Json) (text : String) : Except String Json :=
  if text = first.1 then .ok first.2
  else if text = second.1 then .ok second.2
  else .error "Unexpected end of JSON input"

/-- An engine in the first millisecond, with this `JSON.parse`. -/
def engineOf (first second : String × Json) : Engine where
  coercion := ⟨fun _ => "[object Object]", fun _ => .nan⟩
  numberText := fun _ => "1"
  numberText_clean := fun _ => clean_literal (by decide +kernel) (by decide)
  isoText := fun _ => .ok "1970-01-01T00:00:00.001Z"
  isoText_clean := by
    rintro ms text heq
    obtain rfl := Except.ok.inj heq
    exact clean_literal (by decide +kernel) (by decide)
  jsonParse := parseTexts first second

theorem jsonParse_first (first second : String × Json) :
    (engineOf first second).jsonParse first.1 = .ok first.2 := by
  show parseTexts first second first.1 = _
  rw [parseTexts, if_pos rfl]

theorem jsonParse_second {first second : String × Json} (hne : second.1 ≠ first.1) :
    (engineOf first second).jsonParse second.1 = .ok second.2 := by
  show parseTexts first second second.1 = _
  rw [parseTexts, if_neg hne, if_pos rfl]

/-- The engine that reads an operation and the batch. -/
def engineFor (signedAt : JsNumber) (digits : String) : Engine :=
  engineOf (opText digits, (signedOp signedAt).toJson) (batchText, oneBatch.toJson)

theorem jsonParse_opText (signedAt : JsNumber) (digits : String) :
    (engineFor signedAt digits).jsonParse (opText digits) = .ok (signedOp signedAt).toJson :=
  jsonParse_first (opText digits, (signedOp signedAt).toJson) _

/-- An operation signed half a millisecond after the beginning of time is signed at zero,
and read as signed later. -/
theorem early_signature_is_lost : ¬∀ (engine : Engine) moment input op text,
    engine.Makes moment input op → engine.jsonParse text = .ok op.toJson →
    ∀ reading, engine.parseCrdtOpEnvelope reading (.str text) = .ok op.listed := by
  intro hall
  have hread := jsonParse_opText 0 "0"
  have htime : firstMoment.timeOr (some (.finite (1 / 2))) = .finite (1 / 2) := by
    show JsNumber.orElse _ _ = _
    rw [JsNumber.orElse, if_neg (by decide +kernel)]
  have hwhole : JsNumber.whole (.finite (1 / 2)) = 0 := by
    rw [JsNumber.whole_finite]
    decide +kernel
  have hmakes : (engineFor 0 "0").Makes firstMoment (messageInput (.finite (1 / 2)))
      (signedOp 0) := by
    refine ⟨finite_messageInput _, ?_⟩
    rw [create_messageInput, htime, hwhole]
  have hback := hall _ firstMoment _ _ (opText "0") hmakes hread firstMoment
  rw [parse_text (canonical_of_create hmakes.finite hmakes.created) hread, Except.ok.injEq,
    reread_eq_listed_iff] at hback
  have hone : firstMoment.reread 0 = 0 := hback
  rw [reread_zero] at hone
  cases hone

/-- Signed at one, it comes back, alone and in a batch. -/
theorem round_trip_signed :
    (∀ reading, (engineFor 1 "1").parseCrdtOpEnvelope reading (.str (opText "1")) =
        .ok (signedOp 1).listed) ∧
      ∀ reading, (engineFor 1 "1").parseCrdtSyncBatch reading (.str batchText) =
        .ok oneBatch.listed := by
  have htime : firstMoment.timeOr (some 1) = .finite (1 : ℕ) :=
    JsNumber.orElse_natCast Nat.one_pos _
  have hmakes : (engineFor 1 "1").Makes firstMoment (messageInput 1) (signedOp 1) := by
    refine ⟨finite_messageInput _, ?_⟩
    rw [create_messageInput, htime, JsNumber.whole_natCast]
    rfl
  have htimed : firstMoment.Timed (some 1) := by
    rw [Moment.Timed, htime]
    decide +kernel
  have hbatch : createCrdtSyncBatch firstMoment
      { conversationId := "conv", ops := some [signedOp 1], ts := some 1 } = .ok oneBatch := by
    have hid : normalizeCrdtId "conv" = "conv" := canonical_signedOp.conversationId.trimmed
    rw [createBatch_eq_ok_iff]
    dsimp only
    rw [hid, htime, JsNumber.whole_natCast]
    exact ⟨by decide, rfl⟩
  have hne : batchText ≠ opText "1" := by
    -- the batch has the text of the operation in it, so it is longer
    unfold batchText
    intro heq
    have hlength := congrArg String.length heq
    simp only [String.length_append] at hlength
    have hpos : 0 < "],\"hasMore\":false,\"ts\":1\x7d".length := by decide +kernel
    omega
  have hread := jsonParse_opText 1 "1"
  have hreadBatch : (engineFor 1 "1").jsonParse batchText = .ok oneBatch.toJson :=
    @jsonParse_second (opText "1", (signedOp 1).toJson) (batchText, oneBatch.toJson) hne
  obtain ⟨hop, hops⟩ := round_trip_iff (engineFor 1 "1")
  refine ⟨(hop _ _ _ _ hmakes hread).mpr htimed, ?_⟩
  refine (hops [(firstMoment, messageInput 1)] _ _ _ _ _ (.cons hmakes .nil) rfl ?_ hbatch
    hreadBatch).mpr ⟨?_, htimed⟩
  · constructor
    case baseVersionVector => exact fun vector heq => nomatch heq
    case ts => exact fun time heq => ⟨1, (Option.some.inj heq).symm⟩
  · intro entry hentry
    rw [List.mem_singleton.mp hentry]
    exact htimed

end OpenClaw.Crdt

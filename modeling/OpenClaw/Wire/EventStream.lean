import OpenClaw.Lib.Lines
import OpenClaw.Lib.Steps
import OpenClaw.Desktop.Backend
import OpenClaw.Server.V2Signals

/-!
# The signal stream on the wire

The server writes each signal as one line `data:` with its JSON and an empty line, and a
ping every twenty seconds.  The desktop reads line by line, collects what follows `data:`,
and at an empty line handles what it collected; an error of the handler ends the stream.

A connection may break anywhere.  What the desktop has handled then is what the complete
frames say, in their order, and nothing of the one that was cut.
-/

namespace OpenClaw.Wire

open OpenClaw.Runtime
open OpenClaw.Server (SignalEvent)
open OpenClaw.Desktop (PairSignalEnvelope)

/-! ## Writing -/

/-- What the handler of a stream writes: signals, the one that opens the stream among
them, and pings with the time. -/
inductive StreamFrame
  | signal (event : SignalEvent)
  | ping (now : ℕ)

/-- The first signal of every stream. -/
def openedEvent (openedId clientType clientId : String) (now : ℤ) : SignalEvent where
  id := openedId
  type := "stream.opened"
  ts := now
  sender := none
  receiver := none
  payload := [("clientType", .str clientType), ("clientId", .str clientId)]

def pingPayload (now : ℕ) : String := "\x7b" ++ "\"ts\":" ++ toString now ++ "\x7d"

/-- `marshal` is `json.Marshal`. -/
def writeSSE (marshal : SignalEvent → String) (event : SignalEvent) : String :=
  "data: " ++ marshal event ++ "\n" ++ "\n"

def writePing (now : ℕ) : String :=
  "event: ping" ++ "\n" ++ "data: " ++ pingPayload now ++ "\n" ++ "\n"

def StreamFrame.write (marshal : SignalEvent → String) : StreamFrame → String
  | .signal event => writeSSE marshal event
  | .ping now => writePing now

/-- All that is written on one connection. -/
def writeAll (marshal : SignalEvent → String) (frames : List StreamFrame) : List Char :=
  (frames.map fun frame => (frame.write marshal).toList).flatten

/-! ## Reading -/

/-- `trim_end_matches(['\r', '\n'])` -/
def trimLineEnd (line : List Char) : List Char :=
  line.rdropWhile fun c => decide (c = '\r' ∨ c = '\n')

/-- `strip_prefix("data:")`, and `trim_start` of the rest. -/
def dataOf (line : List Char) : Option String :=
  if "data:".toList.isPrefixOf line then
    some (String.ofList ((line.drop "data:".toList.length).dropWhile unicodeBlank))
  else none

/-- The operator `?` of the loops: what comes next, unless there was an error. -/
def proceed {σ : Type} (outcome : σ × Option String) (next : σ → σ × Option String) :
    σ × Option String :=
  match outcome.2 with
  | none => next outcome.1
  | some error => (outcome.1, some error)

/-- The loop of `run_signal_stream` on the lines that `read_line` gives.  `parse` is
`serde_json::from_str`, and `handle` is `handle_signal_event`, with its error if there is
one; an error ends the loop. -/
def readStream {σ : Type} (parse : String → Option PairSignalEnvelope)
    (handle : σ → PairSignalEnvelope → σ × Option String) :
    List String → σ → List (List Char) → σ × Option String
  | _, state, [] => (state, none)
  | dataLines, state, line :: rest =>
      if trimLineEnd line = [] then
        if dataLines = [] then readStream parse handle [] state rest
        else
          match parse (String.intercalate "\n" dataLines) with
          | none => readStream parse handle [] state rest
          | some envelope =>
              if envelope.type = "stream.opened" then readStream parse handle [] state rest
              else
                proceed (handle state envelope) fun state => readStream parse handle [] state rest
      else
        match dataOf (trimLineEnd line) with
        | some data => readStream parse handle (dataLines ++ [data]) state rest
        | none => readStream parse handle dataLines state rest

/-- `run_signal_stream`, from the response on. -/
def runSignalStream {σ : Type} (parse : String → Option PairSignalEnvelope)
    (handle : σ → PairSignalEnvelope → σ × Option String) (state : σ) (text : List Char) :
    σ × Option String :=
  readStream parse handle [] state (Lines.lines '\n' text)

/-! ## What both agree on -/

/-- How the desktop reads a signal of the server. -/
def envelopeOf (event : SignalEvent) : PairSignalEnvelope where
  type := event.type
  fromId := event.sender.map Server.SignalParty.id
  payload := some (.obj event.payload)

/-- Every field of a ping has its default. -/
def pingEnvelope : PairSignalEnvelope := ⟨"", none, none⟩

/-- The JSON in a frame is an object on one line, and the desktop reads it back: as every
signal is whose time is after 1970. -/
def StreamFrame.Readable (marshal : SignalEvent → String)
    (parse : String → Option PairSignalEnvelope) : StreamFrame → Prop
  | .signal event => (∀ c ∈ (marshal event).toList, c ≠ '\n' ∧ c ≠ '\r') ∧
      (∃ members, marshal event = "\x7b" ++ members) ∧
        parse (marshal event) = some (envelopeOf event)
  | .ping now => parse (pingPayload now) = some pingEnvelope

/-- The signal of a frame for the desktop. -/
def StreamFrame.signals : StreamFrame → List PairSignalEnvelope
  | .signal event => if event.type = "stream.opened" then [] else [envelopeOf event]
  | .ping _ => []

/-- What a complete frame asks the desktop to handle. -/
def StreamFrame.envelopes : StreamFrame → List PairSignalEnvelope
  | .signal event => if event.type = "stream.opened" then [] else [envelopeOf event]
  | .ping _ => [pingEnvelope]

/-- The desktop handles envelopes, up to the first error. -/
def handleEnvelopes {σ : Type} (handle : σ → PairSignalEnvelope → σ × Option String) :
    σ → List PairSignalEnvelope → σ × Option String
  | state, [] => (state, none)
  | state, envelope :: rest =>
      proceed (handle state envelope) fun state => handleEnvelopes handle state rest

theorem proceed_proceed {σ : Type} (outcome : σ × Option String)
    (next later : σ → σ × Option String) :
    proceed (proceed outcome next) later =
      proceed outcome fun state => proceed (next state) later := by
  obtain ⟨state, error⟩ := outcome
  cases error with
  | none => rfl
  | some error => rfl

/-! ## Frames as blocks -/

/-- The lines of a frame, without the empty one. -/
def StreamFrame.body (marshal : SignalEvent → String) : StreamFrame → List (List Char)
  | .signal event => ["data: ".toList ++ (marshal event).toList]
  | .ping now => ["event: ping".toList, "data: ".toList ++ (pingPayload now).toList]

section Frames

variable {σ : Type} {marshal : SignalEvent → String}
  {parse : String → Option PairSignalEnvelope}
  {handle : σ → PairSignalEnvelope → σ × Option String}

theorem toList_newline : "\n".toList = ['\n'] := by decide

theorem toList_write (frame : StreamFrame) :
    (frame.write marshal).toList = Lines.block '\n' (frame.body marshal) := by
  cases frame with
  | signal event =>
      simp only [StreamFrame.write, writeSSE, StreamFrame.body, Lines.block, String.toList_append,
        toList_newline, List.flatMap_cons, List.flatMap_nil, List.append_nil, List.append_assoc]
  | ping now =>
      simp only [StreamFrame.write, writePing, StreamFrame.body, Lines.block, String.toList_append,
        toList_newline, List.flatMap_cons, List.flatMap_nil, List.append_nil, List.append_assoc]

theorem no_line_end_of_all {text : List Char}
    (hall : text.all fun c => decide (c ≠ '\n' ∧ c ≠ '\r')) : ∀ c ∈ text, c ≠ '\n' ∧ c ≠ '\r' :=
  fun c hc => of_decide_eq_true (List.all_eq_true.mp hall c hc)

/-- Digits, and nothing else, stand for a number. -/
theorem mem_pingPayload {now : ℕ} {c : Char} (hc : c ∈ (pingPayload now).toList) :
    c ≠ '\n' ∧ c ≠ '\r' := by
  have hdigits : ∀ c ∈ (toString now).toList, c ≠ '\n' ∧ c ≠ '\r' := by
    intro c hc
    have hdecimal : c ∈ Nat.toDigits 10 now := by simpa using hc
    have hdigit : c.isDigit = true :=
      Nat.isDigit_of_mem_toDigits (by decide) (by decide) hdecimal
    constructor
    · rintro rfl
      cases hdigit
    · rintro rfl
      cases hdigit
  have hopen : ∀ c ∈ "\x7b".toList ++ "\"ts\":".toList, c ≠ '\n' ∧ c ≠ '\r' :=
    no_line_end_of_all (by decide +kernel)
  have hclose : ∀ c ∈ "\x7d".toList, c ≠ '\n' ∧ c ≠ '\r' := no_line_end_of_all (by decide +kernel)
  rw [pingPayload, String.toList_append, String.toList_append, String.toList_append,
    List.mem_append, List.mem_append] at hc
  obtain (hc | hc) | hc := hc
  · exact hopen c hc
  · exact hdigits c hc
  · exact hclose c hc

/-- The lines of a frame have no line ends in them, and begin with a letter. -/
theorem mem_body {frame : StreamFrame} (hread : frame.Readable marshal parse) {line : List Char}
    (hline : line ∈ frame.body marshal) :
    (∀ c ∈ line, c ≠ '\n' ∧ c ≠ '\r') ∧ line ≠ [] := by
  have hdata : ∀ c ∈ "data: ".toList, c ≠ '\n' ∧ c ≠ '\r' := no_line_end_of_all (by decide +kernel)
  have hne : "data: ".toList ≠ [] := by decide +kernel
  have hcarry : ∀ text : String, (∀ c ∈ text.toList, c ≠ '\n' ∧ c ≠ '\r') →
      (∀ c ∈ "data: ".toList ++ text.toList, c ≠ '\n' ∧ c ≠ '\r') ∧
        "data: ".toList ++ text.toList ≠ [] := by
    intro text htext
    refine ⟨fun c hc => ?_, fun hnil => hne (List.append_eq_nil_iff.mp hnil).1⟩
    obtain hc | hc := List.mem_append.mp hc
    · exact hdata c hc
    · exact htext c hc
  cases frame with
  | signal event =>
      rw [StreamFrame.body, List.mem_singleton] at hline
      rw [hline]
      exact hcarry _ hread.1
  | ping now =>
      rw [StreamFrame.body, List.mem_cons, List.mem_singleton] at hline
      obtain rfl | rfl := hline
      · exact ⟨no_line_end_of_all (by decide +kernel), by decide +kernel⟩
      · exact hcarry _ fun c hc => mem_pingPayload hc

/-! ## Reading a frame -/

/-- What is not empty keeps a part of itself when its end is trimmed off. -/
theorem trimLineEnd_of_prefix {line whole : List Char}
    (hclean : ∀ c ∈ whole, c ≠ '\n' ∧ c ≠ '\r') (hwhole : whole ≠ [])
    (hpart : line <+: whole ++ ['\n']) (hne : line ≠ []) : trimLineEnd line ≠ [] := by
  intro hempty
  rw [trimLineEnd, List.rdropWhile_eq_nil_iff] at hempty
  cases line with
  | nil => exact hne rfl
  | cons c line =>
      cases whole with
      | nil => exact hwhole rfl
      | cons first whole =>
          obtain ⟨rfl, -⟩ := List.cons_prefix_cons.mp hpart
          obtain ⟨hnewline, hreturn⟩ := hclean c (by simp)
          have hend := of_decide_eq_true (hempty c (by simp))
          exact hend.elim hreturn hnewline

/-- A line without line ends is read whole. -/
theorem trimLineEnd_line {line : List Char} (hclean : ∀ c ∈ line, c ≠ '\n' ∧ c ≠ '\r') :
    trimLineEnd (line ++ ['\n']) = line := by
  rw [trimLineEnd, List.rdropWhile_concat_pos _ _ _ (by decide), List.rdropWhile_eq_self_iff]
  intro hne hend
  obtain ⟨hnewline, hreturn⟩ := hclean _ (List.getLast_mem hne)
  exact (of_decide_eq_true hend).elim hreturn hnewline

theorem trimLineEnd_newline : trimLineEnd ['\n'] = [] := by decide

/-- As long as no line is empty, nothing is handled. -/
theorem readStream_of_no_end {dataLines : List String} {state : σ} {unfinished : List (List Char)}
    (hlines : ∀ line ∈ unfinished, trimLineEnd line ≠ []) :
    readStream parse handle dataLines state unfinished = (state, none) := by
  induction unfinished generalizing dataLines with
  | nil => rfl
  | cons line rest ih =>
      rw [List.forall_mem_cons] at hlines
      rw [readStream, if_neg hlines.1]
      cases dataOf (trimLineEnd line) with
      | none => exact ih hlines.2
      | some data => exact ih hlines.2

/-- The line `data:` of a JSON object. -/
theorem dataOf_object {json members : String} (hobject : json = "\x7b" ++ members) :
    dataOf ("data: ".toList ++ json.toList) = some json := by
  have hspace : "data: ".toList = "data:".toList ++ [' '] := by decide +kernel
  have hbrace : "\x7b".toList = ['\x7b'] := by decide
  unfold dataOf
  rw [hspace, List.append_assoc, if_pos, List.drop_left]
  · rw [List.singleton_append, List.dropWhile_cons_of_pos (by decide), hobject,
      String.toList_append, hbrace, List.singleton_append, List.dropWhile_cons_of_neg (by decide),
      ← List.singleton_append, ← hbrace, ← String.toList_append, String.ofList_toList]
  · rw [List.isPrefixOf_iff_prefix]
    exact List.prefix_append _ _

theorem dataOf_event : dataOf "event: ping".toList = none := by decide +kernel

/-- The line `data:` of an object, and the empty line behind it. -/
theorem readStream_object {json members : String} (hobject : json = "\x7b" ++ members)
    (hclean : ∀ c ∈ "data: ".toList ++ json.toList, c ≠ '\n' ∧ c ≠ '\r')
    {envelope : PairSignalEnvelope} (hparse : parse json = some envelope) (state : σ)
    (rest : List (List Char)) :
    readStream parse handle [] state
        (("data: ".toList ++ json.toList ++ ['\n']) :: ['\n'] :: rest) =
      if envelope.type = "stream.opened" then readStream parse handle [] state rest
      else proceed (handle state envelope) fun state => readStream parse handle [] state rest := by
  have hne : "data: ".toList ++ json.toList ≠ [] := by
    intro hnil
    exact absurd (List.append_eq_nil_iff.mp hnil).1 (by decide +kernel)
  rw [readStream, trimLineEnd_line hclean, if_neg hne, dataOf_object hobject]
  dsimp only [List.nil_append]
  rw [readStream, trimLineEnd_newline, if_pos rfl, if_neg (List.cons_ne_nil _ _),
    String.intercalate_singleton, hparse]

/-- **A complete frame** has its signal handled, and the lines after it are read from there
on. -/
theorem readStream_frame {frame : StreamFrame} (hread : frame.Readable marshal parse) (state : σ)
    (text : List Char) :
    readStream parse handle [] state
        (Lines.lines '\n' ((frame.write marshal).toList ++ text)) =
      proceed (handleEnvelopes handle state frame.envelopes) fun state =>
        readStream parse handle [] state (Lines.lines '\n' text) := by
  have hclean : ∀ line ∈ frame.body marshal, ∀ c ∈ line, c ≠ '\n' ∧ c ≠ '\r' :=
    fun line hline => (mem_body hread hline).1
  rw [toList_write, Lines.lines_block fun line hline hmem => (hclean line hline _ hmem).1 rfl]
  cases frame with
  | signal event =>
      obtain ⟨-, ⟨members, hobject⟩, hparse⟩ := hread
      have hobjects := @readStream_object σ parse handle _ _ hobject
        (hclean _ (by simp [StreamFrame.body])) _ hparse state (Lines.lines '\n' text)
      simp only [StreamFrame.body, List.map_cons, List.map_nil, List.singleton_append]
      rw [hobjects]
      show (if event.type = "stream.opened" then _ else _) = _
      dsimp only [StreamFrame.envelopes]
      by_cases hopened : event.type = "stream.opened"
      · rw [if_pos hopened, if_pos hopened]
        rfl
      · rw [if_neg hopened, if_neg hopened, handleEnvelopes, proceed_proceed]
        rfl
  | ping now =>
      have hobject : pingPayload now = "\x7b" ++ ("\"ts\":" ++ toString now ++ "\x7d") := by
        simp only [pingPayload, String.append_assoc]
      have hobjects := @readStream_object σ parse handle (pingPayload now) _ hobject
        (hclean _ (by simp [StreamFrame.body])) _ hread state (Lines.lines '\n' text)
      have hevent : trimLineEnd ("event: ping".toList ++ ['\n']) = "event: ping".toList :=
        trimLineEnd_line (hclean _ (by simp [StreamFrame.body]))
      simp only [StreamFrame.body, List.map_cons, List.map_nil, List.cons_append, List.nil_append]
      rw [readStream, hevent, if_neg (by decide +kernel), dataOf_event]
      dsimp only
      rw [hobjects, if_neg (by decide +kernel)]
      dsimp only [StreamFrame.envelopes]
      rw [handleEnvelopes, proceed_proceed]
      rfl

/-! ## Reading a stream -/

theorem handleEnvelopes_append (state : σ) (first second : List PairSignalEnvelope) :
    handleEnvelopes handle state (first ++ second) =
      proceed (handleEnvelopes handle state first) fun state =>
        handleEnvelopes handle state second := by
  induction first generalizing state with
  | nil => rfl
  | cons envelope first ih =>
      rw [List.cons_append, handleEnvelopes, handleEnvelopes, proceed_proceed]
      exact congrArg _ (funext fun state => ih state)

/-- Complete frames in front of a text. -/
theorem readStream_frames {frames : List StreamFrame}
    (hread : ∀ frame ∈ frames, frame.Readable marshal parse) (state : σ) (text : List Char) :
    readStream parse handle [] state (Lines.lines '\n' (writeAll marshal frames ++ text)) =
      proceed (handleEnvelopes handle state (frames.flatMap StreamFrame.envelopes)) fun state =>
        readStream parse handle [] state (Lines.lines '\n' text) := by
  induction frames generalizing state with
  | nil => rfl
  | cons frame frames ih =>
      rw [List.forall_mem_cons] at hread
      rw [writeAll, List.map_cons, List.flatten_cons, List.append_assoc,
        readStream_frame hread.1, List.flatMap_cons, handleEnvelopes_append, proceed_proceed]
      exact congrArg _ (funext fun state => ih hread.2 state)

/-- A frame that was cut off has nothing handled. -/
theorem readStream_cut {frame : StreamFrame} (hread : frame.Readable marshal parse)
    {text : List Char} (hcut : text <+: (frame.write marshal).toList)
    (hne : text ≠ (frame.write marshal).toList) (state : σ) :
    readStream parse handle [] state (Lines.lines '\n' text) = (state, none) := by
  rw [toList_write] at hcut hne
  have hclean : ∀ line ∈ frame.body marshal, ∀ c ∈ line, c ≠ '\n' ∧ c ≠ '\r' :=
    fun line hline => (mem_body hread hline).1
  have hlines := Lines.lines_of_prefix_block
    (fun line hline hmem => (hclean line hline _ hmem).1 rfl) hcut hne
  apply readStream_of_no_end
  intro line hline
  obtain ⟨hnonempty, whole, hwhole, hpart⟩ := hlines line hline
  exact trimLineEnd_of_prefix (hclean whole hwhole) (mem_body hread hwhole).2 hpart hnonempty

/-- The first `k` frames arrived whole, and not the next one. -/
def Arrived (marshal : SignalEvent → String) (frames : List StreamFrame) (text : List Char)
    (k : ℕ) : Prop :=
  writeAll marshal (frames.take k) <+: text ∧
    ∀ next, frames[k]? = some next →
      ¬writeAll marshal (frames.take k) ++ (next.write marshal).toList <+: text

/-- A text that was cut off has some frames whole, and of the next one a part. -/
theorem exists_arrived {frames : List StreamFrame} {text : List Char}
    (hcut : text <+: writeAll marshal frames) :
    ∃ k rest, text = writeAll marshal (frames.take k) ++ rest ∧ Arrived marshal frames text k ∧
      (rest = [] ∨ ∃ next ∈ frames, rest <+: (next.write marshal).toList ∧
        rest ≠ (next.write marshal).toList) := by
  obtain ⟨k, rest, rfl, hrest⟩ := Lines.exists_of_prefix_flatten hcut
  rw [← List.map_take, ← writeAll]
  refine ⟨k, rest, rfl, ⟨List.prefix_append _ _, fun next hnext hlonger => ?_⟩, ?_⟩
  · have hinside := (List.prefix_append_right_inj _).mp hlonger
    obtain rfl | ⟨other, hother, hpart, hne⟩ := hrest
    · have hempty := List.prefix_nil.mp hinside
      rw [toList_write, Lines.block] at hempty
      simp at hempty
    · rw [List.getElem?_map, hnext, Option.map_some, Option.some.injEq] at hother
      rw [← hother] at hpart hne
      exact hne (hpart.eq_of_length (le_antisymm hpart.length_le hinside.length_le))
  · obtain hnil | ⟨next, hnext, hpart⟩ := hrest
    · exact .inl hnil
    · rw [List.getElem?_map, Option.map_eq_some_iff] at hnext
      obtain ⟨frame, hframe, rfl⟩ := hnext
      exact .inr ⟨frame, List.mem_of_getElem? hframe, hpart⟩

/-- **A stream that was cut anywhere** has the signals of the frames handled that arrived
whole, in their order and up to the first error, and nothing of the frame that was cut. -/
theorem stream_handles_complete_frames {frames : List StreamFrame}
    (hread : ∀ frame ∈ frames, frame.Readable marshal parse) {text : List Char}
    (hcut : text <+: writeAll marshal frames) :
    ∃ k, Arrived marshal frames text k ∧ ∀ state : σ, runSignalStream parse handle state text =
      handleEnvelopes handle state ((frames.take k).flatMap StreamFrame.envelopes) := by
  obtain ⟨k, rest, rfl, harrived, hrest⟩ := exists_arrived hcut
  refine ⟨k, harrived, fun state => ?_⟩
  unfold runSignalStream
  rw [readStream_frames fun frame hframe => hread frame (List.mem_of_mem_take hframe)]
  -- what is left of the next frame adds nothing
  have hquiet : ∀ state, readStream parse handle [] state (Lines.lines '\n' rest) =
      (state, none) := by
    intro state
    obtain rfl | ⟨frame, hframe, hpart, hne⟩ := hrest
    · rfl
    · exact readStream_cut (hread frame hframe) hpart hne state
  simp only [hquiet]
  generalize handleEnvelopes handle state _ = outcome
  obtain ⟨state, error⟩ := outcome
  cases error with
  | none => rfl
  | some error => rfl

end Frames

/-! ## The desktop behind the stream -/

/-- `handle_signal_event`: the one error is a WebRTC payload that cannot be read.  The
desktop reads the clock anew for each signal; `state.1` counts them. -/
def handleSignalEvent (platform : Desktop.Platform) (envs : ℕ → Desktop.Env) (generation : ℕ)
    (state : ℕ × Desktop.Backend) (envelope : PairSignalEnvelope) :
    (ℕ × Desktop.Backend) × Option String :=
  if state.2.current generation ∧ Desktop.isWebrtc (unicodeTrim envelope.type) ∧
      platform.decodeSignal (envelope.payload.getD (.obj [])) = none then
    (state, some "解析信令失败")
  else
    ((state.1 + 1,
      (Desktop.perform platform (envs state.1) state.2 (.signal generation envelope)).1), none)

/-- Signals as events of the desktop, each with the number of its reading of the clock. -/
def signalEvents (envs : ℕ → Desktop.Env) (generation : ℕ)
    (handled : List (PairSignalEnvelope × ℕ)) : List (Desktop.Env × Desktop.Event) :=
  handled.map fun entry => (envs entry.2, .signal generation entry.1)

section Backend

variable {platform : Desktop.Platform} {envs : ℕ → Desktop.Env} {generation : ℕ}

def backendStep (platform : Desktop.Platform) (backend : Desktop.Backend)
    (event : Desktop.Env × Desktop.Event) : Desktop.Backend :=
  (Desktop.perform platform event.1 backend event.2).1

/-- **A ping leaves the desktop alone.** -/
theorem perform_pingEnvelope (env : Desktop.Env) (backend : Desktop.Backend) :
    (Desktop.perform platform env backend (.signal generation pingEnvelope)).1 = backend := by
  have htype : unicodeTrim pingEnvelope.type = "" := by decide
  have hsignal : Desktop.handleSignal platform env backend pingEnvelope =
      (backend.channels, none) := by
    unfold Desktop.handleSignal
    rw [htype]
    rfl
  rw [Desktop.perform]
  split
  · dsimp only
    rw [hsignal]
  · rfl

theorem handleSignalEvent_ping (state : ℕ × Desktop.Backend) :
    handleSignalEvent platform envs generation state pingEnvelope =
      ((state.1 + 1, state.2), none) := by
  have hwebrtc : ¬(state.2.current generation ∧ Desktop.isWebrtc (unicodeTrim pingEnvelope.type) ∧
      platform.decodeSignal (pingEnvelope.payload.getD (.obj [])) = none) := by
    have htype : ¬Desktop.isWebrtc (unicodeTrim pingEnvelope.type) := by decide
    exact fun h => htype h.2.1
  rw [handleSignalEvent, if_neg hwebrtc, perform_pingEnvelope]

/-- The signals of frames that the desktop handles, the first one at `count`. -/
structure Handled (frames : List StreamFrame) (count : ℕ)
    (handled : List (PairSignalEnvelope × ℕ)) : Prop where
  signals : handled.map Prod.fst <+: frames.flatMap StreamFrame.signals
  late : ∀ entry ∈ handled, count ≤ entry.2
  clock : (handled.map Prod.snd).Pairwise (· < ·)

theorem Handled.skip {frame : StreamFrame} {frames : List StreamFrame} {count later : ℕ}
    {handled : List (PairSignalEnvelope × ℕ)} (hnone : frame.signals = []) (hle : count ≤ later)
    (hhandled : Handled frames later handled) : Handled (frame :: frames) count handled where
  signals := by
    rw [List.flatMap_cons, hnone]
    exact hhandled.signals
  late entry hentry := hle.trans (hhandled.late entry hentry)
  clock := hhandled.clock

theorem Handled.cons {frame : StreamFrame} {frames : List StreamFrame} {count : ℕ}
    {envelope : PairSignalEnvelope} {handled : List (PairSignalEnvelope × ℕ)}
    (hone : frame.signals = [envelope]) (hhandled : Handled frames (count + 1) handled) :
    Handled (frame :: frames) count ((envelope, count) :: handled) where
  signals := by
    rw [List.flatMap_cons, hone, List.map_cons]
    exact List.cons_prefix_cons.mpr ⟨rfl, hhandled.signals⟩
  late entry hentry := by
    rcases List.mem_cons.mp hentry with rfl | hlater
    · exact le_refl _
    · exact (Nat.le_succ _).trans (hhandled.late entry hlater)
  clock := by
    refine List.pairwise_cons.mpr ⟨fun number hnumber => ?_, hhandled.clock⟩
    obtain ⟨entry, hentry, rfl⟩ := List.mem_map.mp hnumber
    exact hhandled.late entry hentry

/-- Handling what frames say is a run of the desktop, over all their signals or up to an
error. -/
theorem handleEnvelopes_run (state : ℕ × Desktop.Backend) (frames : List StreamFrame) :
    ∃ handled, Handled frames state.1 handled ∧
      (handleEnvelopes (handleSignalEvent platform envs generation) state
          (frames.flatMap StreamFrame.envelopes)).1.2 =
        Steps.run (backendStep platform) state.2 (signalEvents envs generation handled) ∧
      ((handleEnvelopes (handleSignalEvent platform envs generation) state
          (frames.flatMap StreamFrame.envelopes)).2 = none →
        handled.map Prod.fst = frames.flatMap StreamFrame.signals) := by
  induction frames generalizing state with
  | nil => exact ⟨[], ⟨List.prefix_rfl, nofun, .nil⟩, rfl, fun _ => rfl⟩
  | cons frame rest ih =>
      rw [List.flatMap_cons, List.flatMap_cons]
      cases frame with
      | ping now =>
          obtain ⟨handled, hhandled, hrun, hall⟩ := ih (state.1 + 1, state.2)
          rw [StreamFrame.envelopes, List.singleton_append, handleEnvelopes, handleSignalEvent_ping]
          exact ⟨handled, hhandled.skip rfl (Nat.le_succ _), hrun, hall⟩
      | signal event =>
          by_cases hopened : event.type = "stream.opened"
          · obtain ⟨handled, hhandled, hrun, hall⟩ := ih state
            rw [StreamFrame.envelopes, StreamFrame.signals, if_pos hopened]
            exact ⟨handled, hhandled.skip (if_pos hopened) (le_refl _), hrun, hall⟩
          · rw [StreamFrame.envelopes, StreamFrame.signals, if_neg hopened,
              List.singleton_append, List.singleton_append, handleEnvelopes]
            unfold handleSignalEvent
            split
            · refine ⟨[], ⟨List.nil_prefix, nofun, .nil⟩, rfl, fun hnone => ?_⟩
              cases hnone
            · obtain ⟨handled, hhandled, hrun, hall⟩ := ih (state.1 + 1, (Desktop.perform platform
                (envs state.1) state.2 (.signal generation (envelopeOf event))).1)
              refine ⟨_, hhandled.cons (if_neg hopened), hrun, fun hnone => ?_⟩
              rw [List.map_cons, hall hnone]

/-- **The desktop after a stream.**  Wherever the connection breaks, the state of the
desktop is that of a run of its state machine over the signals of the frames that arrived
whole, one after the other; it handles fewer only if one of them cannot be read. -/
theorem stream_is_run {marshal : SignalEvent → String}
    {parse : String → Option PairSignalEnvelope} {frames : List StreamFrame}
    (hread : ∀ frame ∈ frames, frame.Readable marshal parse) {text : List Char}
    (hcut : text <+: writeAll marshal frames) :
    ∃ k, Arrived marshal frames text k ∧ ∀ backend,
      ∃ handled, Handled (frames.take k) 0 handled ∧
        (runSignalStream parse (handleSignalEvent platform envs generation) (0, backend) text).1.2 =
          Steps.run (backendStep platform) backend (signalEvents envs generation handled) ∧
        ((runSignalStream parse (handleSignalEvent platform envs generation) (0, backend) text).2 =
          none → handled.map Prod.fst = (frames.take k).flatMap StreamFrame.signals) := by
  obtain ⟨k, harrived, hhandled⟩ := @stream_handles_complete_frames _ marshal parse
    (handleSignalEvent platform envs generation) frames hread text hcut
  refine ⟨k, harrived, fun backend => ?_⟩
  rw [hhandled]
  exact handleEnvelopes_run (0, backend) _

end Backend

/-! ### A stream that breaks in a ping -/

/-- The desktop is connected, with a channel for `bind_1`. -/
def connectedBackend : Desktop.Backend :=
  let env : Desktop.Env := ⟨0, fun kind => kind ++ "_1", .plain⟩
  ([.setAppHandle, .setChannelOpen true true, .connect false,
    .createSession ⟨"pair_1", "", "", 0, some "mob_1", some "bind_1"⟩] :
      List Desktop.Event).foldl (fun backend event =>
        (Desktop.perform Desktop.plainPlatform env backend event).1) .initial

def revokedEvent : SignalEvent :=
  ⟨"v2evt_2", "pair.revoked", 1, none, none, [("bindingId", .str "bind_1")]⟩

/-- As `json.Marshal` writes a signal with plain texts, without parties. -/
def plainMarshal (event : SignalEvent) : String :=
  let member : String × Json → String := fun
    | (key, .str text) => "\"" ++ key ++ "\":\"" ++ text ++ "\""
    | (key, _) => "\"" ++ key ++ "\":null"
  "\x7b" ++ "\"id\":\"" ++ event.id ++ "\",\"type\":\"" ++ event.type ++ "\",\"ts\":" ++
    toString event.ts ++ ",\"payload\":\x7b" ++
    String.intercalate "," (event.payload.map member) ++ "\x7d\x7d"

/-- What the server writes until the desktop is gone. -/
def pingedFrames : List StreamFrame :=
  [.signal (openedEvent "v2evt_1" "desktop" "desk" 0), .ping 4, .signal revokedEvent, .ping 5]

def pingedParse (text : String) : Option PairSignalEnvelope :=
  if text = plainMarshal (openedEvent "v2evt_1" "desktop" "desk" 0) then
    some (envelopeOf (openedEvent "v2evt_1" "desktop" "desk" 0))
  else if text = plainMarshal revokedEvent then some (envelopeOf revokedEvent)
  else some pingEnvelope

def brokenStream : List Char :=
  writeAll plainMarshal (pingedFrames.take 3) ++ "event: ping\nda".toList

/-- A clock that counts the signals. -/
def countingEnvs (count : ℕ) : Desktop.Env := ⟨count, fun kind => kind, .plain⟩

theorem readable_pingedFrames :
    ∀ frame ∈ pingedFrames, frame.Readable plainMarshal pingedParse := by
  have hobject : ∀ event, ∃ members, plainMarshal event = "\x7b" ++ members := by
    intro event
    unfold plainMarshal
    simp only [String.append_assoc]
    exact ⟨_, rfl⟩
  intro frame hframe
  simp only [pingedFrames, List.mem_cons, List.not_mem_nil, or_false] at hframe
  obtain rfl | rfl | rfl | rfl := hframe
  · exact ⟨no_line_end_of_all (by decide +kernel), hobject _, if_pos rfl⟩
  · show pingedParse (pingPayload 4) = some pingEnvelope
    rw [pingedParse, if_neg (by decide +kernel), if_neg (by decide +kernel)]
  · refine ⟨no_line_end_of_all (by decide +kernel), hobject _, ?_⟩
    rw [pingedParse, if_neg (by decide +kernel), if_pos rfl]
  · show pingedParse (pingPayload 5) = some pingEnvelope
    rw [pingedParse, if_neg (by decide +kernel), if_neg (by decide +kernel)]

/-- The channel was pending, and its binding is revoked. -/
theorem stream_is_run_broken :
    (connectedBackend.channels.values.map fun channel => channel.trustState) = ["pending"] ∧
    ((runSignalStream pingedParse (handleSignalEvent Desktop.plainPlatform countingEnvs 1)
      (0, connectedBackend) brokenStream).1.2.channels.values.map fun channel =>
        channel.trustState) = ["revoked"] ∧
    ∃ k handled, Arrived plainMarshal pingedFrames brokenStream k ∧
      Handled (pingedFrames.take k) 0 handled ∧
      (runSignalStream pingedParse (handleSignalEvent Desktop.plainPlatform countingEnvs 1)
          (0, connectedBackend) brokenStream).1.2 =
        Steps.run (backendStep Desktop.plainPlatform) connectedBackend
          (signalEvents countingEnvs 1 handled) := by
  refine ⟨by decide +kernel, by decide +kernel, ?_⟩
  have hcut : brokenStream <+: writeAll plainMarshal pingedFrames := by decide +kernel
  obtain ⟨k, harrived, hrun⟩ := @stream_is_run Desktop.plainPlatform countingEnvs 1 _ _ _
    readable_pingedFrames _ hcut
  obtain ⟨handled, hhandled, hstate, -⟩ := hrun connectedBackend
  exact ⟨k, handled, harrived, hhandled, hstate⟩

end OpenClaw.Wire

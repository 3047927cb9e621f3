import OpenClaw.Runtime.Object
import OpenClaw.Runtime.Text

/-!
# Signals

The server carries signals between clients, each known by a type and an id, and keeps
the ones that nobody takes in a queue for the client.  What both of its stores and its
persistence use stands here.
-/

namespace OpenClaw.Server

open OpenClaw.Runtime

structure ServerError where
  code : String
  message : String
deriving DecidableEq

structure SignalParty where
  type : String
  id : String

structure SignalEvent where
  id : String
  type : String
  ts : ℤ
  sender : Option SignalParty
  receiver : Option SignalParty
  payload : List (String × Json)

structure SendSignalRequest where
  fromType : String
  fromId : String
  toType : String
  toId : String
  type : String
  payload : List (String × Json)

def maxSignalQueuePull : ℤ := 500

def clampInt (value low high : ℤ) : ℤ :=
  if value < low then low else if value > high then high else value

def trimRequired (value field : String) : Except ServerError String :=
  if unicodeTrim value = "" then .error ⟨"VALIDATION_ERROR", field ++ " is required"⟩
  else .ok (unicodeTrim value)

def clientKey (clientType clientId : String) : String := clientType ++ ":" ++ clientId

/-! ## Checks one after another -/

theorem bind_eq_ok_iff {α β : Type} {checked : Except ServerError α}
    {next : α → Except ServerError β} {result : β} :
    (checked >>= next) = .ok result ↔ ∃ value, checked = .ok value ∧ next value = .ok result := by
  constructor
  · intro hok
    cases checked with
    | error error => cases hok
    | ok value => exact ⟨value, rfl, hok⟩
  · rintro ⟨value, rfl, hok⟩
    exact hok

section TrimRequired

variable {value field result : String}

theorem trimRequired_of_ne (hvalue : unicodeTrim value ≠ "") :
    trimRequired value field = .ok (unicodeTrim value) := if_neg hvalue

theorem trimRequired_of_eq (hvalue : unicodeTrim value = "") :
    trimRequired value field = .error ⟨"VALIDATION_ERROR", field ++ " is required"⟩ :=
  if_pos hvalue

theorem eq_of_trimRequired (htrim : trimRequired value field = .ok result) :
    result = unicodeTrim value := by
  unfold trimRequired at htrim
  split at htrim
  · cases htrim
  · exact (Except.ok.inj htrim).symm

end TrimRequired

end OpenClaw.Server

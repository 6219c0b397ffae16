import Mathlib.Tactic.Common

/-! # Coded errors -/

namespace Parsec

inductive Code
  | channelInvalid
  | channelNotFound
  | channelExists
  | channelClosed
  | channelTTLExceeds
  | authDenied
  | authExpired
  | brokerNotReady
  | brokerInternal
  | sinkUnavailable
  | sinkConfig
  | sinkDLQOverflow
  | sinkDLQNotFound
  | rateLimited
  | invalidArgument
  | internal
  deriving DecidableEq

def Code.text : Code → String
  | channelInvalid => "PARSEC_CHANNEL_INVALID"
  | channelNotFound => "PARSEC_CHANNEL_NOT_FOUND"
  | channelExists => "PARSEC_CHANNEL_EXISTS"
  | channelClosed => "PARSEC_CHANNEL_CLOSED"
  | channelTTLExceeds => "PARSEC_CHANNEL_TTL_EXCEEDS_MAX"
  | authDenied => "PARSEC_AUTH_DENIED"
  | authExpired => "PARSEC_AUTH_EXPIRED"
  | brokerNotReady => "PARSEC_BROKER_NOT_READY"
  | brokerInternal => "PARSEC_BROKER_INTERNAL"
  | sinkUnavailable => "PARSEC_SINK_UNAVAILABLE"
  | sinkConfig => "PARSEC_SINK_CONFIG_INVALID"
  | sinkDLQOverflow => "PARSEC_SINK_DLQ_OVERFLOW"
  | sinkDLQNotFound => "PARSEC_SINK_DLQ_NOT_FOUND"
  | rateLimited => "PARSEC_RATE_LIMITED"
  | invalidArgument => "PARSEC_INVALID_ARGUMENT"
  | internal => "PARSEC_INTERNAL"

structure CodedError where
  code : Code
  message : String
  cause : Option String := none
  deriving DecidableEq

def CodedError.text (error : CodedError) : String :=
  match error.cause with
  | some cause => error.code.text ++ ": " ++ error.message ++ ": " ++ cause
  | none => error.code.text ++ ": " ++ error.message

def denied (message : String) : CodedError := { code := .authDenied, message := message }

def wrapped (code : Code) (message cause : String) : CodedError :=
  { code := code, message := message, cause := some cause }

def wrap (code : Code) (message cause : String) : String := (wrapped code message cause).text

end Parsec

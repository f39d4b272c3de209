import ClipExchange.Message
import ClipExchange.Wire.Decoder

/-!
# Failures of a transfer

## Main definitions

* `StreamFailure`: a read or write that did not succeed.
* `TransferError`: why a message was not sent, received or accepted.
-/

namespace ClipExchange

/-- The kinds of input and output failures that make a difference. -/
inductive FailureKind where
  | unexpectedEnd
  | writeZero
  | notFound
  | isDirectory
  | otherFailure
deriving DecidableEq, Repr

/-- An input or output failure with the text that describes it. -/
structure StreamFailure where
  kind : FailureKind
  text : String
deriving DecidableEq, Repr

/-- Why a message was not sent, received or accepted. -/
inductive TransferError where
  /-- The payload of a frame is no value of the expected type. -/
  | decoding (cause : Wire.DecodeError)
  /-- A frame is longer than the maximum. -/
  | frameTooLarge (size max : Nat)
  /-- The stream ended inside a frame. -/
  | streamClosed
  /-- The message carries no transaction. -/
  | unexpected (cause : UnexpectedMessage)
  /-- The stream failed. -/
  | stream (cause : StreamFailure)
deriving DecidableEq, Repr

/-- What is said about a failed transfer. -/
def TransferError.message : TransferError → String
  | decoding cause => "deserialisation error: " ++ cause.message
  | frameTooLarge size max =>
    "frame of " ++ toString size ++ " bytes exceeds maximum " ++ toString max
  | streamClosed => "stream closed unexpectedly"
  | unexpected cause => cause.message
  | stream cause => cause.text

end ClipExchange

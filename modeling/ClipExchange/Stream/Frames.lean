import ClipExchange.Stream.Pipe

/-!
# The messages of a stream

## Main definitions

* `Pipe.messages`: every message up to the end of a stream or the first failure.
-/

namespace ClipExchange

namespace Pipe

/-- Receive messages up to the end or the first failure; `done` came before, last one first.
A message takes an octet at least, so one round more than there are octets is enough. -/
def messagesFrom : Nat → List Message → Pipe → List Message × Option TransferError
  | 0, done, _ => (done.reverse, none)
  | fuel + 1, done, pipe =>
    match pipe.receive Message with
    | (.ok (some message), pipe) => messagesFrom fuel (message :: done) pipe
    | (.ok none, _) => (done.reverse, none)
    | (.error e, _) => (done.reverse, some e)

/-- Every message of a stream, and the failure that ends it before its end. -/
def messages (pipe : Pipe) : List Message × Option TransferError :=
  messagesFrom (pipe.queue.length + 1) [] pipe

end Pipe

end ClipExchange

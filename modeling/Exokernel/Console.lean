import Exokernel.Text.Utf8

/-! The console: bytes written by environments, and bytes typed but not yet read. -/

namespace Exokernel

/-- Contents of the console device. -/
structure Console where
  /-- Bytes written and not yet drained, oldest first. -/
  output : Array UInt8 := #[]
  /-- Bytes typed and not yet read, oldest first. -/
  pending : List UInt8 := []

namespace Console

/-- Appends bytes to the output. -/
def write (console : Console) (bytes : List UInt8) : Console :=
  { console with output := console.output.appendList bytes }

/-- Queues typed bytes behind those that wait already. -/
def pushInput (console : Console) (bytes : List UInt8) : Console :=
  { console with pending := console.pending ++ bytes }

/-- Takes the oldest typed byte, if one waits. -/
def read (console : Console) : Option UInt8 × Console :=
  -- Bytes are read in the order in which they were typed.
  match console.pending with
  | [] => (none, console)
  | byte :: rest => (some byte, { console with pending := rest })

/-- The output as text. -/
def text (console : Console) : String :=
  decodeUtf8 console.output

/-- Takes the whole output, leaving none. -/
def drain (console : Console) : List UInt8 × Console :=
  (console.output.toList, { console with output := #[] })

end Console

end Exokernel

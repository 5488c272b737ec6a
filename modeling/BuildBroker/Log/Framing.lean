import BuildBroker.Http.Wire
import BuildBroker.Log.Socket

/-!
# Frames on a Connection

How the frames of a log socket are read from a connection and written to it. What a caller sends is
masked, and a text or a sequence of octets may come in several fragments, between which other frames
may come.
-/

namespace BuildBroker.Log

open Http Wire

/-! ## Fragments -/

/-- A piece of a frame. -/
structure Fragment where
  /-- Whether the frame ends with it. -/
  final : Bool
  /-- The number that says what it is. -/
  kind : Nat
  payload : Bytes
deriving DecidableEq, Repr

/-- Applies the four octets of a mask in turn. -/
def mask (key : Bytes) (b : Bytes) : Bytes :=
  b.zipIdx.map fun (x, i) => x ^^^ key.getD (i % 4) 0

/-- A number of `n` octets, the most significant first. -/
def takeNumber (n : Nat) (b : Bytes) : Taken Nat :=
  (takeOctets n b).map Bytes.toNumber

/-- The length of a payload, of which the first seven bits are given. -/
def takeLength (first : Nat) (b : Bytes) : Taken Nat :=
  if first < 126 then .taken first b
  else takeNumber (if first = 126 then 2 else 8) b

/-- Reads a fragment that a caller has sent. It has to be masked, and no bit may be set that means
nothing. -/
def Fragment.take : Bytes → Taken Fragment
  | head :: second :: rest =>
    if head.toNat / 16 % 8 ≠ 0 ∨ second.toNat < 128 then .malformed
    else
      (takeLength (second.toNat % 128) rest).andThen fun n rest =>
      (takeOctets 4 rest).andThen fun key rest =>
      (takeOctets n rest).map fun payload =>
        ⟨128 ≤ head.toNat, head.toNat % 16, mask key payload⟩
  | _ => .unfinished

/-! ## Frames -/

/-- The largest payload of a frame that is neither text nor octets. -/
def controlLimit : Nat := 125

/-- The frame of a kind with its whole payload, if it is a proper one. -/
def Frame.ofPayload? (kind : Nat) (payload : Bytes) : Option Frame :=
  match kind with
  | 1 => (Bytes.toText? payload).map .text
  | 2 => some (.binary payload)
  | 8 =>
    match payload with
    | [] => some (.close none)
    | high :: low :: _ => some (.close (some (Bytes.toNumber [high, low])))
    | _ => none
  | 9 => some (.ping payload)
  | 10 => some (.pong payload)
  | _ => none

/-- A frame that is not complete: its kind and what has come of it. -/
abbrev Partial := Option (Nat × Bytes)

/-- Adds a fragment to what has come before; `none` if it does not fit. The inner `none` is a frame
that still goes on. -/
def Partial.add? (p : Partial) (f : Fragment) : Option (Partial × Option Frame) :=
  if 8 ≤ f.kind then
    if f.final && f.payload.length ≤ controlLimit then
      (Frame.ofPayload? f.kind f.payload).map fun x => (p, some x)
    else none
  else
    let whole := match p, f.kind with
      | some (kind, before), 0 => some (kind, before ++ f.payload)
      | none, 1 | none, 2 => some (f.kind, f.payload)
      | _, _ => none
    match whole with
    | none => none
    | some (kind, payload) =>
      if f.final then (Frame.ofPayload? kind payload).map fun x => (none, some x)
      else some (some (kind, payload), none)

/-- Reads a fragment and adds it to what has come before. -/
def Partial.take (p : Partial) (b : Bytes) : Taken (Partial × Option Frame) :=
  (Fragment.take b).andThen fun f rest => .ofOption (p.add? f) rest

/-! ## Writing -/

/-- The length of a payload as it is written. -/
def lengthBytes (n : Nat) : Bytes :=
  if n < 126 then [UInt8.ofNat n]
  else if n < 65536 then 126 :: Bytes.ofNumber 2 n
  else 127 :: Bytes.ofNumber 8 n

/-- A frame as it is sent to a caller: in one piece and unmasked. -/
def Frame.toBytes (f : Frame) : Bytes :=
  let (kind, payload) : Nat × Bytes := match f with
    | .text s => (1, Bytes.ofText s)
    | .binary b => (2, b)
    | .close none => (8, [])
    | .close (some code) => (8, Bytes.ofNumber 2 code)
    | .ping b => (9, b)
    | .pong b => (10, b)
  UInt8.ofNat (128 + kind) :: lengthBytes payload.length ++ payload

end BuildBroker.Log

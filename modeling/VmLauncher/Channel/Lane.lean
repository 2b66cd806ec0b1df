-- One direction of a channel: the bytes on their way, and how many more the host has
-- room for.
namespace VmLauncher.Channel

inductive Kind where
  | pipe
  | socket
deriving DecidableEq, Repr

-- A pipe keeps its bytes in one page of memory.
def pageBytes : Nat := 4096

-- A piece of a write into a socket that is kept in memory of its own until all of it
-- is read: the bytes of it that are left, and the memory it is charged for.
structure Parcel where
  left : Nat
  charge : Nat
deriving DecidableEq, Repr

namespace Parcel

-- The bytes that fit beside the bookkeeping in a parcel's first page, and in the pages
-- added to it.
def firstPageBytes : Nat := 3776

def addedBytes : Nat := 32768

def mostBytes : Nat := firstPageBytes + addedBytes

-- The bookkeeping inside of that first page, and the one beside it.
def trailer : Nat := 320

def header : Nat := 256

def roundUp (unit n : Nat) : Nat := (n + unit - 1) / unit * unit

-- The block of memory that the host finds for so many bytes, up to a page.
def block (n : Nat) : Nat :=
  if n ≤ 512 then 512 else if n ≤ 1024 then 1024 else if n ≤ 2048 then 2048 else pageBytes

-- What a parcel of so many bytes is charged: whole pages for what is beyond the first
-- page, and a block for the rest.
def chargeFor (n : Nat) : Nat :=
  let added := min n (roundUp pageBytes (n - firstPageBytes))
  block (roundUp 64 (n - added) + trailer) + header + roundUp pageBytes added

-- A writer may start another parcel while what it is charged for is below this.
def budget : Nat := 212992

-- The parcels that a write of so many bytes is kept in, on top of a charge.
def pack (n charged : Nat) : List Parcel :=
  if n = 0 ∨ budget ≤ charged then []
  else
    let size := min n mostBytes
    ⟨size, chargeFor size⟩ :: pack (n - size) (charged + chargeFor size)
termination_by n
decreasing_by simp only [mostBytes, firstPageBytes, addedBytes]; omega

def charged (ps : List Parcel) : Nat := ps.foldr (fun p n => p.charge + n) 0

def total (ps : List Parcel) : Nat := ps.foldr (fun p n => p.left + n) 0

-- What is left of parcels once so many bytes of them are read.
def consume : Nat → List Parcel → List Parcel
  | _, [] => []
  | n, p :: ps =>
      if p.left ≤ n then consume (n - p.left) ps
      else { p with left := p.left - n } :: ps

end Parcel

-- `spent` counts the bytes of a pipe's page that are read while others behind them are
-- not; `parcels` are those of a socket.
structure Lane where
  bytes : List UInt8 := []
  spent : Nat := 0
  parcels : List Parcel := []
deriving DecidableEq, Repr

namespace Lane

-- How many of so many bytes that are written go on their way at once. Behind bytes
-- that are still in a pipe's page there is only room for the part of a write that
-- does not fill pages of its own, and only if all of that part fits: a short write is
-- never split. What was read leaves room once nothing is left.
def room (l : Lane) (kind : Kind) (wanted : Nat) : Nat :=
  match kind with
  | .socket => Parcel.total (Parcel.pack wanted (Parcel.charged l.parcels))
  | .pipe =>
      if l.bytes.isEmpty then min wanted pageBytes
      else
        let part := wanted % pageBytes
        if l.spent + l.bytes.length + part ≤ pageBytes then part else 0

def push (l : Lane) (kind : Kind) (bytes : List UInt8) : Lane :=
  { l with
    bytes := l.bytes ++ bytes
    parcels :=
      match kind with
      | .pipe => []
      | .socket => l.parcels ++ Parcel.pack bytes.length (Parcel.charged l.parcels) }

-- What is left once so many bytes are read.
def consume (l : Lane) (count : Nat) : Lane :=
  let left := l.bytes.drop count
  { bytes := left
    spent := if left.isEmpty then 0 else l.spent + count
    parcels := Parcel.consume count l.parcels }

end Lane

end VmLauncher.Channel

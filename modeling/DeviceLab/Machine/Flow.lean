import DeviceLab.Program
import DeviceLab.Text.Utf8

/-! Flows: the bytes that go through a pipe.

A flow ends, or repeats the same bytes for ever, or stays open with nothing more
to come. Whoever reads a flow that does not end up to its end does not end either. -/
namespace DeviceLab

/-- What comes behind the first bytes of a flow. -/
inductive Tail where
  | ends
  | repeats (bytes : ByteArray)
  | hangs

structure Flow where
  bytes : ByteArray
  tail : Tail

namespace Flow

def ofBytes (bytes : ByteArray) : Flow := ⟨bytes, .ends⟩
def ofText (s : String) : Flow := ofBytes (Utf8.encode s)
def empty : Flow := ofBytes .empty

def endless (f : Flow) : Bool :=
  match f.tail with
  | .ends => false
  | _ => true

/-- One flow behind another. What is behind an endless one never comes. -/
def append (f g : Flow) : Flow :=
  if f.endless then f else ⟨f.bytes ++ g.bytes, g.tail⟩

/-! ### The first bytes -/

/-- The bytes with `count` repetitions behind them. -/
def repeated (bytes part : ByteArray) : (count : Nat) → ByteArray
  | 0 => bytes
  | count + 1 => repeated (bytes ++ part) part count

/-- The flow with `n` bytes at least in front of its tail, if it has so many. -/
def unrolled (n : Nat) (f : Flow) : Flow :=
  match f.tail with
  | .repeats part =>
    if part.size == 0 then f
    else ⟨repeated f.bytes part ((n - f.bytes.size + part.size - 1) / part.size), f.tail⟩
  | _ => f

/-- The first `n` bytes. -/
def take (n : Nat) (f : Flow) : Flow :=
  let f := f.unrolled n
  if n ≤ f.bytes.size then ofBytes (f.bytes.extract 0 n) else f

/-- What is behind the first `n` bytes. -/
def drop (n : Nat) (f : Flow) : Flow :=
  let f := f.unrolled n
  ⟨f.bytes.extract n f.bytes.size, f.tail⟩

/-! ### Bytes and lines -/

def newline : UInt8 := 10

/-- The bytes with each replaced. -/
def mapBytes (f : UInt8 → List UInt8) (bytes : ByteArray) : ByteArray :=
  bytes.foldl (fun out b => (f b).foldl ByteArray.push out) .empty

/-- The flow with each byte replaced. If nothing is left of a repetition, nothing comes. -/
def map (f : UInt8 → List UInt8) (flow : Flow) : Flow :=
  let tail : Tail := match flow.tail with
    | .repeats part =>
      let part := mapBytes f part
      if part.size == 0 then .hangs else .repeats part
    | tail => tail
  ⟨mapBytes f flow.bytes, tail⟩

/-- How many of the bytes satisfy `p`. -/
def count (p : UInt8 → Bool) (bytes : ByteArray) : Nat :=
  bytes.foldl (fun n b => if p b then n + 1 else n) 0

/-- How many bytes the first `n` lines have. -/
def sizeOfLines (bytes : List UInt8) : (n : Nat) → Nat
  | 0 => 0
  | n + 1 =>
    let line := bytes.takeWhile (· != newline)
    let rest := bytes.drop line.length
    if rest.isEmpty then line.length else line.length + 1 + sizeOfLines rest.tail n

/-- The first `n` lines. -/
def takeLines (n : Nat) (f : Flow) : Flow :=
  match f.tail with
  | .repeats part =>
    let long : Flow := ⟨repeated f.bytes part n, f.tail⟩
    if count (· == newline) part == 0 then { f with tail := .hangs }
    else long.take (sizeOfLines long.bytes.toList n)
  | _ =>
    if n ≤ count (· == newline) f.bytes then f.take (sizeOfLines f.bytes.toList n) else f

/-- The text in front of the first newline, and what is behind that. There is no line
in an empty flow. -/
def line? (f : Flow) : Option (String × Flow) :=
  let first := f.takeLines 1
  if first.bytes.size == 0 || first.endless then none
  else
    let line := first.bytes.toList.takeWhile (· != newline)
    some (Utf8.decode ⟨line.toArray⟩, f.drop first.bytes.size)

end Flow

/-- What a process did with its input and what it wrote. A process that never ends is overdue. -/
structure Trace where
  ending : Ending
  out : Flow
  err : Flow
  /-- What it left of its input. -/
  rest : Flow

namespace Trace

/-- A process that reads nothing and ends with a code and with a text. -/
def plain (code : Nat) (out err : String) (input : Flow) : Trace :=
  ⟨.exited code, .ofText out, .ofText err, input⟩

/-- A process that does not come to an end if what it writes has none. -/
def writing (code : Nat) (out : Flow) (err : String) (rest : Flow) : Trace :=
  ⟨if out.endless then .overdue else .exited code, out, .ofText err, rest⟩

/-- What is left of the process once it is over. -/
def finish (t : Trace) : Finish :=
  ⟨t.ending, t.out.bytes, t.err.bytes⟩

end Trace
end DeviceLab

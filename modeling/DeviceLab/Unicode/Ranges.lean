/-! Sets of code points as lists of ranges.

A table of a property is one text: ranges in hexadecimal, both ends included,
with blanks and line ends between them. -/
namespace DeviceLab.Unicode

/-- Ranges of code points, both ends included. -/
abbrev Ranges := List (Nat × Nat)

namespace Ranges

def holds (rs : Ranges) (n : Nat) : Bool :=
  rs.any fun r => r.1 ≤ n && n ≤ r.2

/-- What has been read of a range: its first code point once the dash is behind,
and the number being read, if any. -/
structure Scan where
  lo : Option Nat
  number : Option Nat

def Scan.emit (s : Scan) : Ranges :=
  match s.lo, s.number with
  | some lo, some hi => [(lo, hi)]
  | none, some n => [(n, n)]
  | _, none => []

def hexValue (c : Char) : Nat :=
  if c.toNat < 58 then c.toNat - 48 else c.toNat - 55

def scan (s : Scan) : List Char → Ranges
  | [] => s.emit
  | c :: cs =>
    if c == ' ' || c == '\n' then s.emit ++ scan ⟨none, none⟩ cs
    else if c == '-' then scan ⟨s.number, none⟩ cs
    else scan ⟨s.lo, some (16 * s.number.getD 0 + hexValue c)⟩ cs

/-- The ranges a table lists. -/
def ofTable (s : String) : Ranges :=
  scan ⟨none, none⟩ s.toList

end Ranges
end DeviceLab.Unicode

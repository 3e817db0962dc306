import DeviceLab.Unicode.Folding
import DeviceLab.Unicode.Ranges

/-! Operations on sets of code points. -/
namespace DeviceLab.Unicode.Ranges

/-- The last code point. -/
def last : Nat := 0x10FFFF

/-- Puts ranges in ascending order together when they touch. -/
def join : Ranges → Ranges
  | [] => []
  | (lo, hi) :: rest =>
    match join rest with
    | [] => [(lo, hi)]
    | (lo', hi') :: rest =>
      if lo' ≤ hi + 1 then (lo, max hi hi') :: rest else (lo, hi) :: (lo', hi') :: rest

/-- The same set as ranges in ascending order that do not touch. -/
def normal (rs : Ranges) : Ranges :=
  join (rs.mergeSort fun a b => a.1 ≤ b.1)

/-- The gaps between ascending ranges from a code point on. -/
def gaps (start : Nat) : Ranges → Ranges
  | [] => if start ≤ last then [(start, last)] else []
  | (lo, hi) :: rest => (if start < lo then [(start, lo - 1)] else []) ++ gaps (hi + 1) rest

/-- All code points that are not in the set. -/
def negate (rs : Ranges) : Ranges :=
  gaps 0 rs.normal

def intersect (a b : Ranges) : Ranges :=
  negate (negate a ++ negate b)

def difference (a b : Ranges) : Ranges :=
  intersect a (negate b)

def symmetricDifference (a b : Ranges) : Ranges :=
  difference (a ++ b) (intersect a b)

/-- Is every code point of the set below 128? -/
def isAscii (rs : Ranges) : Bool :=
  rs.all fun r => r.2 < 0x80

/-! ### Cases -/

/-- The code points that fold, each with what it folds to. -/
def foldings : List (Nat × Nat) :=
  foldRuns.flatMap fun r =>
    (List.range ((r.hi - r.lo) / r.step + 1)).map fun k =>
      let n := r.lo + k * r.step
      (n, (Int.ofNat n + r.shift).toNat)

/-- Puts neighbours of one fold together. -/
def together : List (Nat × Nat) → List (Nat × List Nat)
  | [] => []
  | (n, f) :: rest =>
    match together rest with
    | [] => [(f, [n])]
    | (g, ns) :: rest => if f == g then (g, n :: ns) :: rest else (f, [n]) :: (g, ns) :: rest

/-- The letters that have several cases, each as the list of its cases. -/
def letters : List (List Nat) :=
  (together (foldings.mergeSort fun a b => a.2 ≤ b.2)).map fun (f, ns) => f :: ns

/-- The set with all cases of its members. -/
def withCases (rs : Ranges) : Ranges :=
  rs ++ (letters.filter fun cases => cases.any rs.holds).flatMap fun cases =>
    cases.map fun n => (n, n)

def lowerAscii (n : Nat) : Bool := 97 ≤ n && n ≤ 122
def upperAscii (n : Nat) : Bool := 65 ≤ n && n ≤ 90

/-- The set with both cases of its letters among the first 128. -/
def withAsciiCases (rs : Ranges) : Ranges :=
  rs ++ ((List.range 128).filter fun n =>
    (lowerAscii n && rs.holds (n - 32)) || (upperAscii n && rs.holds (n + 32))).map fun n => (n, n)

end DeviceLab.Unicode.Ranges

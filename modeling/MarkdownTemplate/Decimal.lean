import MarkdownTemplate.Text.Basic

/-!
# Decimal text of binary numbers

A finite number of double precision is `m * 2 ^ q`. This file fixes how it is written:

* `Binary.ofBits` -- the pair `m`, `q` of a bit pattern;
* `Binary.readsBack` -- which decimals round to the number: those between the midpoints to its
  neighbours, the midpoints included when `m` is even;
* `Binary.shortest` -- among the decimals with the fewest digits that read back, the nearest one,
  of two equally near ones the even one;
* `Binary.layout` -- positionally from 0.0001 up to 10 ^ 16, otherwise with an exponent of at
  least two digits; a whole number keeps one zero behind the point.
-/

namespace MarkdownTemplate.Decimal

/-! ## 1. Binary numbers -/

/-- A finite number that is not negative: `m * 2 ^ q`. -/
structure Binary where
  m : Nat
  q : Int
  /-- The gap to the number below is half the gap to the number above. -/
  narrowBelow : Bool

/-- The magnitude of a finite bit pattern. -/
def Binary.ofBits (bits : UInt64) : Binary :=
  let e := ((bits >>> 52) &&& 0x7FF).toNat
  let f := (bits &&& 0xFFFFFFFFFFFFF).toNat
  if e = 0 then ⟨f, -1074, false⟩ else ⟨Nat.pow 2 52 + f, (e : Int) - 1075, f = 0 && e > 1⟩

/-- The decimal `digits * 10 ^ exp`. -/
structure Dec where
  digits : Nat
  exp : Int

/-- Compares `a * 10 ^ i` with `n * 2 ^ j`. -/
def compareScaled (a : Nat) (i : Int) (n : Nat) (j : Int) : Ordering :=
  compare (a * Nat.pow 10 i.toNat * Nat.pow 2 (-j).toNat)
    (n * Nat.pow 2 j.toNat * Nat.pow 10 (-i).toNat)

/-- The decimal rounds to the number. -/
def Binary.readsBack (x : Binary) (d : Dec) : Bool :=
  let below := if x.narrowBelow then 4 * x.m - 1 else 4 * x.m - 2
  let low := compareScaled d.digits d.exp below (x.q - 2)
  let high := compareScaled d.digits d.exp (4 * x.m + 2) (x.q - 2)
  let ends := x.m % 2 == 0
  (low == .gt || (ends && low == .eq)) && (high == .lt || (ends && high == .eq))

/-! ## 2. The shortest decimal -/

/-- The least `k` with `m * 2 ^ q < 10 ^ k`, for `m` other than zero. -/
def Binary.scale (x : Binary) : Int :=
  let guess := ((x.m.log2 : Int) + x.q) * 30103 / 100000
  let above (k : Int) : Bool := compareScaled 1 k x.m x.q == .gt
  if above (guess - 1) then guess - 1
  else if above guess then guess
  else if above (guess + 1) then guess + 1
  else guess + 2

/-- The number in units of `10 ^ e`: the quotient, the remainder and the divisor. -/
def Binary.inUnits (x : Binary) (e : Int) : Nat × Nat × Nat :=
  let num := x.m * Nat.pow 2 x.q.toNat * Nat.pow 10 (-e).toNat
  let den := Nat.pow 2 (-x.q).toNat * Nat.pow 10 e.toNat
  (num / den, num % den, den)

/-- The decimal in units of `10 ^ e` that reads back, if one of the two around the number does:
    the nearer of both, the even one if they are equally near. -/
def Binary.onGrid (x : Binary) (e : Int) : Option Dec :=
  let (d, r, den) := x.inUnits e
  match x.readsBack ⟨d, e⟩, x.readsBack ⟨d + 1, e⟩ with
  | true, false => some ⟨d, e⟩
  | false, true => some ⟨d + 1, e⟩
  | false, false => none
  | true, true =>
    match compare (2 * r) den with
    | .lt => some ⟨d, e⟩
    | .gt => some ⟨d + 1, e⟩
    | .eq => some ⟨if d % 2 = 0 then d else d + 1, e⟩

/-- The nearest of the shortest decimals that read back; the exact value should none of up to
    seventeen digits do so. -/
def Binary.shortest (x : Binary) : Dec :=
  let k := x.scale
  ((List.range 17).findSome? fun (n : Nat) => x.onGrid (k - n - 1)).getD
    (if x.q < 0 then ⟨x.m * Nat.pow 5 (-x.q).toNat, x.q⟩ else ⟨x.m * Nat.pow 2 x.q.toNat, 0⟩)

/-! ## 3. Layout -/

/-- The digits of a number and how many of them stand before the point. -/
def Binary.pointed (x : Binary) : Text × Int :=
  let d := x.shortest
  let digits := Text.ofNat d.digits
  (dropTrailing (· == '0') digits, (digits.length : Int) + d.exp)

/-- The magnitude as text. -/
def Binary.layout (x : Binary) : Text :=
  if x.m = 0 then "0.0".toList
  else
    let (digits, point) := x.pointed
    if -4 < point ∧ point ≤ 0 then
      '0' :: '.' :: List.replicate (-point).toNat '0' ++ digits
    else if 0 < point ∧ point ≤ 16 then
      let whole := digits.take point.toNat
      let fraction := digits.drop point.toNat
      whole ++ List.replicate (point.toNat - whole.length) '0' ++
        '.' :: (if fraction = [] then ['0'] else fraction)
    else
      let e := point - 1
      let width := Text.ofNat e.natAbs
      digits.take 1 ++ (if digits.length = 1 then [] else '.' :: digits.drop 1) ++
        'e' :: (if e < 0 then '-' else '+') ::
          (List.replicate (2 - width.length) '0' ++ width)

/-- A number of double precision as text. -/
def text (x : Float) : Text :=
  if x.isNaN then "nan".toList
  else
    let sign : Text := if x.toBits >>> 63 == 1 then ['-'] else []
    sign ++ (if x.isInf then "inf".toList else (Binary.ofBits x.toBits).layout)

/-- The integer a number is, if it is one. -/
def integer? (x : Float) : Option Int :=
  if x.isNaN || x.isInf then none
  else
    let b := Binary.ofBits x.toBits
    let magnitude := b.m * Nat.pow 2 b.q.toNat
    let den := Nat.pow 2 (-b.q).toNat
    let whole : Int := (magnitude / den : Nat)
    if magnitude % den = 0 then some (if x.toBits >>> 63 == 1 then -whole else whole) else none

end MarkdownTemplate.Decimal

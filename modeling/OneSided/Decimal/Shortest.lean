import OneSided.Decimal.Numeral

/-! The shortest decimal that identifies a binary number. The reals that round to
`m · 2 ^ q` form an interval around it, which reaches half way to both neighbours
and contains its ends iff `m` is even. Of the decimals in that interval those with
the fewest digits are looked for, and of these the one nearest to the number. All
comparisons are exact, between natural numbers. -/

namespace OneSided

/-- The number `mantissa · 2 ^ exponent`. The neighbour below is at half the usual
distance if `narrowBelow`, which is the case above a power of two. -/
structure Binary where
  mantissa : Nat
  exponent : Int
  narrowBelow : Bool

namespace Binary

/-- `grid · 10 ^ scale` against the quarter steps of `b`: the pair `(n, d)` has
`n / d = 10 ^ scale / (2 ^ exponent / 4)`. -/
def quarterRatio (b : Binary) (scale : Int) : Nat × Nat :=
  let n := Nat.pow 10 scale.toNat * Nat.pow 2 (2 - b.exponent).toNat
  let d := Nat.pow 10 (-scale).toNat * Nat.pow 2 (b.exponent - 2).toNat
  (n, d)

/-- Whether `digits · 10 ^ scale` rounds to `b`. -/
def readsBack (b : Binary) (digits : Nat) (scale : Int) : Bool :=
  let (n, d) := b.quarterRatio scale
  let x := digits * n
  let low := (4 * b.mantissa - if b.narrowBelow then 1 else 2) * d
  let high := (4 * b.mantissa + 2) * d
  if b.mantissa % 2 = 0 then low ≤ x ∧ x ≤ high else low < x ∧ x < high

/-- The decimal on the grid `10 ^ scale` that rounds to `b`, if any: only the two
neighbours of `b` can, and the nearer is taken, the upper one in a tie. -/
def onGrid (b : Binary) (scale : Int) : Option Nat :=
  let (n, d) := b.quarterRatio scale
  let below := 4 * b.mantissa * d / n
  match b.readsBack below scale, b.readsBack (below + 1) scale with
  | true, true => some (if 8 * b.mantissa * d < (2 * below + 1) * n then below else below + 1)
  | true, false => some below
  | false, true => some (below + 1)
  | false, false => none

/-- Goes through ever finer grids; on the last one the number itself is written. -/
def search (b : Binary) (scale : Int) : Nat → Nat × Int
  | 0 => if b.exponent < 0 then (b.mantissa * Nat.pow 5 (-b.exponent).toNat, b.exponent)
         else (b.mantissa * Nat.pow 2 b.exponent.toNat, 0)
  | fuel + 1 =>
    match b.onGrid scale with
    | some digits => (digits, scale)
    | none => search b (scale - 1) fuel

/-- A power of ten that is above the number. -/
def topScale (b : Binary) : Int :=
  (b.mantissa.log2 + b.exponent) * 30103 / 100000 + 2

/-- Digits and scale of the shortest decimal. -/
def shortest (b : Binary) : Nat × Int := b.search b.topScale 24

end Binary

/-- The parts of a binary floating-point format with `fraction` stored bits of the
mantissa and `width` bits of the exponent. -/
structure BinaryFormat where
  fraction : Nat
  width : Nat

namespace BinaryFormat

def binary32 : BinaryFormat := ⟨23, 8⟩

def binary64 : BinaryFormat := ⟨52, 11⟩

/-- The numeral with the fewest digits that identifies the number stored as `bits`. -/
def numeral (f : BinaryFormat) (bits : Nat) : Numeral :=
  let negative := 0 < bits / Nat.pow 2 (f.fraction + f.width)
  let power := bits / Nat.pow 2 f.fraction % Nat.pow 2 f.width
  let rest := bits % Nat.pow 2 f.fraction
  let lowest : Int := 2 - Nat.pow 2 (f.width - 1) - f.fraction
  if power = Nat.pow 2 f.width - 1 then
    if rest = 0 then .infinite negative else .nan
  else
    let b : Binary :=
      if power = 0 then ⟨rest, lowest, false⟩
      else ⟨Nat.pow 2 f.fraction + rest, lowest + (power - 1), rest = 0 ∧ 1 < power⟩
    if b.mantissa = 0 then .finite negative 0 0
    else
      let (digits, scale) := b.shortest
      .finite negative digits scale

end BinaryFormat

end OneSided

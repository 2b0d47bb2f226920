import Mathlib.Logic.Function.Iterate

/-!
# The random generator

`ngx_nats_init_random` and `ngx_nats_next_random`: two multiply-with-carry generators whose low
halves make up one word. What `RAND_bytes` writes and what the arithmetic on doubles makes of it are
arguments.
-/
namespace NgxNats

/-- `rand_z` and `rand_w` with their constants, and `__ngx_nats_random_init`. -/
structure Random where
  z : UInt32 := 362436069
  w : UInt32 := 521288629
  zConst : UInt32 := 36969
  wConst : UInt32 := 18000
  initialized : Bool := false
  deriving DecidableEq, Repr

namespace Random

/-- The update of `rand_z` and of `rand_w` with its constant. -/
def half (const state : UInt32) : UInt32 :=
  const * (state &&& (0xffff : UInt32)) + (state >>> (16 : UInt32))

/-- `ngx_nats_next_random` -/
def nextRandom (random : Random) : UInt32 × Random :=
  let z := half random.zConst random.z
  let w := half random.wConst random.w
  ((z <<< (16 : UInt32)) + (w &&& (0xffff : UInt32)), { random with z, w })

/-- The state `ngx_nats_next_random` leaves behind. -/
def advance (random : Random) : Random := (nextRandom random).2

/-- The constants `ngx_nats_init_random` selects by a number. -/
def selectConstants (n : UInt32) : UInt32 × UInt32 :=
  if n = 0 then (31083, 18030)
  else if n = 1 then (31059, 18513)
  else if n = 2 then (30714, 19098)
  else if n = 3 then (30345, 21723)
  else (36969, 18000)

/-- The generator with a pair of seeds and a selected pair of constants. -/
def seeded (n z w : UInt32) : Random where
  z := z
  w := w
  zConst := (selectConstants n).1
  wConst := (selectConstants n).2
  initialized := true

/-- `ngx_nats_init_random` with the words `RAND_bytes` wrote. `scale randomizer factor` is
`(uint32_t)((double)randomizer * rand_d * factor)`. -/
def initRandom (scale : UInt32 → Nat → UInt32) (z w randomizer : UInt32) (random : Random) :
    Random :=
  if random.initialized then random
  else advance^[(scale randomizer 100000).toNat] (seeded (scale randomizer 4) z w)

end Random

end NgxNats

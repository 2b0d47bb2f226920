import NgxNats.Model.Protocol
import NgxNats.Model.Random

/-!
# Inbox names

`ngx_nats_create_inbox`: a name made of random numbers, the local address, the process and the time.
The answers of the host are arguments.
-/
namespace NgxNats

open NgxNats.Random

/-- `%0<width>xD`: the lower-case hexadecimal digits of a 32-bit word, padded with zeros. -/
def hexPadded (width : Nat) (value : UInt32) : List UInt8 :=
  let digits := (Nat.toDigits 16 value.toNat).map fun c => c.toNat.toUInt8
  List.replicate (width - digits.length) 48 ++ digits

/-- What the host answers: the name of `ngx_nats_get_local_ip()`, `ngx_pid`, `ngx_timeofday()`, and
what `ngx_nats_init_random` would draw. -/
structure InboxEnv where
  localIp : Option (List UInt8)
  pid : Int
  sec : Int
  msec : Nat
  scale : UInt32 → Nat → UInt32
  seedZ : UInt32
  seedW : UInt32
  randomizer : UInt32

/-- `_nats_rand4` -/
def rand4 (a b c d : UInt32) : UInt32 := (((a * 31) + b) * 31 + c) * 31 + d

/-- `ipvar` -/
def ipvar (localIp : Option (List UInt8)) : UInt32 :=
  match localIp with
  | some name => name.foldl (fun ipvar c => ipvar * 31 + c.toUInt32) 0
  | none => 0

/-- `ngx_nats_create_inbox` with a buffer of `bufsize` bytes: the return value, the buffer and the
generator afterwards. -/
def createInbox (env : InboxEnv) (buf : List UInt8) (bufsize : Nat) (random : Random) :
    Except Fault (Int × List UInt8 × Random) :=
  if bufsize < 34 then .ok (ngxError, buf, random)
  else do
    let ip := ipvar env.localIp
    let (r1, random) :=
      nextRandom (initRandom env.scale env.seedZ env.seedW env.randomizer random)
    let (r2, random) := nextRandom random
    let (r3, random) := nextRandom random
    let (r4, random) := nextRandom random
    let pid := UInt32.ofInt env.pid
    let sec := UInt32.ofInt env.sec
    let msec := UInt32.ofNat env.msec
    let partA := rand4 ip r1 pid msec
    let partB := rand4 ip r2 pid sec
    let partC := rand4 ip r3 sec msec
    let partD := r4 &&& (0x00ff : UInt32)
    let text := snprintf bufsize (ascii "_INBOX." ++ hexPadded 8 partA ++ hexPadded 8 partB ++
      hexPadded 8 partC ++ hexPadded 2 partD)
    let buf ← store (text ++ buf.drop text.length) text.length 0
    return (text.length, buf, random)

end NgxNats

import NgxNats.Lib.Program
import NgxNats.Lib.Memory
import NgxNats.Lib.Word

/-!
# Return codes, faults and formatted output

The integers the module and its host return to each other, the ways a run can stop, and the
three conversions of `ngx_snprintf` the module prints with. A pointer outside its object and a
loop that never ends stop the run here; in the source they are a crash and a hang.
-/
namespace NgxNats

/-- `NGX_OK` -/
def ngxOk : Int := 0
/-- `NGX_ERROR` -/
def ngxError : Int := -1
/-- `NGX_AGAIN` -/
def ngxAgain : Int := -2
/-- `NGX_DECLINED` -/
def ngxDeclined : Int := -5
/-- `NGX_ABORT` -/
def ngxAbort : Int := -6

/-- Why a run stopped without returning. -/
inductive Fault
  /-- A null pointer or an address outside its object was dereferenced. -/
  | badAccess
  /-- A loop of the source whose exit condition can no longer become true. -/
  | endless
  /-- The bound on nested calls and loop rounds was used up. -/
  | outOfFuel
  deriving DecidableEq, Repr

/-- The bytes of an ASCII text. -/
def ascii (text : String) : List UInt8 := text.toList.map fun c => c.toNat.toUInt8

/-- `%ui`: the decimal digits of an unsigned 64-bit word. -/
def decimal (value : Nat) : List UInt8 := (Nat.toDigits 10 value).map fun c => c.toNat.toUInt8

/-- `ngx_snprintf` into an array: output stops silently at the end of the array. -/
def snprintf (size : Nat) (output : List UInt8) : List UInt8 := output.take size

/-- `ngx_tolower` -/
def toLower (c : UInt8) : UInt8 := if 65 ≤ c ∧ c ≤ 90 then c ||| 0x20 else c

/-- `ngx_strncasecmp(s, literal, n) == 0` for a literal of `n` characters. -/
def strncasecmp (data : List UInt8) (literal : String) : Bool :=
  data.map toLower == (ascii literal).map toLower

/-- A word of at most `10^k - 1` prints in at most `k` digits. -/
theorem length_decimal_le {value digits : Nat} (positive : 0 < digits)
    (bound : value < 10 ^ digits) : (decimal value).length ≤ digits := by
  rw [decimal, List.length_map]
  exact (Nat.length_toDigits_le_iff (by decide) positive).mpr bound

/-- A 64-bit word prints in at most twenty digits. -/
theorem length_decimal_word {value : Nat} (word : value < 2 ^ 64) :
    (decimal value).length ≤ 20 :=
  length_decimal_le (by decide) (Nat.lt_trans word (by decide))

/-- Output that fits its array is printed whole. -/
theorem snprintf_of_fits {size : Nat} {output : List UInt8} (fits : output.length ≤ size) :
    snprintf size output = output := List.take_of_length_le fits

end NgxNats

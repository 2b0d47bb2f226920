import Mathlib.Data.FinEnum
import NgxNats.Model.Protocol

/-!
# Reading the parsed bytes

What the byte loops of the parser return: where a scan stops, which positions a token can have,
which number a digit run denotes. Each of them looks only at the bytes it is told to, so a
result on some bytes is the result on any longer buffer that starts with them.
-/
namespace NgxNats

/-- A computation with checked accesses returns when both of its parts do. -/
theorem except_bind_ok {ε α β : Type} {first : Except ε α} {next : α → Except ε β} {result : β} :
    (first >>= next) = .ok result ↔ ∃ value, first = .ok value ∧ next value = .ok result := by
  cases first with
  | error stop => simp [bind, Except.bind]
  | ok value => simp [bind, Except.bind]

/-- A byte is loaded exactly where the memory has it. -/
theorem load_ok {data : List UInt8} {index : Nat} {c : UInt8} :
    load data index = .ok c ↔ data[index]? = some c := by
  unfold load
  cases data[index]? <;> simp

/-- A position inside the memory can be read. -/
theorem load_inside {data : List UInt8} {index : Nat} (inside : index < data.length) :
    load data index = .ok data[index] := load_ok.mpr (List.getElem?_eq_getElem inside)

/-- A position outside the memory is a bad access. -/
theorem load_outside {data : List UInt8} {index : Nat} (outside : data.length ≤ index) :
    load data index = .error .badAccess := by
  unfold load
  rw [List.getElem?_eq_none outside]

/-- A byte that can be read is inside. -/
theorem load_lt {data : List UInt8} {index : Nat} {c : UInt8} (read : load data index = .ok c) :
    index < data.length := (List.getElem?_eq_some_iff.mp (load_ok.mp read)).1

/-- A readable byte stays the same when bytes are appended. -/
theorem load_append {data : List UInt8} {index : Nat} {c : UInt8} (more : List UInt8)
    (read : load data index = .ok c) : load (data ++ more) index = .ok c := by
  rw [load_ok, List.getElem?_append_left (load_lt read)]
  exact load_ok.mp read

/-- A position inside the memory can be written. -/
theorem store_inside {data : List UInt8} {index : Nat} (c : UInt8) (inside : index < data.length) :
    store data index c = .ok (data.set index c) := if_pos inside

/-- A store that succeeded succeeds the same way on a longer buffer. -/
theorem store_append {data stored : List UInt8} {index : Nat} {c : UInt8} (more : List UInt8)
    (written : store data index c = .ok stored) :
    store (data ++ more) index c = .ok (stored ++ more) := by
  unfold store at written ⊢
  split at written
  · next inside =>
    cases written
    rw [if_pos (by rw [List.length_append]; omega), List.set_append_left _ _ inside]
  · cases written

variable {keep : UInt8 → Bool} {data : List UInt8}

/-- A scan stops between its start and its bound, having passed only bytes it keeps, and either
at the bound or before a byte it does not keep. -/
theorem scan_spec : ∀ {left n stop : Nat}, scan keep data left n = .ok stop →
    n ≤ stop ∧ stop ≤ n + left ∧
      (∀ i, n ≤ i → i < stop → ∃ c, data[i]? = some c ∧ keep c = true) ∧
      (stop < n + left → ∃ c, data[stop]? = some c ∧ keep c = false)
  | 0, n, stop, done => by
    cases done
    exact ⟨Nat.le_refl n, Nat.le_refl n, fun i _ _ => by omega, fun _ => by omega⟩
  | left + 1, n, stop, done => by
    simp only [scan] at done
    obtain ⟨c, read, done⟩ := except_bind_ok.mp done
    by_cases kept : keep c = true
    · rw [if_pos kept] at done
      obtain ⟨start, bound, passed, ended⟩ := scan_spec done
      refine ⟨by omega, by omega, fun i lower upper => ?_, fun inside => ended (by omega)⟩
      by_cases first : i = n
      · exact ⟨c, first ▸ load_ok.mp read, kept⟩
      · exact passed i (by omega) upper
    · rw [if_neg kept] at done
      cases done
      exact ⟨Nat.le_refl n, by omega, fun i _ _ => by omega,
        fun _ => ⟨c, load_ok.mp read, by simpa using kept⟩⟩

/-- A scan whose bound is inside the memory returns. -/
theorem scan_total (keep : UInt8 → Bool) (data : List UInt8) :
    ∀ (left n : Nat), n + left ≤ data.length → ∃ stop, scan keep data left n = .ok stop
  | 0, n, _ => ⟨n, rfl⟩
  | left + 1, n, fits => by
    simp only [scan, load_inside (show n < data.length by omega), bind, Except.bind]
    split
    · exact scan_total keep data left (n + 1) (by omega)
    · exact ⟨n, rfl⟩

/-- Appended bytes do not change a scan with the same bound. -/
theorem scan_append (more : List UInt8) : ∀ {left n stop : Nat},
    scan keep data left n = .ok stop → scan keep (data ++ more) left n = .ok stop
  | 0, n, stop, done => done
  | left + 1, n, stop, done => by
    simp only [scan] at done ⊢
    obtain ⟨c, read, done⟩ := except_bind_ok.mp done
    refine except_bind_ok.mpr ⟨c, load_append more read, ?_⟩
    split at done
    · next kept =>
      rw [if_pos kept]
      exact scan_append more done
    · next dropped =>
      rw [if_neg dropped]
      exact done

/-- A scan that stopped before its bound stops at the same place with a later bound. -/
theorem scan_extend (extra : Nat) : ∀ {left n stop : Nat}, scan keep data left n = .ok stop →
    stop < n + left → scan keep data (left + extra) n = .ok stop
  | 0, n, stop, done, inside => by
    cases done
    omega
  | left + 1, n, stop, done, inside => by
    rw [Nat.add_right_comm]
    simp only [scan] at done ⊢
    obtain ⟨c, read, done⟩ := except_bind_ok.mp done
    refine except_bind_ok.mpr ⟨c, read, ?_⟩
    split at done
    · next kept =>
      rw [if_pos kept]
      exact scan_extend extra done (by omega)
    · next dropped =>
      rw [if_neg dropped]
      exact done

/-- A scan is determined by where it has to stop. -/
theorem scan_eq {left n stop : Nat} (start : n ≤ stop) (bound : stop ≤ n + left)
    (passed : ∀ i, n ≤ i → i < stop → ∃ c, data[i]? = some c ∧ keep c = true)
    (ended : stop < n + left → ∃ c, data[stop]? = some c ∧ keep c = false) :
    scan keep data left n = .ok stop := by
  induction left generalizing n with
  | zero =>
    have same : n = stop := by omega
    rw [same]
    rfl
  | succ left ih =>
    simp only [scan]
    by_cases here : n = stop
    · subst here
      obtain ⟨c, read, dropped⟩ := ended (by omega)
      rw [load_ok.mpr read]
      simp [bind, Except.bind, dropped, pure, Except.pure]
    · obtain ⟨c, read, kept⟩ := passed n (Nat.le_refl n) (by omega)
      rw [load_ok.mpr read]
      simp only [bind, Except.bind, kept, if_true]
      exact ih (by omega) (by omega) (fun i lower upper => passed i (by omega) upper)
        (fun inside => ended (by omega))

/-- A scan passes the bytes it keeps, up to its bound or to a byte that stops it. -/
theorem scan_prefix {gap rest : List UInt8} {left n : Nat} (split : data.drop n = gap ++ rest)
    (kept : ∀ c ∈ gap, keep c = true) (fits : gap.length ≤ left)
    (stops : gap.length < left → ∃ c ∈ rest.head?, keep c = false) :
    scan keep data left n = .ok (n + gap.length) := by
  have read : ∀ i, data[n + i]? = (gap ++ rest)[i]? := by
    intro i
    rw [← split, List.getElem?_drop]
  apply scan_eq
  · omega
  · omega
  · intro i lower upper
    obtain ⟨offset, rfl⟩ := Nat.exists_eq_add_of_le lower
    have early : offset < gap.length := by omega
    refine ⟨gap[offset], ?_, kept _ (List.getElem_mem early)⟩
    rw [read, List.getElem?_append_left early, List.getElem?_eq_getElem early]
  · intro before
    obtain ⟨c, first, dropped⟩ := stops (by omega)
    refine ⟨c, ?_, dropped⟩
    rw [read, List.getElem?_append_right (Nat.le_refl _), Nat.sub_self, ← List.head?_eq_getElem?]
    exact first

/-- The unbounded value of a run of decimal digits, after the digits of `value`. -/
def decimalFrom (value : Nat) (digits : List UInt8) : Nat :=
  digits.foldl (fun value c => value * 10 + (c.toNat - 48)) value

/-- The unbounded value of a run of decimal digits. -/
def decimalValue (digits : List UInt8) : Nat := decimalFrom 0 digits

/-- A decimal digit. -/
def IsDigit (c : UInt8) : Prop := 48 ≤ c ∧ c ≤ 57

instance (c : UInt8) : Decidable (IsDigit c) := inferInstanceAs (Decidable (_ ∧ _))

/-- Splitting the first byte off a run. -/
theorem take_drop_succ {data : List UInt8} {s n : Nat} {c : UInt8} (read : data[s]? = some c) :
    (data.drop s).take (n + 1) = c :: (data.drop (s + 1)).take n := by
  obtain ⟨inside, rfl⟩ := List.getElem?_eq_some_iff.mp read
  rw [List.drop_eq_getElem_cons inside, List.take_succ_cons]

/-- The digit loop adds the digits it reads to a wrapped value. -/
theorem natsAtoiLoop_spec : ∀ {n s value : Nat} {result : Option Int},
    natsAtoiLoop data n s (Word.signed value) = .ok result →
    result = if ∀ c ∈ (data.drop s).take n, IsDigit c then
      some (Word.signed (decimalFrom value ((data.drop s).take n))) else none
  | 0, s, value, result, done => by
    cases done
    simp [decimalFrom]
  | n + 1, s, value, result, done => by
    simp only [natsAtoiLoop] at done
    obtain ⟨c, read, done⟩ := except_bind_ok.mp done
    rw [take_drop_succ (load_ok.mp read)]
    by_cases digit : IsDigit c
    · have inRange : ¬(c < 48 ∨ 57 < c) := by
        obtain ⟨low, high⟩ := digit
        simp only [not_or, UInt8.not_lt]
        exact ⟨low, high⟩
      rw [if_neg inRange, Word.signed_mul_add] at done
      have exact : (value : Int) * 10 + (c.toNat - 48) = (value * 10 + (c.toNat - 48) : Nat) := by
        have low : 48 ≤ c.toNat := UInt8.le_iff_toNat_le.mp digit.1
        omega
      rw [exact] at done
      rw [natsAtoiLoop_spec done]
      simp [digit, decimalFrom]
    · have outOfRange : c < 48 ∨ 57 < c := by
        by_contra inRange
        simp only [not_or, UInt8.not_lt] at inRange
        exact digit inRange
      rw [if_pos outOfRange] at done
      cases done
      simp [digit]

/-- `_nats_atoi` accepts exactly the nonempty digit runs and returns their value, wrapped. -/
theorem natsAtoi_spec (slice : Slice) {result : Option Int}
    (done : natsAtoi data slice.start slice.len = .ok result) :
    result = if slice.len ≠ 0 ∧ ∀ c ∈ slice.bytes data, IsDigit c then
      some (Word.signed (decimalValue (slice.bytes data))) else none := by
  unfold natsAtoi at done
  split at done
  · next empty =>
    cases done
    simp [empty]
  · next nonempty =>
    have start : (0 : Int) = Word.signed (0 : Nat) := by decide
    rw [start] at done
    rw [natsAtoiLoop_spec done]
    simp [nonempty, Slice.bytes, decimalValue]

/-- The digit loop returns on a run inside the memory. -/
theorem natsAtoiLoop_total : ∀ {n s : Nat} {value : Int}, s + n ≤ data.length →
    ∃ result, natsAtoiLoop data n s value = .ok result
  | 0, s, value, _ => ⟨some value, rfl⟩
  | n + 1, s, value, fits => by
    simp only [natsAtoiLoop, load_inside (show s < data.length by omega), bind, Except.bind]
    split
    · exact ⟨none, rfl⟩
    · exact natsAtoiLoop_total (by omega)

/-- `_nats_atoi` returns on a run inside the memory. -/
theorem natsAtoi_total {s n : Nat} (fits : s + n ≤ data.length) :
    ∃ result, natsAtoi data s n = .ok result := by
  unfold natsAtoi
  split
  · exact ⟨none, rfl⟩
  · exact natsAtoiLoop_total fits

/-- Appended bytes do not change the number read. -/
theorem natsAtoiLoop_append (more : List UInt8) : ∀ {n s : Nat} {value : Int} {result : Option Int},
    natsAtoiLoop data n s value = .ok result →
      natsAtoiLoop (data ++ more) n s value = .ok result
  | 0, s, value, result, done => done
  | n + 1, s, value, result, done => by
    simp only [natsAtoiLoop] at done ⊢
    obtain ⟨c, read, done⟩ := except_bind_ok.mp done
    refine except_bind_ok.mpr ⟨c, load_append more read, ?_⟩
    split at done
    · next bad =>
      rw [if_pos bad]
      exact done
    · next good =>
      rw [if_neg good]
      exact natsAtoiLoop_append more done

/-- Appended bytes do not change the number read. -/
theorem natsAtoi_append (more : List UInt8) {s n : Nat} {result : Option Int}
    (done : natsAtoi data s n = .ok result) : natsAtoi (data ++ more) s n = .ok result := by
  unfold natsAtoi at done ⊢
  split at done
  · next empty => rw [if_pos empty]; exact done
  · next nonempty => rw [if_neg nonempty]; exact natsAtoiLoop_append more done

end NgxNats

import NgxNats.Verif.Scan

/-!
# Header tokens

`_nats_token` and the header part of `ngx_nats_parse_msg` on a header line that ends with a CR
at `max`: they return, their positions stay on the line, and appended bytes change nothing. The
tokens of a header are named separately from the numbers read from two of them.
-/
namespace NgxNats

variable {data : List UInt8} {max : Nat}

/-- A header line: it ends with the CR at `max`. -/
structure EndsLine (data : List UInt8) (max : Nat) : Prop where
  cr : data[max]? = some CR

/-- The line end is inside the memory. -/
theorem EndsLine.inside (line : EndsLine data max) : max < data.length :=
  (List.getElem?_eq_some_iff.mp line.cr).1

/-- The line end of a buffer is a line end of every longer one. -/
theorem EndsLine.append (line : EndsLine data max) (more : List UInt8) :
    EndsLine (data ++ more) max :=
  ⟨by rw [List.getElem?_append_left line.inside]; exact line.cr⟩

/-- The loop over a quoted token returns with enough rounds: no quote is a CR, so it stops at the
line end at the latest. -/
theorem natsTokenQuoted_total (line : EndsLine data max) {q : UInt8} (quote : q ≠ CR) :
    ∀ (rounds pos : Nat), pos ≤ max → max < pos + rounds →
      ∃ result, natsTokenQuoted data max q rounds pos = .ok result ∧
        ∀ stop, result = some stop → pos < stop ∧ stop ≤ max
  | 0, pos, _, enough => by omega
  | rounds + 1, pos, bound, enough => by
    have inside := line.inside
    simp only [natsTokenQuoted, load_inside (show pos < data.length by omega), bind, Except.bind]
    have ends : pos = max → data[pos] = CR := fun last => by
      have cr := line.cr
      subst last
      rw [List.getElem?_eq_getElem (by omega), Option.some.injEq] at cr
      exact cr
    by_cases escape : data[pos] = 92
    · rw [if_pos escape]
      by_cases last : max - 1 ≤ pos
      · rw [if_pos last]
        exact ⟨none, rfl, fun stop absurd => by cases absurd⟩
      · rw [if_neg last]
        obtain ⟨result, run, found⟩ := natsTokenQuoted_total line quote rounds
          (pos + 2) (by omega) (by omega)
        exact ⟨result, run, fun stop same => by have := found stop same; omega⟩
    · rw [if_neg escape]
      by_cases closing : data[pos] = q
      · rw [if_pos closing]
        refine ⟨some (pos + 1), rfl, fun stop same => ?_⟩
        cases same
        have before : pos ≠ max := fun last => quote (closing ▸ ends last)
        omega
      · rw [if_neg closing]
        by_cases last : max - 1 ≤ pos
        · rw [if_pos last]
          exact ⟨none, rfl, fun stop absurd => by cases absurd⟩
        · rw [if_neg last]
          obtain ⟨result, run, found⟩ := natsTokenQuoted_total line quote rounds
            (pos + 1) (by omega) (by omega)
          exact ⟨result, run, fun stop same => by have := found stop same; omega⟩

/-- Appended bytes do not change where a quoted token ends. -/
theorem natsTokenQuoted_append (more : List UInt8) {q : UInt8} : ∀ {rounds pos : Nat}
    {result : Option Nat}, natsTokenQuoted data max q rounds pos = .ok result →
      natsTokenQuoted (data ++ more) max q rounds pos = .ok result
  | 0, pos, result, done => by cases done
  | rounds + 1, pos, result, done => by
    simp only [natsTokenQuoted] at done ⊢
    obtain ⟨c, read, done⟩ := except_bind_ok.mp done
    refine except_bind_ok.mpr ⟨c, load_append more read, ?_⟩
    split at done
    · next escape =>
      rw [if_pos escape]
      split at done
      · next last => rw [if_pos last]; exact done
      · next inner => rw [if_neg inner]; exact natsTokenQuoted_append more done
    · next plain =>
      rw [if_neg plain]
      split at done
      · next closing => rw [if_pos closing]; exact done
      · next other =>
        rw [if_neg other]
        split at done
        · next last => rw [if_pos last]; exact done
        · next inner => rw [if_neg inner]; exact natsTokenQuoted_append more done

/-- Where the positions of a token can be: nothing but spaces was left, or the token lies between
the start position and the position returned. -/
def Token.Within (token : Token) (pos max : Nat) : Prop :=
  ∀ n, token.next = some n → pos ≤ n ∧ n ≤ max ∧
    (token.ns = max ∧ token.ne = max ∧ n = max ∨ pos ≤ token.ns ∧ token.ns ≤ token.ne ∧
      token.ne = n)

/-- `_nats_token` returns on a header line, with positions on the line. -/
theorem natsToken_total (line : EndsLine data max) {pos : Nat} (start : pos ≤ max) :
    ∃ token, natsToken data pos max = .ok token ∧ token.Within pos max := by
  have inside := line.inside
  obtain ⟨first, skipped⟩ := scan_total (· = SP) data (max - pos) pos (by omega)
  obtain ⟨lower, upper, _, _⟩ := scan_spec skipped
  simp only [natsToken, skipped, bind, Except.bind]
  by_cases spaces : first = max
  · rw [if_pos spaces]
    exact ⟨_, rfl,
      fun n same => by cases same; exact ⟨start, Nat.le_refl max, .inl ⟨rfl, rfl, rfl⟩⟩⟩
  · rw [if_neg spaces, load_inside (show first < data.length by omega)]
    simp only
    by_cases quoted : data[first] = 39 ∨ data[first] = 34
    · rw [if_pos quoted]
      by_cases last : max - 1 ≤ first
      · rw [if_pos last]
        exact ⟨_, rfl, fun n same => by cases same⟩
      · rw [if_neg last]
        have quote : data[first] ≠ CR := by
          rcases quoted with single | double
          · rw [single]; decide
          · rw [double]; decide
        obtain ⟨result, run, found⟩ := natsTokenQuoted_total line quote (max + 1)
          (first + 1) (by omega) (by omega)
        rw [run]
        cases result with
        | none => exact ⟨_, rfl, fun n same => by cases same⟩
        | some stop =>
          obtain ⟨after, before⟩ := found stop rfl
          exact ⟨_, rfl, fun n same => by
            cases same
            exact ⟨by omega, before, .inr ⟨lower, by simp only; omega, rfl⟩⟩⟩
    · rw [if_neg quoted]
      obtain ⟨stop, run⟩ := scan_total (fun c => c ≠ SP && c ≠ CR) data (max - first) first
        (by omega)
      obtain ⟨after, before, _, _⟩ := scan_spec run
      rw [run]
      exact ⟨_, rfl, fun n same => by
        cases same
        exact ⟨by omega, by omega, .inr ⟨lower, after, rfl⟩⟩⟩

/-- Appended bytes do not change a token. -/
theorem natsToken_append (more : List UInt8) {pos : Nat} {token : Token}
    (done : natsToken data pos max = .ok token) : natsToken (data ++ more) pos max = .ok token := by
  unfold natsToken at done ⊢
  obtain ⟨first, skipped, done⟩ := except_bind_ok.mp done
  refine except_bind_ok.mpr ⟨first, scan_append more skipped, ?_⟩
  split at done
  · next spaces => rw [if_pos spaces]; exact done
  · next token =>
    rw [if_neg token]
    obtain ⟨c, read, done⟩ := except_bind_ok.mp done
    refine except_bind_ok.mpr ⟨c, load_append more read, ?_⟩
    split at done
    · next quoted =>
      rw [if_pos quoted]
      split at done
      · next last => rw [if_pos last]; exact done
      · next inner =>
        rw [if_neg inner]
        obtain ⟨stop, run, done⟩ := except_bind_ok.mp done
        exact except_bind_ok.mpr ⟨stop, natsTokenQuoted_append more run, done⟩
    · next plain =>
      rw [if_neg plain]
      obtain ⟨stop, run, done⟩ := except_bind_ok.mp done
      exact except_bind_ok.mpr ⟨stop, scan_append more run, done⟩

end NgxNats

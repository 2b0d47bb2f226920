import NgxNats.Verif.JsonStrings

/-!
# The scratch string between strings

The strings of a document share one scratch string, whose capacity is what earlier strings left.
What a string decodes to, or why it is refused, does not depend on that capacity.
-/
namespace NgxNats.Json

open Dialect

variable {env : JsonEnv} {b : List UInt8} {q : UInt8}

/-- Decoding an escape does not look at the context. -/
theorem unescape_answer (letter : UInt8) :
    ∃ answer, ∀ ctx, unescape letter ctx = (answer, ctx) := by
  unfold unescape
  simp only [Program.ite_run]
  repeat' split
  all_goals exact ⟨_, fun _ => rfl⟩

/-- The string loop answers alike from two capacities. -/
theorem stringLoop_same (allocates : ∀ n, env.pool n = true) (q : UInt8) (rounds : Nat)
    {n mspos mspos' : Nat}
    {out : List UInt8} {ctx ctx' : JsonCtx} (inside : n ≤ b.length)
    (scanning : Scanning ctx mspos out) (scanning' : Scanning ctx' mspos' out) :
    (stringLoop env (.ofList b) q rounds n mspos out ctx).1 =
      (stringLoop env (.ofList b) q rounds n mspos' out ctx').1 := by
  induction rounds generalizing n mspos mspos' out ctx ctx' with
  | zero => rfl
  | succ rounds ih =>
    by_cases more : n < b.length
    swap
    · have past : ¬n < (Str.ofList b).len := more
      rw [stringLoop, stringLoop, if_neg past, if_neg past]
      rfl
    by_cases short : out.length ≤ 1048574
    swap
    · have long := Nat.lt_of_not_le short
      rw [stringLoop_full more scanning long, stringLoop_full more scanning' long]
    obtain ⟨mark, middle, stored, run⟩ := stringLoop_round q rounds allocates more scanning short
    obtain ⟨mark', middle', stored', run'⟩ :=
      stringLoop_round q rounds allocates more scanning' short
    obtain ⟨c, rest, left⟩ := List.exists_cons_of_ne_nil
      (List.ne_nil_of_length_pos (l := b.drop n) (by rw [List.length_drop]; omega))
    rw [run, run', stringRound, stringRound, Program.bind_ok (byte_head left middle),
      Program.bind_ok (byte_head left middle')]
    by_cases escaped : c = 92
    · rw [if_pos escaped, if_pos escaped]
      by_cases last : (Str.ofList b).len ≤ n + 1
      · rw [if_pos last, if_pos last]
        rfl
      rw [if_neg last, if_neg last]
      rw [ofList_len] at last
      obtain ⟨letter, after, next⟩ := List.exists_cons_of_ne_nil
        (List.ne_nil_of_length_pos (l := b.drop (n + 1)) (by rw [List.length_drop]; omega))
      rw [Program.bind_ok (byte_head next middle), Program.bind_ok (byte_head next middle')]
      obtain ⟨answer, decodes⟩ := unescape_answer letter
      cases answer with
      | error stop => rw [Program.bind_error (decodes middle), Program.bind_error (decodes middle')]
      | ok decoded =>
        rw [Program.bind_ok (decodes middle), Program.bind_ok (decodes middle'),
          Program.bind_ok (putChar_run (stored decoded).room_before decoded),
          Program.bind_ok (putChar_run (stored' decoded).room_before decoded)]
        exact ih (by omega) (stored decoded) (stored' decoded)
    · rw [if_neg escaped, if_neg escaped]
      by_cases closing : c = q
      · rw [if_pos closing, if_pos closing]
        rfl
      · rw [if_neg closing, if_neg closing, Program.bind_ok (putChar_run (stored c).room_before c),
          Program.bind_ok (putChar_run (stored' c).room_before c)]
        exact ih more (stored c) (stored' c)

/-- A string answers alike from two capacities. -/
theorem parseString_same (allocates : ∀ n, env.pool n = true) {ctx ctx' : JsonCtx}
    (inside : ctx.pos ≤ b.length) (same : ctx'.pos = ctx.pos) (roomy : Roomy ctx)
    (roomy' : Roomy ctx') : (parseString env (.ofList b) q ctx).1 =
      (parseString env (.ofList b) q ctx').1 := by
  have loop := stringLoop_same allocates q (b.length + 1) inside roomy.scanning
    roomy'.scanning
  unfold parseString
  rw [Program.get_bind, Program.get_bind, same, ofList_len]
  match run : stringLoop env (.ofList b) q (b.length + 1) ctx.pos (ctx.strCap - 2) [] ctx,
    run' : stringLoop env (.ofList b) q (b.length + 1) ctx.pos (ctx'.strCap - 2) [] ctx' with
  | (.error stop, last), (answer, last') =>
    rw [run, run'] at loop
    simp only at loop
    subst loop
    rw [Program.bind_error run, Program.bind_error run']
  | (.ok (n, out, quoteFound), last), (answer, last') =>
    rw [run, run'] at loop
    simp only at loop
    subst loop
    rw [Program.bind_ok run, Program.bind_ok run']
    simp only [Program.modify_bind]
    cases quoteFound with
    | true =>
      simp only [↓reduceIte]
      rw [Program.bind_ok (allocate_run allocates _), Program.bind_ok (allocate_run allocates _)]
      rfl
    | false => rfl

end NgxNats.Json

namespace NgxNats

open Dialect Json

/-- Strings are decoded exactly. The parser returns what the text up to the first unescaped
quote decodes to, at most 1048574 bytes, and stops behind that quote; it refuses every other text,
never stores outside the scratch string, and its answer does not depend on the capacity. -/
theorem string_exact (env : JsonEnv) (allocates : ∀ n, env.pool n = true) (b : List UInt8)
    (q : UInt8) (quote : q = 34 ∨ q = 39) (ctx : JsonCtx) (inside : ctx.pos ≤ b.length)
    (doublings : Nat) (few : doublings ≤ 10) (cap : ctx.strCap = 1024 * 2 ^ doublings) :
    (∀ bytes pos, (∃ last, parseString env (.ofList b) q ctx = (.ok bytes, last) ∧ last.pos = pos) ↔
      ∃ body rest, b.drop ctx.pos = body ++ q :: rest ∧ Content q body bytes ∧
        bytes.length ≤ 1048574 ∧ pos = ctx.pos + body.length + 1) ∧
    (∀ stop last, parseString env (.ofList b) q ctx = (.error stop, last) → Refusal stop) ∧
    ∀ ctx' : JsonCtx, ctx'.pos = ctx.pos → Roomy ctx' →
      (parseString env (.ofList b) q ctx).1 = (parseString env (.ofList b) q ctx').1 := by
  have roomy : Roomy ctx := ⟨doublings, few, cap⟩
  have here : At b (b.drop ctx.pos) ctx := ⟨rfl, inside, roomy⟩
  have ends := parseString_ends env q here
  have other : q ≠ 92 := by
    rcases quote with rfl | rfl
    · decide
    · decide
  refine ⟨fun bytes pos => ⟨?_, ?_⟩, fun stop last run => ends.error run, fun ctx' same roomy' =>
    parseString_same allocates inside same roomy roomy'⟩
  · rintro ⟨last, run, rfl⟩
    obtain ⟨body, rest, split, content, limit, behind⟩ := ends.ok run
    have before := here.pos_eq
    have after := behind.pos_eq
    rw [split, List.length_append, List.length_cons] at before
    exact ⟨body, rest, split, content, limit, by omega⟩
  · rintro ⟨body, rest, split, content, limit, rfl⟩
    rw [split] at here
    obtain ⟨last, run, behind⟩ := parseString_run allocates other content limit here
    have before := here.pos_eq
    have after := behind.pos_eq
    rw [List.length_append, List.length_cons] at before
    exact ⟨last, run, by omega⟩

/-- A pool that never runs dry, and a `strtod` that reads nothing. -/
def grantedJson : JsonEnv := ⟨fun _ => true, fun _ => (0, 0)⟩

/-- An escaped line feed is decoded, and what follows the closing quote is left. -/
theorem string_exact_escape : ∃ last,
    parseString grantedJson (.ofList [97, 92, 110, 39, 122]) 39 {} = (.ok [97, 10], last) ∧
      last.pos = 4 := by
  have content : Content 39 [97, 92, 110] [97, 10] :=
    .plain (by decide) (by decide) (.escape (by decide) .nil)
  have exact := string_exact grantedJson (fun _ => rfl) [97, 92, 110, 39, 122] 39 (Or.inr rfl) {}
    (Nat.zero_le _) 0 (Nat.zero_le _) rfl
  exact (exact.1 [97, 10] 4).mpr ⟨[97, 92, 110], [122], rfl, content, by decide, rfl⟩

end NgxNats
